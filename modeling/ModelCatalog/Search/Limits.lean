import ModelCatalog.Decimal.Integer
import ModelCatalog.Error
import ModelCatalog.Search.Plan

/-!
What a store allows of the statements of a plan. It refuses one that nests too deeply, and one that
binds too many values.
-/

namespace ModelCatalog

def Condition.depth : Condition → Nat
  | tagged _ => 26
  | untagged _ => 27
  | inProject true => 12
  | inProject false => 13
  | notViewedAfter _ => 10
  | equals _ _ => 3
  | oneOf _ values => if values.length = 1 then 5 else 6
  | atLeast _ _ => 3
  | atMost _ _ => 3
  | notBefore _ _ => 7
  | notAfter _ _ => 7

namespace SearchPlan

def clauseDepths (plan : SearchPlan) : List Nat :=
  (if plan.hasText then [6] else []) ++ plan.conditions.map Condition.depth

/-- The greatest depth that clauses reach which are joined from the left: each one stands in the
groups of all joints after it, and all but the first one to the right of a joint. -/
def depthAfter : (clauses : List Nat) → Nat
  | [] => 0
  | clause :: rest => max (rest.length + 3 + clause) (depthAfter rest)

def depth (plan : SearchPlan) : Nat :=
  match plan.clauseDepths with
  | [] => 0
  | first :: rest => 11 + max (rest.length + first) (depthAfter rest)

def refusedDepth : Nat := 100

def isTooDeep (plan : SearchPlan) : Bool := refusedDepth ≤ plan.depth

end SearchPlan

namespace Sql.Fragment

def greatestParams : Nat := 32766

def bindsTooMany (fragment : Fragment) : Bool := greatestParams < fragment.params.length

/-- Where the placeholder stands that has so many before it. -/
def placeholderAt : (before : Nat) → List Char → Nat
  | _, [] => 0
  | before, c :: rest =>
    if c = '?' then
      match before with
      | 0 => 0
      | before + 1 => placeholderAt before rest + 1
    else placeholderAt before rest + 1

def tooManyParams (fragment : Fragment) : SearchError :=
  .storage ("too many SQL variables in " ++ fragment.sql ++ " at offset "
    ++ naturalText (placeholderAt greatestParams fragment.sql.toList))

end Sql.Fragment

end ModelCatalog
