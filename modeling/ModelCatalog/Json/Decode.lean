import ModelCatalog.Json.Reader

/-!
Reading typed values out of JSON. A field may be written at most once; a sequence of values stands
for the fields in their order.
-/

namespace ModelCatalog.Json

def toBool? : Json → Option Bool
  | bool value => some value
  | _ => none

def toInt64? : Json → Option Int64
  | int n => Decimal.int64? n
  | _ => none

def toUInt32? : Json → Option UInt32
  | int n => if 0 ≤ n ∧ n < UInt32.size then some (UInt32.ofNat n.toNat) else none
  | _ => none

def toUInt64? : Json → Option UInt64
  | int n => if 0 ≤ n ∧ n < UInt64.size then some (UInt64.ofNat n.toNat) else none
  | _ => none

def toString? : Json → Option String
  | string value => some value
  | _ => none

def toStrings? : Json → Option (List String)
  | list items => items.mapM toString?
  | _ => none

def toOption? {α : Type} (decode : Json → Option α) : Json → Option (Option α)
  | null => some none
  | value => (decode value).map some

def field? (key : String) (members : List (String × Json)) : Option (Option Json) :=
  match members.filter fun member => member.1 == key with
  | [] => some none
  | [(_, value)] => some (some value)
  | _ => none

def required? {α : Type} (decode : Json → Option α) (key : String)
    (members : List (String × Json)) : Option α := do
  decode (← ← field? key members)

def defaulted? {α : Type} (decode : Json → Option α) (absent : α) (key : String)
    (members : List (String × Json)) : Option α := do
  match ← field? key members with
  | none => some absent
  | some value => decode value

def optional? {α : Type} (decode : Json → Option α) (key : String)
    (members : List (String × Json)) : Option (Option α) :=
  defaulted? (toOption? decode) none key members

/-- The values of a sequence under the names of the fields, if there are not too many. -/
def named? (names : List String) (items : List Json) : Option (List (String × Json)) :=
  if items.length ≤ names.length then some (names.zip items) else none

def fieldsOf? (names : List String) : Json → Option (List (String × Json))
  | object members => some members
  | list items => named? names items
  | _ => none

/-- Reads such an object from text; what its other members hold does not matter. -/
def readFields (names : List String) (text : String) : Option (List (String × Json)) :=
  match skipSpace text.toList with
  | '[' :: _ => do fieldsOf? names (← read text)
  | _ => readMembers names.contains text.toList

end ModelCatalog.Json
