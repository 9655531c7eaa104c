import ModelCatalog.Query.Connector
import ModelCatalog.TextIndex.Phrase

/-!
Match expressions: phrases, by themselves or near one another, combined by AND, OR and NOT. An index is
matched as a whole: all that an expression asks for has to be in one row of it. `Measured` carries the
nesting of an expression along; a chain of one connector nests once.
-/

namespace ModelCatalog.TextMatch

open TextIndex (Phrase)

inductive Expression where
  | phrase (phrase : Phrase)
  | near (phrases : List Phrase)
  | and (left right : Expression)
  | or (left right : Expression)
  /-- The left side without the right side. -/
  | not (left right : Expression)
  deriving Repr

namespace Expression

def join (connector : Connector) (left right : Expression) : Expression :=
  match connector with
  | .and => .and left right
  | .or => .or left right
  | .not => .not left right

/-- Phrases near one another. Those without tokens are left out, unless all are such phrases. -/
def ofGroup (group : List Phrase) : Expression :=
  match group.filter fun phrase => !phrase.isBlank with
  | [] => phrase ⟨[], false⟩
  | [alone] => phrase alone
  | phrases => near phrases

def phrases : Expression → List Phrase
  | phrase sought => [sought]
  | near phrases => phrases
  | and left right => left.phrases ++ right.phrases
  | or left right => left.phrases ++ right.phrases
  | not left right => left.phrases ++ right.phrases

def size : Expression → Nat
  | phrase _ => 1
  | near _ => 1
  | and left right => left.size + right.size + 1
  | or left right => left.size + right.size + 1
  | not left right => left.size + right.size + 1

def isChainOf (connector : Connector) : Expression → Bool
  | and _ _ => connector == .and
  | or _ _ => connector == .or
  | _ => false

def isBlank : Expression → Bool
  | phrase sought => sought.isBlank
  | _ => false

def isMatch (row : IndexRow) : Expression → Bool
  | phrase sought => sought.isFoundIn row
  | near phrases => Phrase.areNearIn phrases row
  | and left right => left.isMatch row && right.isMatch row
  | or left right => left.isMatch row || right.isMatch row
  | not left right => left.isMatch row && !right.isMatch row

end Expression

structure Measured where
  expression : Expression
  depth : Nat
  deriving Repr

namespace Measured

def greatestDepth : Nat := 256

def leaf (expression : Expression) : Measured := ⟨expression, 0⟩

/-- The depth of an expression on one side of a connector, which it may share. -/
def depthUnder (connector : Connector) (side : Measured) : Nat :=
  if side.expression.isChainOf connector then side.depth else side.depth + 1

def join (connector : Connector) (left right : Measured) : Option Measured :=
  let depth := max (left.depthUnder connector) (right.depthUnder connector)
  if depth ≤ greatestDepth then some ⟨.join connector left.expression right.expression, depth⟩
  else none

/-- A phrase or a near group beside others, all of which have to match. One without tokens is left out,
unless all are such. -/
def beside (left : Measured) (expression : Expression) : Option Measured :=
  if expression.isBlank then some left
  else if left.expression.isBlank then some (leaf expression)
  else join .and left (leaf expression)

end Measured

end ModelCatalog.TextMatch
