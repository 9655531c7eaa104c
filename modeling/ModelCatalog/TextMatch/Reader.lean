import ModelCatalog.TextMatch.Expression
import ModelCatalog.TextMatch.Lexeme

/-!
Reading match expressions. NOT binds more tightly than AND, and AND more tightly than OR; all three
group to the left, and phrases side by side are joined first. A group after the bareword NEAR asks for
phrases near one another. What waits for its end is held, and an expression for which too much would be
held is refused.
-/

namespace ModelCatalog.TextMatch

open TextIndex (Phrase)

def binding : Connector → Nat
  | .or => 1
  | .and => 2
  | .not => 3

inductive Waiting where
  | group
  | joint (left : Measured) (connector : Connector)
  deriving Repr

def weight : List Waiting → Nat
  | [] => 0
  | .group :: waiting => weight waiting + 1
  | .joint _ _ :: waiting => weight waiting + 2

def greatestWeight : Nat := 99

def hold (weight : Nat) : Except ExpressionError Unit :=
  if greatestWeight < weight then .error .overflow else .ok ()

inductive Operand where
  | missing
  /-- Phrases and near groups, which others may follow. -/
  | phrases (side : Measured)
  | complete (side : Measured)
  deriving Repr

namespace Operand

def side? : Operand → Option Measured
  | missing => none
  | phrases side => some side
  | complete side => some side

end Operand

/-- What was read last and is not part of the operand yet. -/
inductive Trailing where
  | nothing
  /-- A string or bareword, which is a phrase unless a group opens after it. -/
  | string (phrase : Phrase) (isNear : Bool)
  /-- An open group behind a string or bareword, with its phrases; the last one may get a star. -/
  | group (isNear : Bool) (phrases : List Phrase) (last? : Option Phrase)
  /-- The group is closed. It is one of near phrases only behind the bareword NEAR. -/
  | closedGroup (isNear : Bool) (phrases : List Phrase)
  deriving Repr

/-- An expression read so far: what waits, the innermost first, and the operand after it. -/
structure Draft where
  waiting : List Waiting := []
  operand : Operand := .missing
  trailing : Trailing := .nothing
  deriving Repr

/-- Ends the joints, the innermost first, that bind at least as tightly as `least`. -/
def settle (least : Nat) :
    List Waiting → Measured → Except ExpressionError (List Waiting × Measured)
  | .joint left connector :: waiting, right =>
    if binding connector < least then .ok (.joint left connector :: waiting, right)
    else
      match left.join connector right with
      | some joined => settle least waiting joined
      | none => .error .tooLarge
  | waiting, right => .ok (waiting, right)

namespace Draft

/-- What comes after the operand `side` does not fit. All joints before it are ended first. -/
def refused (draft : Draft) (side : Measured) : Except ExpressionError Draft := do
  discard <| settle 0 draft.waiting side
  throw .malformed

def weight (draft : Draft) : Nat :=
  match draft.operand with
  | .phrases _ => TextMatch.weight draft.waiting + 1
  | _ => TextMatch.weight draft.waiting

/-- What is held in a group: the string before it, its parenthesis, and one for all of its phrases. -/
def groupWeight (draft : Draft) (phrases : List Phrase) : Nat :=
  draft.weight + 2 + min phrases.length 1

def add (draft : Draft) (expression : Expression) : Except ExpressionError Draft :=
  match draft.operand with
  | .complete side => draft.refused side
  | .missing => .ok { draft with operand := .phrases (.leaf expression), trailing := .nothing }
  | .phrases side =>
    match side.beside expression with
    | some side => .ok { draft with operand := .phrases side, trailing := .nothing }
    | none => .error .tooLarge

def endLast (draft : Draft) (phrases : List Phrase) :
    Option Phrase → Except ExpressionError (List Phrase)
  | none => .ok phrases
  | some last => do
    hold (draft.groupWeight phrases + 2)
    return phrases ++ [last]

/-- No group follows, so that what trails becomes part of the operand. -/
def settled (draft : Draft) : Except ExpressionError Draft :=
  match draft.trailing with
  | .nothing => .ok draft
  | .string phrase _ => do
    hold (draft.weight + 2)
    draft.add (.phrase phrase)
  | .group _ phrases last? => do
    discard <| draft.endLast phrases last?
    throw .malformed
  | .closedGroup true phrases => draft.add (.ofGroup phrases)
  | .closedGroup false _ => .error .malformed

def string (draft : Draft) (phrase : Phrase) (isNear : Bool) : Except ExpressionError Draft :=
  match draft.operand with
  | .complete side => draft.refused side
  | _ => do
    hold (draft.weight + 1)
    return { draft with trailing := .string phrase isNear }

def opening (draft : Draft) : Except ExpressionError Draft :=
  match draft.operand.side? with
  | some side => draft.refused side
  | none => do
    hold (draft.weight + 1)
    return { draft with waiting := .group :: draft.waiting }

def connector (draft : Draft) (connector : Connector) : Except ExpressionError Draft :=
  match draft.operand.side? with
  | none => .error .malformed
  | some side => do
    let (waiting, side) ← settle (binding connector) draft.waiting side
    return { waiting := .joint side connector :: waiting }

def closing (draft : Draft) : Except ExpressionError Draft :=
  match draft.operand.side? with
  | none => .error .malformed
  | some side => do
    match ← settle 0 draft.waiting side with
    | (.group :: waiting, side) => return { waiting, operand := .complete side }
    | _ => throw .malformed

def next (draft : Draft) : Lexeme → Except ExpressionError Draft
  | .phrase text false => draft.string (.ofText text false) false
  | .phrase text true => do (← draft.string (.ofText text true) false).settled
  | .near => draft.string (.ofText nearText false) true
  | .connector connector => draft.connector connector
  | .opening => draft.opening
  | .closing => draft.closing

def groupString (draft : Draft) (isNear : Bool) (phrases : List Phrase) (last : Phrase) :
    Except ExpressionError Draft := do
  hold (draft.groupWeight phrases + 1)
  return { draft with trailing := .group isNear phrases (some last) }

def inGroup (draft : Draft) (isNear : Bool) (phrases : List Phrase) :
    Lexeme → Except ExpressionError Draft
  | .phrase text false => draft.groupString isNear phrases (.ofText text false)
  | .phrase text true => do
    let draft ← draft.groupString isNear phrases (.ofText text true)
    let phrases ← draft.endLast phrases (some (.ofText text true))
    return { draft with trailing := .group isNear phrases none }
  | .near => draft.groupString isNear phrases (.ofText nearText false)
  | .closing =>
    if phrases.isEmpty then .error .malformed
    else do
      hold (draft.groupWeight phrases + 2)
      return { draft with trailing := .closedGroup isNear phrases }
  | _ => .error .malformed

def lexeme (draft : Draft) (lexeme : Lexeme) : Except ExpressionError Draft :=
  match draft.trailing, lexeme with
  | .string _ isNear, .opening => do
    hold (draft.weight + 2)
    return { draft with trailing := .group isNear [] none }
  | .group isNear phrases last?, lexeme => do
    draft.inGroup isNear (← draft.endLast phrases last?) lexeme
  | _, lexeme => do (← draft.settled).next lexeme

def expression (draft : Draft) : Except ExpressionError Expression := do
  let draft ← draft.settled
  match draft.operand.side? with
  | none => throw .malformed
  | some side =>
    match ← settle 0 draft.waiting side with
    | ([], whole) => return whole.expression
    | _ => throw .malformed

end Draft

/-- Lexemes are taken in one by one, so that an error among them counts before one behind them. -/
def parseExpression (text : String) : Except ExpressionError Expression := do
  let scanned := scan text.toList
  let draft ← scanned.lexemes.foldlM Draft.lexeme {}
  match scanned.error? with
  | none => draft.expression
  | some error => throw error

end ModelCatalog.TextMatch
