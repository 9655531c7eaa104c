import ModelCatalog.Decimal.Real

/-!
JSON values and their text. An object keeps its members in the order in which they are written.
-/

namespace ModelCatalog

inductive Json where
  | null
  | bool (value : Bool)
  | int (value : Int)
  | real (value : Float)
  | string (value : String)
  | list (items : List Json)
  | object (members : List (String × Json))
  deriving Repr, Inhabited

namespace Json

def hexDigit (n : Nat) : Char := (Nat.toDigits 16 n).headD '0'

def escapeChar (c : Char) : List Char :=
  if c = '"' then ['\\', '"']
  else if c = '\\' then ['\\', '\\']
  else if c.toNat = 8 then ['\\', 'b']
  else if c.toNat = 9 then ['\\', 't']
  else if c.toNat = 10 then ['\\', 'n']
  else if c.toNat = 12 then ['\\', 'f']
  else if c.toNat = 13 then ['\\', 'r']
  else if c.toNat < 32 then
    ['\\', 'u', '0', '0', hexDigit (c.toNat / 16), hexDigit (c.toNat % 16)]
  else [c]

def writeText (text : String) : List Char := '"' :: text.toList.flatMap escapeChar ++ ['"']

/-- Positional with a fraction from 10 ^ -5 up to below 10 ^ 16, else with an exponent. -/
def writeScientific (s : Decimal.Scientific) : List Char :=
  let digits := Decimal.digits s.coefficient
  let place : Int := digits.length + s.exponent
  if 0 ≤ s.exponent ∧ place ≤ 16 then s.positional ++ ['.', '0']
  else if -5 < place ∧ place ≤ 16 then s.positional
  else
    let exponent := Decimal.signedDigits (place - 1)
    match digits with
    | [] => []
    | [d] => d :: 'e' :: exponent
    | d :: rest => d :: '.' :: rest ++ 'e' :: exponent

/-- The fewest digits that read back; a number that is not finite has no text of its own. -/
def writeReal (x : Float) : List Char :=
  match Decimal.shape x with
  | .nan => "null".toList
  | .infinite _ => "null".toList
  | .zero negative => Decimal.signed negative "0.0".toList
  | .finite b => Decimal.signed b.negative (writeScientific (b.shortest .toEven))

def writeScalar : Json → List Char
  | null => "null".toList
  | bool value => if value then "true".toList else "false".toList
  | int value => Decimal.signedDigits value
  | real value => writeReal value
  | string value => writeText value
  | list _ => []
  | object _ => []

mutual

def write : Json → List Char
  | list items => '[' :: writeItems items ++ [']']
  | object members => '{' :: writeMembers members ++ ['}']
  | scalar => scalar.writeScalar

def writeItems : List Json → List Char
  | [] => []
  | [item] => item.write
  | item :: rest => item.write ++ ',' :: writeItems rest

def writeMembers : List (String × Json) → List Char
  | [] => []
  | [(key, value)] => writeText key ++ ':' :: value.write
  | (key, value) :: rest => writeText key ++ ':' :: value.write ++ ',' :: writeMembers rest

end

def compact (value : Json) : String := String.ofList value.write

def lineBreak (depth : Nat) : List Char := '\n' :: List.replicate (2 * depth) ' '

mutual

def writeIndented (depth : Nat) : Json → List Char
  | list [] => ['[', ']']
  | list items => '[' :: writeItemLines (depth + 1) items ++ lineBreak depth ++ [']']
  | object [] => ['{', '}']
  | object members => '{' :: writeMemberLines (depth + 1) members ++ lineBreak depth ++ ['}']
  | scalar => scalar.writeScalar

def writeItemLines (depth : Nat) : List Json → List Char
  | [] => []
  | [item] => lineBreak depth ++ item.writeIndented depth
  | item :: rest =>
    lineBreak depth ++ item.writeIndented depth ++ ',' :: writeItemLines depth rest

def writeMemberLines (depth : Nat) : List (String × Json) → List Char
  | [] => []
  | [(key, value)] => lineBreak depth ++ writeText key ++ ':' :: ' ' :: value.writeIndented depth
  | (key, value) :: rest =>
    lineBreak depth ++ writeText key ++ ':' :: ' ' :: value.writeIndented depth ++
      ',' :: writeMemberLines depth rest

end

def pretty (value : Json) : String := String.ofList (value.writeIndented 0)

def orNull {α : Type} (write : α → Json) : Option α → Json
  | none => null
  | some value => write value

def member {α : Type} (key : String) (write : α → Json) : Option α → List (String × Json)
  | none => []
  | some value => [(key, write value)]

def strings (values : List String) : Json := list (values.map string)

mutual

def sorted : Json → Json
  | list items => list (sortedItems items)
  | object members =>
    object ((sortedMembers members).mergeSort fun a b => decide (a.1 ≤ b.1))
  | scalar => scalar

def sortedItems : List Json → List Json
  | [] => []
  | item :: rest => item.sorted :: sortedItems rest

def sortedMembers : List (String × Json) → List (String × Json)
  | [] => []
  | (key, value) :: rest => (key, value.sorted) :: sortedMembers rest

end

mutual

def depth : Json → Nat
  | list items => depthOfItems items + 1
  | object members => depthOfMembers members + 1
  | _ => 0

def depthOfItems : List Json → Nat
  | [] => 0
  | item :: rest => max item.depth (depthOfItems rest)

def depthOfMembers : List (String × Json) → Nat
  | [] => 0
  | (_, value) :: rest => max value.depth (depthOfMembers rest)

end

end Json

end ModelCatalog
