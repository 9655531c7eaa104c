import ModelCatalog.Json.Value
import ModelCatalog.Time.Reading
import ModelCatalog.Toml.Text

/-!
The values of TOML that are one word: booleans, numbers and times.
-/

namespace ModelCatalog.Toml

def ungrouped? (isDigit : Char → Bool) (text : List Char) : Option (List Char) :=
  let groups := text.splitOn '_'
  if groups.all fun group => !group.isEmpty && group.all isDigit then some groups.flatten else none

def wholeDigits? (text : List Char) : Option (List Char) := do
  let digits ← ungrouped? Char.isDigit text
  if digits.head? == some '0' && 1 < text.length then none else some digits

def isHexDigit (c : Char) : Bool := (Text.hexValue? c).isSome

def ofBase (base : Nat) (digits : List Char) : Nat :=
  digits.foldl (fun n c => base * n + (Text.hexValue? c).getD 0) 0

def readSign : List Char → Bool × List Char
  | '+' :: rest => (false, rest)
  | '-' :: rest => (true, rest)
  | text => (false, text)

def integer? (word : List Char) : Option Int :=
  match word with
  | '0' :: 'x' :: rest => (ungrouped? isHexDigit rest).map fun digits => ofBase 16 digits
  | '0' :: 'o' :: rest =>
    (ungrouped? (fun c => c.isDigit && c < '8') rest).map fun digits => ofBase 8 digits
  | '0' :: 'b' :: rest =>
    (ungrouped? (fun c => c == '0' || c == '1') rest).map fun digits => ofBase 2 digits
  | _ =>
    let (negative, rest) := readSign word
    (wholeDigits? rest).map fun digits =>
      let n : Int := Decimal.ofDigits digits
      if negative then -n else n

def exponent? : List Char → Option Int
  | [] => some 0
  | _ :: text => do
    let (negative, text) := readSign text
    let n : Int := Decimal.ofDigits (← ungrouped? Char.isDigit text)
    return if negative then -n else n

def fraction? : List Char → Option (List Char)
  | [] => some []
  | _ :: text => ungrouped? Char.isDigit text

def isExponentMark (c : Char) : Bool := c == 'e' || c == 'E'

def magnitude? (word : List Char) : Option Float := do
  if word = "inf".toList then return Float.ofBits 0x7FF0000000000000
  if word = "nan".toList then return Float.ofBits 0x7FF8000000000000
  let mantissa := word.takeWhile fun c => !isExponentMark c
  let whole ← wholeDigits? (mantissa.takeWhile (· != '.'))
  let fraction ← fraction? (mantissa.dropWhile (· != '.'))
  let exponent ← exponent? (word.dropWhile fun c => !isExponentMark c)
  return Decimal.nearest (Decimal.ofDigits (whole ++ fraction)) (exponent - fraction.length)

/-- A decimal number above all floats is refused; one below them is minus infinity. -/
def real? (word : List Char) : Option Float := do
  let (negative, rest) := readSign word
  let size ← magnitude? rest
  if negative then return -size
  if size.isInf && rest.head? != some 'i' then none else some size

def isDateWord (word : List Char) : Bool :=
  match Time.readDate? word with
  | none => false
  | some (_, []) => true
  | some (_, separator :: rest) =>
    (separator == 'T' || separator == 't' || separator == ' ') &&
      match (do let (_, rest) ← Time.readClock? rest; Time.readFraction? rest) with
      | none => false
      | some (_, rest) => rest.isEmpty || (Time.readOffset? rest).isSome

def isClockWord (word : List Char) : Bool :=
  match (do let (_, rest) ← Time.readClock? word; Time.readFraction? rest) with
  | none => false
  | some (_, rest) => rest.isEmpty

/-- The value that a word means. A time is an object of which no setting knows the members. -/
def scalar? (word : List Char) : Option Json :=
  if word = "true".toList then some (.bool true)
  else if word = "false".toList then some (.bool false)
  else if isDateWord word || isClockWord word then some (.object [])
  else
    match integer? word with
    | some n => (Decimal.int64? n).map fun n => .int n.toInt
    | none => (real? word).map .real

def endsWord (c : Char) : Bool :=
  isSpace c || c == '\n' || c == ',' || c == ']' || c == '}' || c == '#'

/-- The word at the front and the rest. One blank may separate a date from a time of day. -/
def splitWord (text : List Char) : List Char × List Char :=
  let word := text.takeWhile fun c => !endsWord c
  match text.drop word.length with
  | ' ' :: c :: rest =>
    if isDateWord word && c.isDigit then
      let clock := (c :: rest).takeWhile fun c => !endsWord c
      (word ++ ' ' :: clock, (c :: rest).drop clock.length)
    else (word, ' ' :: c :: rest)
  | rest => (word, rest)

def readScalar? (text : List Char) : Option (Json × List Char) := do
  let (word, rest) := splitWord text
  return (← scalar? word, rest)

end ModelCatalog.Toml
