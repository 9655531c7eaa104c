import ModelCatalog.Decimal.Shortest
import ModelCatalog.Text.Character

/-!
Real numbers as text: in plain notation with the fewest digits, with a fixed number of places, and
read from text.
-/

namespace ModelCatalog.Decimal

def signed (negative : Bool) (text : List Char) : List Char :=
  if negative then '-' :: text else text

/-- The fewest digits, the greater of two equally near, never with an exponent; a whole number has
no point. -/
def plain (x : Float) : List Char :=
  match shape x with
  | .nan => "NaN".toList
  | .infinite negative => signed negative "inf".toList
  | .zero negative => signed negative ['0']
  | .finite b => signed b.negative (b.shortest .up).positional

def withPoint (places n : Nat) : List Char :=
  let text := padded (places + 1) n
  text.take (text.length - places) ++ '.' :: text.drop (text.length - places)

/-- Exactly `places` places, rounded to nearest, a tie to the even digit; none for a number that is
not finite. -/
def fixed? (places : Nat) (x : Float) : Option (List Char) :=
  match shape x with
  | .nan => none
  | .infinite _ => none
  | .zero negative => some (signed negative (withPoint places 0))
  | .finite b => some (signed b.negative (withPoint places ((b.size.scaled places).round .toEven)))

/-- The number nearest to `mantissa · 10 ^ exponent`. An exponent far outside the range of numbers
is cut, which leaves infinity and zero as they are. -/
def nearest (mantissa : Nat) (exponent : Int) : Float :=
  if mantissa = 0 then 0
  else
    let bound : Int := 1000 + (digits mantissa).length
    let exponent := max (-bound) (min bound exponent)
    Float.ofScientific mantissa (decide (exponent < 0)) exponent.natAbs

def readExponent? : List Char → Option Int
  | [] => some 0
  | c :: rest => if c = 'e' ∨ c = 'E' then readSigned? rest else none

def readUnsignedReal? (text : List Char) : Option Float := do
  let whole := text.takeWhile Char.isDigit
  let rest := text.dropWhile Char.isDigit
  let (fraction, rest) :=
    match rest with
    | '.' :: rest => (rest.takeWhile Char.isDigit, rest.dropWhile Char.isDigit)
    | _ => ([], rest)
  if whole.isEmpty && fraction.isEmpty then none
  else
    let exponent ← readExponent? rest
    return nearest (ofDigits (whole ++ fraction)) (exponent - fraction.length)

def readMagnitude? (text : List Char) : Option Float :=
  if Text.sameAscii text "inf".toList || Text.sameAscii text "infinity".toList then
    some (Float.ofBits 0x7FF0000000000000)
  else if Text.sameAscii text "nan".toList then some (Float.ofBits 0x7FF8000000000000)
  else readUnsignedReal? text

def readReal? : List Char → Option Float
  | '+' :: rest => readMagnitude? rest
  | '-' :: rest => (readMagnitude? rest).map fun x => -x
  | text => readMagnitude? text

end ModelCatalog.Decimal
