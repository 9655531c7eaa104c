import ModelCatalog.Json.Value

/-!
The numbers of JSON text. The digits of a number are read into a word of 64 bits, as far as they
fit, and the word is scaled by a power of ten; a number that is not whole is near to its text, but
not always the nearest.
-/

namespace ModelCatalog.Json

def readWhole (text : List Char) : Option (List Char × List Char) :=
  match text with
  | '0' :: rest => some (['0'], rest)
  | _ =>
    let digits := text.takeWhile Char.isDigit
    if digits.isEmpty then none else some (digits, text.dropWhile Char.isDigit)

def readFraction : List Char → Option (Option (List Char) × List Char)
  | '.' :: rest =>
    let digits := rest.takeWhile Char.isDigit
    if digits.isEmpty then none else some (some digits, rest.dropWhile Char.isDigit)
  | text => some (none, text)

def readExponent : List Char → Option (Option Int × List Char)
  | [] => some (none, [])
  | c :: rest =>
    if c = 'e' ∨ c = 'E' then
      let (negative, rest) :=
        match rest with
        | '+' :: rest => (false, rest)
        | '-' :: rest => (true, rest)
        | _ => (false, rest)
      let digits := rest.takeWhile Char.isDigit
      if digits.isEmpty then none
      else
        let n : Int := Decimal.ofDigits digits
        some (some (if negative then -n else n), rest.dropWhile Char.isDigit)
    else some (none, c :: rest)

/-- The digits read into a word after the number `n`, as far as they fit, and how many of them do
not. -/
def readWord (n : Nat) : List Char → Nat × Nat
  | [] => (n, 0)
  | c :: rest =>
    let next := n * 10 + (c.toNat - '0'.toNat)
    if next < UInt64.size then readWord next rest else (n, rest.length + 1)

def powerOfTen (n : Nat) : Float := Float.ofScientific 1 false n

/-- A word times a power of ten, infinite if the power alone is too large. -/
def scaled (word : Nat) (exponent : Int) : Float :=
  let size := word.toUInt64.toFloat
  if word = 0 then 0
  else if 308 < exponent then 1 / 0
  else if 0 ≤ exponent then size * powerOfTen exponent.toNat
  else if -308 ≤ exponent then size / powerOfTen (-exponent).toNat
  else if -616 ≤ exponent then size / powerOfTen 308 / powerOfTen (-308 - exponent).toNat
  else 0

/-- The size of a number. Digits before the point that do not fit raise the exponent, and those
after it are dropped. -/
def sizeOf (whole fraction : List Char) (exponent : Int) : Float :=
  let (word, raised) := readWord 0 whole
  let (word, dropped) := readWord word fraction
  scaled word (exponent + raised - (fraction.length - dropped : Nat))

/-- A whole number within 64 bits is kept exactly; any other number is refused if it is too large.
Minus zero is no whole number. -/
def numberOf (strict negative : Bool) (whole : List Char) (fraction : Option (List Char))
    (exponent : Option Int) : Option Json :=
  let n : Int := if negative then -(Decimal.ofDigits whole : Int) else Decimal.ofDigits whole
  if fraction.isNone && exponent.isNone && decide (Int64.minValue.toInt ≤ n ∧ n < UInt64.size)
      && !(negative && n == 0) then
    some (int n)
  else
    let size := sizeOf whole (fraction.getD []) (exponent.getD 0)
    if strict && !size.isFinite then none else some (real (if negative then -size else size))

def readNumber (strict : Bool) (text : List Char) : Option (Json × List Char) := do
  let (negative, text) :=
    match text with
    | '-' :: rest => (true, rest)
    | _ => (false, text)
  let (whole, text) ← readWhole text
  let (fraction, text) ← readFraction text
  let (exponent, text) ← readExponent text
  return (← numberOf strict negative whole fraction exponent, text)

end ModelCatalog.Json
