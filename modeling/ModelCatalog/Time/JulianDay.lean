import ModelCatalog.Decimal.Real
import ModelCatalog.Time.Instant

/-!
Time texts as a store compares them, in milliseconds since 1970. A text is a date, a time of day, or
both, a number of days, or a word for the present; any other text denotes no time. A text ends
before its first NUL character.
-/

namespace ModelCatalog.Time.JulianDay

def isSpace (c : Char) : Bool :=
  c == ' ' || c == '\t' || c == '\n' || c == '\r' || c.toNat == 11 || c.toNat == 12

def millisecondsPerDay : Int := 86400000

def epoch : Int := 210866760000000

def last : Int := 464269060799999

def number? (count least greatest : Nat) (text : List Char) : Option (Nat × List Char) :=
  let digits := text.take count
  let n := Decimal.ofDigits digits
  if digits.length = count ∧ digits.all Char.isDigit ∧ least ≤ n ∧ n ≤ greatest then
    some (n, text.drop count)
  else none

def after? (c : Char) : List Char → Option (List Char)
  | d :: rest => if d = c then some rest else none
  | [] => none

/-- The digits of a fraction, and the rest. A point without digits stays in the rest. -/
def fraction : List Char → List Char × List Char
  | '.' :: rest =>
    let digits := rest.takeWhile Char.isDigit
    if digits.isEmpty then ([], '.' :: rest) else (digits, rest.dropWhile Char.isDigit)
  | text => ([], text)

/-- Seconds with a fraction, in milliseconds. The sum is a binary number before it is rounded, so
that a fraction close to one may give the next second; so many digits that it is no number give no
time. -/
def rounded? (second : Nat) (fraction : List Char) : Option Nat :=
  let part := fraction.foldl (fun part c => part * 10 + c.toNat.toFloat - '0'.toNat.toFloat) 0
  let scale : Float := fraction.foldl (fun scale _ => scale * 10) 1
  let sum := second.toFloat + part / scale
  if sum.isNaN then none else some (sum * 1000 + 0.5).toUInt64.toNat

def zone? (text : List Char) : Option Int := do
  let atEnd (text : List Char) : Bool := (text.dropWhile isSpace).isEmpty
  let offset? (text : List Char) : Option Int := do
    let (hours, text) ← number? 2 0 14 text
    let (minutes, text) ← number? 2 0 59 (← after? ':' text)
    if atEnd text then some (hours * 60 + minutes) else none
  match text.dropWhile isSpace with
  | [] => some 0
  | 'Z' :: rest => if atEnd rest then some 0 else none
  | 'z' :: rest => if atEnd rest then some 0 else none
  | '+' :: rest => offset? rest
  | '-' :: rest => (offset? rest).map fun minutes => -minutes
  | _ => none

def seconds? : List Char → Option (Nat × List Char)
  | ':' :: text => do
    let (second, text) ← number? 2 0 59 text
    let (digits, text) := fraction text
    if digits.isEmpty then return (second * 1000, text)
    else return (← rounded? second digits, text)
  | text => some (0, text)

def clock? (text : List Char) : Option Int := do
  let (hour, text) ← number? 2 0 24 text
  let (minute, text) ← number? 2 0 59 (← after? ':' text)
  let (millisecond, text) ← seconds? text
  let offset ← zone? text
  return hour * 3600000 + minute * 60000 + millisecond - offset * 60000

/-- The days from 1970-01-01 to a day, by a formula that counts a year from March and rounds the
century toward the year zero. From the year zero on these are the days of the calendar; before it, a
leap day is missing in most centuries. A day past the end of its month falls into the next month. -/
def dayNumber (year : Int) (month day : Nat) : Int :=
  let early := decide (month ≤ 2)
  let year := if early then year - 1 else year
  let month : Int := if early then month + 12 else month
  let century := year.tdiv 100
  36525 * (year + 4716) / 100 + 306001 * (month + 1) / 10000 + day + 2 - century + century.tdiv 4
    - 2442112

def date? (text : List Char) : Option (Int × List Char) := do
  let (negative, text) :=
    match text with
    | '-' :: rest => (true, rest)
    | _ => (false, text)
  let (year, text) ← number? 4 0 9999 text
  let (month, text) ← number? 2 1 12 (← after? '-' text)
  let (day, text) ← number? 2 1 31 (← after? '-' text)
  return (dayNumber (if negative then -(year : Int) else year) month day, text)

def dateTime? (text : List Char) : Option Int := do
  let (days, text) ← date? text
  let text := text.dropWhile fun c => isSpace c || c == 'T'
  if text.isEmpty then some (days * millisecondsPerDay)
  else return days * millisecondsPerDay + (← clock? text)

/-- A time of day alone is one of the first day of the year 2000. -/
def timeAlone? (text : List Char) : Option Int := do
  return 10957 * millisecondsPerDay + (← clock? text)

def dayCount? (text : List Char) : Option Int := do
  let text := ((text.dropWhile isSpace).reverse.dropWhile isSpace).reverse
  let digits := if text.head?.any (fun c => c == '+' || c == '-') then text.drop 1 else text
  if !digits.head?.any (fun c => c.isDigit || c == '.') then none
  else
    let days ← Decimal.readReal? text
    if 0 <= days && days < 5373484.5 then
      some ((days * 86400000.0 + 0.5).toInt64.toInt - epoch)
    else none

def isPresent (text : List Char) : Bool :=
  ["now", "subsec", "subsecond"].any fun word => Text.sameAscii word.toList text

/-- The time that a text denotes at an instant, from the beginning of the count of days to the year
9999. -/
def milliseconds? (present : Instant) (text : String) : Option Int := do
  let text := text.toList.takeWhile fun c => c.toNat != 0
  let time ←
    if isPresent text then some present.milliseconds
    else (dateTime? text).or ((timeAlone? text).or (dayCount? text))
  if 0 ≤ time + epoch ∧ time + epoch ≤ last then some time else none

end ModelCatalog.Time.JulianDay
