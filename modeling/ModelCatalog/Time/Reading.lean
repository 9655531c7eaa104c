import ModelCatalog.Time.Instant

/-!
The date and time texts that a date bound may be: RFC 3339, or a bare calendar date.
-/

namespace ModelCatalog.Time

def readTwo? : List Char → Option (Nat × List Char)
  | a :: b :: rest =>
    if a.isDigit && b.isDigit then some (Decimal.ofDigits [a, b], rest) else none
  | _ => none

def readFour? : List Char → Option (Nat × List Char)
  | a :: b :: c :: d :: rest =>
    if [a, b, c, d].all Char.isDigit then some (Decimal.ofDigits [a, b, c, d], rest) else none
  | _ => none

def readChar? (c : Char) : List Char → Option (List Char)
  | d :: rest => if d = c then some rest else none
  | [] => none

def readDate? (text : List Char) : Option (Date × List Char) := do
  let (year, text) ← readFour? text
  let text ← readChar? '-' text
  let (month, text) ← readTwo? text
  let text ← readChar? '-' text
  let (day, text) ← readTwo? text
  let date : Date := ⟨year, month, day⟩
  if date.Valid then some (date, text) else none

def readClock? (text : List Char) : Option ((Nat × Nat × Nat) × List Char) := do
  let (hour, text) ← readTwo? text
  let text ← readChar? ':' text
  let (minute, text) ← readTwo? text
  let text ← readChar? ':' text
  let (second, text) ← readTwo? text
  if hour ≤ 23 ∧ minute ≤ 59 ∧ second ≤ 60 then some ((hour, minute, second), text) else none

def nanosecondsOf (fraction : List Char) : Nat :=
  Decimal.ofDigits ((fraction ++ List.replicate 9 '0').take 9)

/-- An optional fraction, as nanoseconds, and the rest. A point needs a digit after it. -/
def readFraction? : List Char → Option (Nat × List Char)
  | '.' :: text =>
    let fraction := text.takeWhile Char.isDigit
    if fraction.isEmpty then none
    else some (nanosecondsOf fraction, text.dropWhile Char.isDigit)
  | text => some (0, text)

def readOffset? : List Char → Option Int
  | ['Z'] => some 0
  | ['z'] => some 0
  | sign :: text => do
    let (hour, text) ← readTwo? text
    let text ← readChar? ':' text
    let (minute, text) ← readTwo? text
    if hour ≤ 23 ∧ minute ≤ 59 ∧ text = [] then
      if sign = '+' then some (hour * 3600 + minute * 60)
      else if sign = '-' then some (-(hour * 3600 + minute * 60))
      else none
    else none
  | [] => none

/-- A second 60 stands for the end of 23:59:59 UTC on the last day of a month, and nowhere else. -/
def leapSecondStands (second : Int) : Bool :=
  second % secondsPerDay == secondsPerDay - 1 && (Date.ofDays (second / secondsPerDay)).endsMonth

/-- RFC 3339, with any ASCII character for the `T`: a date, one such separator, a time of day, an
optional fraction and an offset. -/
def readTimestamp? (text : List Char) : Option Instant := do
  let (date, text) ← readDate? text
  let separator :: text := text | none
  if 128 ≤ separator.toNat then none else
  let ((hour, minute, second), text) ← readClock? text
  let (nanosecond, text) ← readFraction? text
  let offset ← readOffset? text
  let minuteStart := date.toDays * secondsPerDay + hour * 3600 + minute * 60 - offset
  if second = 60 then
    if leapSecondStands (minuteStart + 59) then some ⟨minuteStart + 59, 999999999⟩ else none
  else some ⟨minuteStart + second, nanosecond⟩

def readDay? (text : List Char) : Option Instant := do
  let (negative, text) :=
    match text with
    | '+' :: rest => (false, rest)
    | '-' :: rest => (true, rest)
    | _ => (false, text)
  let (year, text) ← readFour? text
  let text ← readChar? '-' text
  let (month, text) ← readTwo? text
  let text ← readChar? '-' text
  let (day, text) ← readTwo? text
  let date : Date := ⟨if negative then -(year : Int) else year, month, day⟩
  if date.Valid ∧ text = [] then some ⟨date.toDays * secondsPerDay, 0⟩ else none

def readBound? (text : String) : Option Instant :=
  (readTimestamp? text.toList).or (readDay? text.toList)

def isTimestamp (text : String) : Bool := (readBound? text).isSome

end ModelCatalog.Time
