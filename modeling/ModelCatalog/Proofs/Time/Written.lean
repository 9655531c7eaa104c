import ModelCatalog.Proofs.Time.Chronology
import ModelCatalog.Time.Reading

/-!
The texts of times. A bound is accepted exactly if it is a time in RFC 3339 or a calendar date written
out in fields of fixed widths, and it is read as what was written.
-/

namespace ModelCatalog

namespace Decimal

theorem eq_of_ofDigits_eq {a b : List Char} (length : a.length = b.length)
    (digits : ∀ c ∈ a, c.isDigit = true) (others : ∀ c ∈ b, c.isDigit = true)
    (same : ofDigits a = ofDigits b) : a = b := by
  induction a generalizing b with
  | nil => exact (List.length_eq_zero_iff.mp length.symm).symm
  | cons c rest ih =>
    cases b with
    | nil => cases length
    | cons d more =>
      have lengths : rest.length = more.length := Nat.succ.inj length
      have restDigits := fun e member => digits e (List.mem_cons_of_mem c member)
      have moreDigits := fun e member => others e (List.mem_cons_of_mem d member)
      have c_digit := Time.toNat_of_isDigit (digits c List.mem_cons_self)
      have d_digit := Time.toNat_of_isDigit (others d List.mem_cons_self)
      have below := ofDigits_lt restDigits
      have further := ofDigits_lt moreDigits
      rw [ofDigits_cons, ofDigits_cons, ← lengths, show '0'.toNat = 48 from rfl] at same
      rw [← lengths] at further
      have quotients := congrArg (· / 10 ^ rest.length) same
      have places : 0 < 10 ^ rest.length := Nat.pow_pos (by decide)
      simp only [Nat.mul_comm _ (10 ^ rest.length), Nat.mul_add_div places,
        Nat.div_eq_of_lt below, Nat.div_eq_of_lt further, Nat.add_zero] at quotients
      have first : c = d := Char.toNat_inj.mp (by omega)
      rw [quotients] at same
      rw [first, ih lengths restDigits moreDigits (Nat.add_left_cancel same)]

theorem padded_ofDigits {text : List Char} (digits : ∀ c ∈ text, c.isDigit = true)
    (some : text ≠ []) : padded text.length (ofDigits text) = text := by
  have length : (padded text.length (ofDigits text)).length = text.length :=
    padded_length (ofDigits_lt digits) (List.length_pos_iff.mpr some)
  exact eq_of_ofDigits_eq length (fun _ => padded_isDigit) digits (ofDigits_padded _ _)

end Decimal

namespace Time

open Decimal (padded padded_isDigit padded_length padded_cons padded_ofDigits ofDigits_padded
  ofDigits_lt)

/-! Fields of a text. -/

section Fields

variable {text rest : List Char} {n : Nat}

theorem readChar?_eq_some_iff {c : Char} : readChar? c text = some rest ↔ text = c :: rest := by
  cases text with
  | nil => simp [readChar?]
  | cons d more =>
    rw [readChar?, Option.ite_none_right_eq_some, List.cons.injEq, Option.some.injEq]

theorem number?_eq_some_iff {count least greatest : Nat} (places : 0 < count) :
    JulianDay.number? count least greatest text = some (n, rest) ↔
      least ≤ n ∧ n ≤ greatest ∧ n < 10 ^ count ∧ text = padded count n ++ rest := by
  constructor
  · intro read
    rw [JulianDay.number?, Option.ite_none_right_eq_some] at read
    obtain ⟨⟨length, digits, atLeast, atMost⟩, same⟩ := read
    obtain ⟨rfl, rfl⟩ := Prod.mk.inj (Option.some.inj same)
    have areDigits := List.all_eq_true.mp digits
    have some : text.take count ≠ [] := by
      rw [← List.length_pos_iff, length]
      exact places
    have below := ofDigits_lt areDigits
    have written := padded_ofDigits areDigits some
    rw [length] at below written
    exact ⟨atLeast, atMost, below, by rw [written, List.take_append_drop]⟩
  · rintro ⟨atLeast, atMost, fits, rfl⟩
    have within : n ≤ min greatest (10 ^ count - 1) := by omega
    have read := JulianDay.number?_padded atLeast within (by omega) places rest
    rw [JulianDay.number?, Option.ite_none_right_eq_some] at read ⊢
    exact ⟨⟨read.1.1, read.1.2.1, read.1.2.2.1, by omega⟩, read.2⟩

theorem readTwo?_eq_number? (text : List Char) : readTwo? text = JulianDay.number? 2 0 99 text := by
  match text with
  | [] => rfl
  | [_] => rfl
  | a :: b :: rest =>
    have head : (a :: b :: rest).take 2 = [a, b] := rfl
    have tail : (a :: b :: rest).drop 2 = rest := rfl
    have same : (a.isDigit && b.isDigit) = [a, b].all Char.isDigit := by simp
    simp only [readTwo?, JulianDay.number?, head, tail, same]
    refine if_congr ⟨fun digits => ?_, fun all => all.2.1⟩ rfl rfl
    have small : Decimal.ofDigits [a, b] < 10 ^ 2 := ofDigits_lt (List.all_eq_true.mp digits)
    exact ⟨rfl, digits, Nat.zero_le _, by omega⟩

theorem readFour?_eq_number? (text : List Char) :
    readFour? text = JulianDay.number? 4 0 9999 text := by
  match text with
  | [] => rfl
  | [_] => rfl
  | [_, _] => rfl
  | [_, _, _] => rfl
  | a :: b :: c :: d :: rest =>
    have head : (a :: b :: c :: d :: rest).take 4 = [a, b, c, d] := rfl
    have tail : (a :: b :: c :: d :: rest).drop 4 = rest := rfl
    simp only [readFour?, JulianDay.number?, head, tail]
    refine if_congr ⟨fun digits => ?_, fun all => all.2.1⟩ rfl rfl
    have small : Decimal.ofDigits [a, b, c, d] < 10 ^ 4 := ofDigits_lt (List.all_eq_true.mp digits)
    exact ⟨rfl, digits, Nat.zero_le _, by omega⟩

theorem readTwo?_eq_some_iff :
    readTwo? text = some (n, rest) ↔ n ≤ 99 ∧ text = padded 2 n ++ rest := by
  have places : n ≤ 99 → n < 10 ^ 2 := by omega
  rw [readTwo?_eq_number?, number?_eq_some_iff (by decide)]
  exact ⟨fun read => ⟨read.2.1, read.2.2.2⟩,
    fun read => ⟨Nat.zero_le n, read.1, places read.1, read.2⟩⟩

theorem readFour?_eq_some_iff :
    readFour? text = some (n, rest) ↔ n ≤ 9999 ∧ text = padded 4 n ++ rest := by
  have places : n ≤ 9999 → n < 10 ^ 4 := by omega
  rw [readFour?_eq_number?, number?_eq_some_iff (by decide)]
  exact ⟨fun read => ⟨read.2.1, read.2.2.2⟩,
    fun read => ⟨Nat.zero_le n, read.1, places read.1, read.2⟩⟩

end Fields

/-- A zone as it is written: `Z`, in either letter case, or how far it is from UTC. -/
inductive ZoneText where
  | utc (capital : Bool)
  | offset (east : Bool) (hours minutes : Nat) (hours_le : hours ≤ 23) (minutes_le : minutes ≤ 59)

namespace ZoneText

def text : ZoneText → List Char
  | utc capital => [if capital then 'Z' else 'z']
  | offset east hours minutes _ _ =>
    (if east then '+' else '-') :: (padded 2 hours ++ ':' :: padded 2 minutes)

def hours : ZoneText → Nat
  | utc _ => 0
  | offset _ hours _ _ _ => hours

def minutes : ZoneText → Int
  | utc _ => 0
  | offset east hours minutes _ _ =>
    if east then (hours : Int) * 60 + minutes else -((hours : Int) * 60 + minutes)

theorem text_cons (zone : ZoneText) : ∃ c rest, zone.text = c :: rest ∧
    c.isDigit = false ∧ c ≠ '.' ∧ JulianDay.isSpace c = false := by
  cases zone with
  | utc capital => cases capital <;> exact ⟨_, _, rfl, by decide⟩
  | offset east => cases east <;> exact ⟨_, _, rfl, by decide⟩

end ZoneText

theorem readOffset?_eq_some_iff {text : List Char} {offset : Int} :
    readOffset? text = some offset ↔
      ∃ zone : ZoneText, text = zone.text ∧ offset = zone.minutes * 60 := by
  constructor
  · intro read
    unfold readOffset? at read
    split at read
    next => exact ⟨.utc true, rfl, (Option.some.inj read).symm⟩
    next => exact ⟨.utc false, rfl, (Option.some.inj read).symm⟩
    next sign rest _ _ =>
      simp only [Option.bind_eq_bind, Option.bind_eq_some_iff, readTwo?_eq_some_iff,
        readChar?_eq_some_iff, Prod.exists] at read
      obtain ⟨hours, _, ⟨_, rfl⟩, _, rfl, minutes, _, ⟨_, rfl⟩, read⟩ := read
      rw [Option.ite_none_right_eq_some] at read
      obtain ⟨⟨hours_le, minutes_le, rfl⟩, read⟩ := read
      rw [List.append_nil]
      split at read
      next east =>
        subst east
        refine ⟨.offset true hours minutes hours_le minutes_le, rfl, ?_⟩
        rw [← Option.some.inj read, ZoneText.minutes]
        simp only [if_true]
        omega
      next =>
        split at read
        next west =>
          subst west
          refine ⟨.offset false hours minutes hours_le minutes_le, rfl, ?_⟩
          rw [← Option.some.inj read, ZoneText.minutes]
          simp only [Bool.false_eq_true, if_false]
          omega
        next => cases read
    next => cases read
  · rintro ⟨zone, rfl, rfl⟩
    cases zone with
    | utc capital => cases capital <;> rfl
    | offset east hours minutes hours_le minutes_le =>
      have hoursRead (rest : List Char) : readTwo? (padded 2 hours ++ rest) = some (hours, rest) :=
        readTwo?_eq_some_iff.mpr ⟨by omega, rfl⟩
      have minutesRead : readTwo? (padded 2 minutes) = some (minutes, []) :=
        readTwo?_eq_some_iff.mpr ⟨by omega, (List.append_nil _).symm⟩
      have inRange : hours ≤ 23 ∧ minutes ≤ 59 ∧ ([] : List Char) = [] := ⟨hours_le, minutes_le, rfl⟩
      unfold readOffset?
      split
      next same => cases east <;> simp [ZoneText.text] at same
      next same => cases east <;> simp [ZoneText.text] at same
      next sign rest _ _ same =>
        obtain ⟨rfl, rfl⟩ := List.cons.inj same
        simp only [hoursRead, minutesRead, readChar?, Option.bind_eq_bind, Option.bind_some, inRange,
          and_self, if_true, ZoneText.minutes]
        cases east <;> simp <;> omega
      next none => cases east <;> simp [ZoneText.text] at none

def Date.text (date : Date) : List Char :=
  padded 4 date.year.toNat ++ '-' :: (padded 2 date.month ++ '-' :: padded 2 date.day)

theorem Date.text_append (date : Date) (rest : List Char) : date.text ++ rest =
    padded 4 date.year.toNat ++ '-' :: (padded 2 date.month ++ '-' :: (padded 2 date.day ++ rest)) := by
  simp only [text, List.append_assoc, List.cons_append]

theorem Date.Valid.small {date : Date} (valid : date.Valid) : date.month ≤ 12 ∧ date.day ≤ 31 := by
  obtain ⟨_, month_le, _, day_le⟩ := valid
  have days : daysInMonth date.year date.month ≤ 31 := by
    unfold daysInMonth
    split
    · split <;> omega
    · split <;> omega
  omega

section Parts

variable {text rest : List Char}

theorem readDate?_eq_some_iff {date : Date} : readDate? text = some (date, rest) ↔
    (0 ≤ date.year ∧ date.year ≤ 9999) ∧ date.Valid ∧ text = date.text ++ rest := by
  rw [Date.text_append]
  simp only [readDate?, Option.bind_eq_bind, Option.bind_eq_some_iff, Prod.exists,
    readFour?_eq_some_iff, readTwo?_eq_some_iff, readChar?_eq_some_iff,
    Option.ite_none_right_eq_some, Option.some.injEq, Prod.mk.injEq]
  constructor
  · rintro ⟨year, _, ⟨year_le, rfl⟩, _, rfl, month, _, ⟨_, rfl⟩, _, rfl, day, _, ⟨_, rfl⟩, valid, rfl,
      rfl⟩
    exact ⟨⟨Int.natCast_nonneg year, by dsimp only; omega⟩, valid, rfl⟩
  · rintro ⟨⟨dated, year_le⟩, valid, rfl⟩
    have small := valid.small
    have year : (date.year.toNat : Int) = date.year := Int.toNat_of_nonneg dated
    exact ⟨date.year.toNat, _, ⟨by omega, rfl⟩, _, rfl, date.month, _, ⟨by omega, rfl⟩, _, rfl,
      date.day, _, ⟨by omega, rfl⟩, by rwa [year], by rw [year], rfl⟩

def clockText (hour minute second : Nat) (rest : List Char) : List Char :=
  padded 2 hour ++ ':' :: (padded 2 minute ++ ':' :: (padded 2 second ++ rest))

theorem readClock?_eq_some_iff {hour minute second : Nat} :
    readClock? text = some ((hour, minute, second), rest) ↔
      (hour ≤ 23 ∧ minute ≤ 59 ∧ second ≤ 60) ∧ text = clockText hour minute second rest := by
  simp only [readClock?, Option.bind_eq_bind, Option.bind_eq_some_iff, Prod.exists,
    readTwo?_eq_some_iff, readChar?_eq_some_iff, Option.ite_none_right_eq_some, Option.some.injEq,
    Prod.mk.injEq, clockText]
  constructor
  · rintro ⟨_, _, ⟨_, rfl⟩, _, rfl, _, _, ⟨_, rfl⟩, _, rfl, _, _, ⟨_, rfl⟩, inRange, ⟨rfl, rfl, rfl⟩,
      rfl⟩
    exact ⟨inRange, rfl⟩
  · rintro ⟨inRange, rfl⟩
    exact ⟨hour, _, ⟨by omega, rfl⟩, _, rfl, minute, _, ⟨by omega, rfl⟩, _, rfl, second, _,
      ⟨by omega, rfl⟩, inRange, ⟨rfl, rfl, rfl⟩, rfl⟩

def fractionText (fraction : List Char) : List Char :=
  if fraction = [] then [] else '.' :: fraction

theorem exists_of_readFraction? {nanosecond : Nat}
    (read : readFraction? text = some (nanosecond, rest)) :
    ∃ fraction, (∀ c ∈ fraction, c.isDigit = true) ∧ nanosecond = nanosecondsOf fraction ∧
      text = fractionText fraction ++ rest := by
  unfold readFraction? at read
  split at read
  next more =>
    dsimp only at read
    split at read
    next => cases read
    next some =>
      obtain ⟨rfl, rfl⟩ := Prod.mk.inj (Option.some.inj read)
      refine ⟨more.takeWhile Char.isDigit, fun c member => List.mem_takeWhile_imp member, rfl, ?_⟩
      have digits : more.takeWhile Char.isDigit ≠ [] := by simpa using some
      rw [fractionText, if_neg digits, List.cons_append, List.takeWhile_append_dropWhile]
  next =>
    obtain ⟨rfl, rfl⟩ := Prod.mk.inj (Option.some.inj read)
    exact ⟨[], by simp, by decide, rfl⟩

variable {fraction : List Char} (digits : ∀ c ∈ fraction, c.isDigit = true)
include digits

theorem takeWhile_fraction (zone : ZoneText) :
    (fraction ++ zone.text).takeWhile Char.isDigit = fraction ∧
      (fraction ++ zone.text).dropWhile Char.isDigit = zone.text := by
  obtain ⟨c, more, split, ends⟩ := zone.text_cons
  rw [List.takeWhile_append_of_pos digits, List.dropWhile_append_of_pos digits, split,
    List.takeWhile_cons_of_neg, List.dropWhile_cons_of_neg, List.append_nil]
  · exact ⟨rfl, rfl⟩
  · rw [ends.1]; simp
  · rw [ends.1]; simp

theorem readFraction?_text (zone : ZoneText) :
    readFraction? (fractionText fraction ++ zone.text) =
      some (nanosecondsOf fraction, zone.text) := by
  by_cases none : fraction = []
  · obtain ⟨c, more, split, ends⟩ := zone.text_cons
    subst none
    change readFraction? zone.text = _
    rw [split]
    unfold readFraction?
    split
    next point => exact absurd (List.cons.inj point).1 ends.2.1
    next => rfl
  · rw [fractionText, if_neg none, List.cons_append]
    have parts := takeWhile_fraction digits zone
    have some : fraction.isEmpty = false := by simpa using none
    simp only [readFraction?, parts, some, Bool.false_eq_true, if_false]

end Parts

structure TimeText where
  date : Date
  separator : Char
  hour : Nat
  minute : Nat
  second : Nat
  /-- The digits after the point. -/
  fraction : List Char
  zone : ZoneText
  dated : 0 ≤ date.year ∧ date.year ≤ 9999
  date_valid : date.Valid
  separator_lt : separator.toNat < 128
  clock_le : hour ≤ 23 ∧ minute ≤ 59 ∧ second ≤ 60
  fraction_digits : ∀ c ∈ fraction, c.isDigit = true
  leap : second = 60 → leapSecondStands
    (date.toDays * secondsPerDay + hour * 3600 + minute * 60 - zone.minutes * 60 + 59) = true

namespace TimeText

variable (time : TimeText)

def text : List Char :=
  time.date.text ++ time.separator ::
    clockText time.hour time.minute time.second (fractionText time.fraction ++ time.zone.text)

def minuteStart : Int :=
  time.date.toDays * secondsPerDay + time.hour * 3600 + time.minute * 60 - time.zone.minutes * 60

/-- A leap second is the end of the second before it. -/
def instant : Instant :=
  if time.second = 60 then ⟨time.minuteStart + 59, 999999999⟩
  else ⟨time.minuteStart + time.second, nanosecondsOf time.fraction⟩

theorem eleven_lt_text_length : 11 < time.text.length := by
  obtain ⟨dated, year_le⟩ := time.dated
  obtain ⟨month_le, day_le⟩ := time.date_valid.small
  obtain ⟨c, more, hour, _⟩ := padded_cons 2 time.hour
  have year : (padded 4 time.date.year.toNat).length = 4 := padded_length (by omega) (by decide)
  have month : (padded 2 time.date.month).length = 2 := padded_length (by omega) (by decide)
  have day : (padded 2 time.date.day).length = 2 := padded_length (by omega) (by decide)
  simp only [text, Date.text, clockText, hour, List.length_append, List.length_cons, year, month, day]
  omega

end TimeText

theorem readTimestamp?_eq_some_iff {text : List Char} {instant : Instant} :
    readTimestamp? text = some instant ↔
      ∃ time : TimeText, text = time.text ∧ instant = time.instant := by
  constructor
  · intro read
    unfold readTimestamp? at read
    simp only [Option.bind_eq_bind, Option.bind_eq_some_iff, Prod.exists] at read
    obtain ⟨date, more, dateRead, read⟩ := read
    obtain ⟨dated, date_valid, rfl⟩ := readDate?_eq_some_iff.mp dateRead
    split at read
    next separator rest =>
      simp only [Option.ite_none_left_eq_some, Option.bind_eq_some_iff, Prod.exists] at read
      obtain ⟨separated, hour, minute, second, rest, clockRead, nanosecond, rest, fractionRead,
        offset, offsetRead, read⟩ := read
      obtain ⟨clock_le, rfl⟩ := readClock?_eq_some_iff.mp clockRead
      obtain ⟨fraction, digits, rfl, rfl⟩ := exists_of_readFraction? fractionRead
      obtain ⟨zone, rfl, rfl⟩ := readOffset?_eq_some_iff.mp offsetRead
      have separator_lt : separator.toNat < 128 := Nat.not_le.mp separated
      split at read
      next last =>
        rw [Option.ite_none_right_eq_some] at read
        refine ⟨⟨date, separator, hour, minute, second, fraction, zone, dated, date_valid,
          separator_lt, clock_le, digits, fun _ => read.1⟩, rfl, ?_⟩
        rw [TimeText.instant, if_pos last]
        exact (Option.some.inj read.2).symm
      next other =>
        refine ⟨⟨date, separator, hour, minute, second, fraction, zone, dated, date_valid,
          separator_lt, clock_le, digits, fun last => absurd last other⟩, rfl, ?_⟩
        rw [TimeText.instant, if_neg other]
        exact (Option.some.inj read).symm
    next => cases read
  · rintro ⟨time, rfl, rfl⟩
    have dateRead : readDate? time.text = some (time.date, _) :=
      readDate?_eq_some_iff.mpr ⟨time.dated, time.date_valid, rfl⟩
    have separated : ¬128 ≤ time.separator.toNat := Nat.not_le.mpr time.separator_lt
    have clockRead : readClock? (clockText time.hour time.minute time.second
        (fractionText time.fraction ++ time.zone.text)) = some ((_, _, _), _) :=
      readClock?_eq_some_iff.mpr ⟨time.clock_le, rfl⟩
    have offsetRead : readOffset? time.zone.text = some (time.zone.minutes * 60) :=
      readOffset?_eq_some_iff.mpr ⟨time.zone, rfl, rfl⟩
    simp only [readTimestamp?, dateRead, Option.bind_eq_bind, Option.bind_some, separated, if_false,
      clockRead, readFraction?_text time.fraction_digits, offsetRead, TimeText.instant]
    by_cases last : time.second = 60
    · rw [if_pos last, if_pos last, if_pos (time.leap last)]
      rfl
    · rw [if_neg last, if_neg last]
      rfl

inductive DaySign where
  | unsigned
  | plus
  | minus
  deriving DecidableEq

namespace DaySign

def text : DaySign → List Char
  | unsigned => []
  | plus => ['+']
  | minus => ['-']

def applied (sign : DaySign) (year : Nat) : Int :=
  match sign with
  | minus => -(year : Int)
  | _ => year

theorem mem_text {sign : DaySign} {c : Char} (member : c ∈ sign.text) : c = '+' ∨ c = '-' := by
  cases sign with
  | unsigned => cases member
  | plus => exact Or.inl (List.mem_singleton.mp member)
  | minus => exact Or.inr (List.mem_singleton.mp member)

end DaySign

structure DayText where
  sign : DaySign
  year : Nat
  month : Nat
  day : Nat
  year_le : year ≤ 9999
  date_valid : Date.Valid ⟨sign.applied year, month, day⟩

namespace DayText

variable (day : DayText)

def date : Date := ⟨day.sign.applied day.year, day.month, day.day⟩

def unsignedText : List Char :=
  padded 4 day.year ++ '-' :: (padded 2 day.month ++ '-' :: padded 2 day.day)

def text : List Char := day.sign.text ++ day.unsignedText

def instant : Instant := ⟨day.date.toDays * secondsPerDay, 0⟩

theorem text_length_le : day.text.length ≤ 11 := by
  obtain ⟨month_le, day_le⟩ : day.month ≤ 12 ∧ day.day ≤ 31 := day.date_valid.small
  have below := day.year_le
  have year : (padded 4 day.year).length = 4 := padded_length (by omega) (by decide)
  have month : (padded 2 day.month).length = 2 := padded_length (by omega) (by decide)
  have days : (padded 2 day.day).length = 2 := padded_length (by omega) (by decide)
  have sign : day.sign.text.length ≤ 1 := by cases day.sign <;> decide
  simp only [text, unsignedText, List.length_append, List.length_cons, year, month, days]
  omega

end DayText

theorem readDay?_eq_some_iff {text : List Char} {instant : Instant} :
    readDay? text = some instant ↔ ∃ day : DayText, text = day.text ∧ instant = day.instant := by
  constructor
  · intro read
    unfold readDay? at read
    split at read
    next negative rest signed =>
      simp only [Option.bind_eq_bind, Option.bind_eq_some_iff, Prod.exists, readFour?_eq_some_iff,
        readTwo?_eq_some_iff, readChar?_eq_some_iff, Option.ite_none_right_eq_some,
        Option.some.injEq] at read
      obtain ⟨year, _, ⟨year_le, rfl⟩, _, rfl, month, _, ⟨_, rfl⟩, _, rfl, day, _, ⟨_, rfl⟩,
        ⟨valid, rfl⟩, rfl⟩ := read
      rw [List.append_nil] at signed
      split at signed
      next =>
        obtain ⟨rfl, rfl⟩ := Prod.mk.inj signed
        exact ⟨⟨.plus, year, month, day, year_le, valid⟩, rfl, rfl⟩
      next =>
        obtain ⟨rfl, rfl⟩ := Prod.mk.inj signed
        exact ⟨⟨.minus, year, month, day, year_le, valid⟩, rfl, rfl⟩
      next =>
        obtain ⟨rfl, rfl⟩ := Prod.mk.inj signed
        exact ⟨⟨.unsigned, year, month, day, year_le, valid⟩, rfl, rfl⟩
  · rintro ⟨day, rfl, rfl⟩
    obtain ⟨month_le, day_le⟩ : day.month ≤ 12 ∧ day.day ≤ 31 := day.date_valid.small
    have yearRead (rest : List Char) : readFour? (padded 4 day.year ++ rest) = some (day.year, rest) :=
      readFour?_eq_some_iff.mpr ⟨day.year_le, rfl⟩
    have monthRead (rest : List Char) : readTwo? (padded 2 day.month ++ rest) = some (day.month, rest) :=
      readTwo?_eq_some_iff.mpr ⟨by omega, rfl⟩
    have dayRead : readTwo? (padded 2 day.day) = some (day.day, []) :=
      readTwo?_eq_some_iff.mpr ⟨by omega, (List.append_nil _).symm⟩
    obtain ⟨c, more, head, digit⟩ := padded_cons 4 day.year
    have noPlus : c ≠ '+' := ne_of_isDigit digit (by decide)
    have noMinus : c ≠ '-' := ne_of_isDigit digit (by decide)
    unfold readDay?
    split
    next negative rest signed =>
      have parts : negative = decide (day.sign = .minus) ∧ rest = day.unsignedText := by
        rw [DayText.text, DayText.unsignedText, head] at signed
        cases sign : day.sign with
        | unsigned => simp_all [DaySign.text, DayText.unsignedText]
        | plus => simp_all [DaySign.text, DayText.unsignedText]
        | minus => simp_all [DaySign.text, DayText.unsignedText]
      obtain ⟨rfl, rfl⟩ := parts
      have year : (if decide (day.sign = .minus) = true then -(day.year : Int) else day.year) =
          day.sign.applied day.year := by
        cases day.sign <;> rfl
      simp only [DayText.unsignedText, yearRead, monthRead, dayRead, readChar?, Option.bind_eq_bind,
        Option.bind_some, if_true, year]
      exact if_pos ⟨day.date_valid, trivial⟩

/-- A text that is accepted as a bound. -/
inductive BoundText where
  | time (time : TimeText)
  | day (day : DayText)

namespace BoundText

def text : BoundText → List Char
  | time written => written.text
  | day written => written.text

def instant : BoundText → Instant
  | time written => written.instant
  | day written => written.instant

end BoundText

theorem readBound?_eq_some_iff {text : String} {instant : Instant} :
    readBound? text = some instant ↔
      ∃ bound : BoundText, text.toList = bound.text ∧ instant = bound.instant := by
  rw [readBound?, Option.or_eq_some_iff, readTimestamp?_eq_some_iff, readDay?_eq_some_iff]
  constructor
  · intro read
    rcases read with ⟨time, written, means⟩ | ⟨_, day, written, means⟩
    · exact ⟨.time time, written, means⟩
    · exact ⟨.day day, written, means⟩
  · intro read
    obtain ⟨time | day, written, means⟩ := read
    · exact Or.inl ⟨time, written, means⟩
    · refine Or.inr ⟨?_, day, written, means⟩
      cases read : readTimestamp? text.toList with
      | none => rfl
      | some other =>
        obtain ⟨time, same, _⟩ := readTimestamp?_eq_some_iff.mp read
        have long := time.eleven_lt_text_length
        have short := day.text_length_le
        change text.toList = day.text at written
        rw [← same, written] at long
        omega

namespace Instant

variable {instant : Instant}

theorem secondOfDay_clock (instant : Instant) : instant.secondOfDay / 3600 ≤ 23 ∧
    instant.secondOfDay / 60 % 60 ≤ 59 ∧ instant.secondOfDay % 60 ≤ 60 := by
  simp only [secondOfDay, secondsPerDay]
  omega

theorem second_ne_sixty (instant : Instant) : instant.secondOfDay % 60 ≠ 60 := by omega

def written (instant : Instant) (dated : instant.IsDated) : TimeText where
  date := instant.date
  separator := 'T'
  hour := instant.secondOfDay / 3600
  minute := instant.secondOfDay / 60 % 60
  second := instant.secondOfDay % 60
  fraction := []
  zone := .utc true
  dated := dated
  date_valid := Date.ofDays_valid _
  separator_lt := by decide
  clock_le := instant.secondOfDay_clock
  fraction_digits := List.forall_mem_nil _
  leap := fun sixty => absurd sixty instant.second_ne_sixty

theorem written_text (dated : instant.IsDated) : (instant.written dated).text = instant.stamp := by
  rw [stamp_eq dated, TimeText.text, Date.text_append]
  rfl

theorem written_minuteStart (dated : instant.IsDated) :
    (instant.written dated).minuteStart + (instant.secondOfDay % 60 : Nat) = instant.second := by
  have days : instant.date.toDays = instant.second / secondsPerDay := Date.toDays_ofDays _
  simp only [TimeText.minuteStart, written, days, ZoneText.minutes, secondOfDay, secondsPerDay]
  omega

theorem written_instant (dated : instant.IsDated) :
    (instant.written dated).instant = ⟨instant.second, 0⟩ := by
  have second : ¬(instant.written dated).second = 60 := instant.second_ne_sixty
  have whole : nanosecondsOf [] = 0 := by decide
  rw [TimeText.instant, if_neg second]
  exact congrArg₂ Instant.mk (written_minuteStart dated) whole

theorem readBound?_timestamp (dated : instant.IsDated) :
    readBound? instant.timestamp = some ⟨instant.second, 0⟩ := by
  rw [readBound?_eq_some_iff, timestamp, String.toList_ofList]
  exact ⟨.time (instant.written dated), (written_text dated).symm, (written_instant dated).symm⟩

end Instant

end Time

end ModelCatalog
