import ModelCatalog.Proofs.Text.Words
import ModelCatalog.Proofs.Time.Written

/-!
How a store reads the texts that are accepted as bounds, and with them its time stamps: the date, the
separator, the time of day and the zone one after the other, each of which it may not know.
-/

namespace ModelCatalog

namespace Decimal

theorem readMagnitude?_hyphen {digits : List Char} (areDigits : ∀ c ∈ digits, c.isDigit = true)
    (rest : List Char) : readMagnitude? (digits ++ '-' :: rest) = none := by
  obtain ⟨c, more, split, low⟩ : ∃ c more, digits ++ '-' :: rest = c :: more ∧ c.toNat < 65 := by
    cases digits with
    | nil => exact ⟨'-', rest, rfl, by decide⟩
    | cons c more =>
      have digit := Time.toNat_of_isDigit (areDigits c List.mem_cons_self)
      exact ⟨c, more ++ '-' :: rest, rfl, by omega⟩
  have other {d : Char} (letter : 65 ≤ d.toNat) : c ≠ d := by
    rintro rfl
    omega
  have i : c ≠ 'i' := other (by decide)
  have n : c ≠ 'n' := other (by decide)
  have noWord (word : List Char) (head : Char) (tail : List Char)
      (lower : Text.asciiLower word = head :: tail) (differ : c ≠ head) :
      Text.sameAscii (digits ++ '-' :: rest) word = false := by
    rw [split, Text.sameAscii, lower, Text.asciiLower, List.map_cons, Time.toLower_of_lt low]
    simp [differ]
  have whole : (digits ++ '-' :: rest).takeWhile Char.isDigit = digits := by
    rw [List.takeWhile_append_of_pos areDigits, List.takeWhile_cons_of_neg (by decide),
      List.append_nil]
  have behind : (digits ++ '-' :: rest).dropWhile Char.isDigit = '-' :: rest := by
    rw [List.dropWhile_append_of_pos areDigits, List.dropWhile_cons_of_neg (by decide)]
  have ends : readExponent? ('-' :: rest) = none := by simp [readExponent?]
  rw [readMagnitude?, noWord "inf".toList 'i' _ rfl i, noWord "infinity".toList 'i' _ rfl i,
    noWord "nan".toList 'n' _ rfl n, readUnsignedReal?]
  simp only [whole, behind, Bool.or_false, Bool.false_eq_true, if_false]
  split
  next point => exact absurd (List.cons.inj point).1 (by decide)
  next => simp only [ends, Option.bind_eq_bind, Option.bind_none, ite_self]

end Decimal

namespace Time

open Decimal (padded padded_isDigit padded_length padded_cons)

theorem padded_visible {width n : Nat} : ∀ c ∈ padded width n, c.toNat ≠ 0 := by
  intro c member
  have range := toNat_of_isDigit (padded_isDigit member)
  omega

theorem fractionText_visible {fraction : List Char} (digits : ∀ c ∈ fraction, c.isDigit = true) :
    ∀ c ∈ fractionText fraction, c.toNat ≠ 0 := by
  rw [fractionText]
  split
  next => exact List.forall_mem_nil _
  next =>
    rw [List.forall_mem_cons]
    refine ⟨by decide, ?_⟩
    intro c member
    have range := toNat_of_isDigit (digits c member)
    omega

namespace JulianDay

theorem clock?_third {a b c : Char} (digit : c.isDigit = true) (rest : List Char) :
    clock? (a :: b :: c :: rest) = none := by
  have noColon : c ≠ ':' := ne_of_isDigit digit (by decide)
  cases read : number? 2 0 24 (a :: b :: c :: rest) with
  | none => simp only [clock?, read, Option.bind_eq_bind, Option.bind_none]
  | some parts =>
    have behind : parts.2 = c :: rest := by
      rw [number?, Option.ite_none_right_eq_some] at read
      rw [← Option.some.inj read.2]
      rfl
    have colon : after? ':' (c :: rest) = none := if_neg noColon
    simp only [clock?, read, behind, colon, Option.bind_eq_bind, Option.bind_some, Option.bind_none]

section Dates

variable {sign : DaySign} {year : Nat}

theorem dayCount?_date {digits rest : List Char} (areDigits : ∀ c ∈ digits, c.isDigit = true)
    (some : digits ≠ []) (ends : ∀ c ∈ rest.getLast?, isSpace c = false) :
    dayCount? (sign.text ++ (digits ++ '-' :: rest)) = none := by
  obtain ⟨c, more, rfl⟩ := List.exists_cons_of_ne_nil some
  have digit := areDigits c List.mem_cons_self
  have starts : ∀ d ∈ (sign.text ++ (c :: more ++ '-' :: rest)).head?, isSpace d = false := by
    intro d first
    cases sign with
    | unsigned =>
      obtain rfl : c = d := Option.some.inj first
      exact isSpace_of_isDigit digit
    | plus =>
      obtain rfl : '+' = d := Option.some.inj first
      decide
    | minus =>
      obtain rfl : '-' = d := Option.some.inj first
      decide
  have finish : ∀ d ∈ (sign.text ++ (c :: more ++ '-' :: rest)).reverse.head?,
      isSpace d = false := by
    intro d final
    rw [List.head?_reverse, ← List.append_assoc, List.getLast?_append, List.getLast?_cons] at final
    cases behind : rest.getLast? with
    | none =>
      rw [behind] at final
      obtain rfl : '-' = d := Option.some.inj final
      decide
    | some e =>
      rw [behind] at final
      obtain rfl : e = d := Option.some.inj final
      exact ends e behind
  have noNumber := Decimal.readMagnitude?_hyphen areDigits rest
  have unread : Decimal.readReal? (sign.text ++ (c :: more ++ '-' :: rest)) = none := by
    cases sign with
    | unsigned =>
      have noPlus : c ≠ '+' := ne_of_isDigit digit (by decide)
      have noMinus : c ≠ '-' := ne_of_isDigit digit (by decide)
      change Decimal.readReal? (c :: (more ++ '-' :: rest)) = none
      unfold Decimal.readReal?
      split
      next same => exact absurd (List.cons.inj same).1 noPlus
      next same => exact absurd (List.cons.inj same).1 noMinus
      next => exact noNumber
    | plus => exact noNumber
    | minus => exact congrArg (Option.map fun x => -x) noNumber
  rw [dayCount?, Text.dropWhile_eq_self starts, Text.dropWhile_eq_self finish, List.reverse_reverse,
    unread]
  simp only [Option.bind_eq_bind, Option.bind_none, ite_self]

theorem date?_written (unsigned : sign ≠ .plus) {month day : Nat} (years : year ≤ 9999)
    (months : 1 ≤ month ∧ month ≤ 12) (days : 1 ≤ day ∧ day ≤ 31) (rest : List Char) :
    date? (sign.text ++ (padded 4 year ++ '-' :: (padded 2 month ++ '-' ::
      (padded 2 day ++ rest)))) = some (dayNumber (sign.applied year) month day, rest) := by
  obtain ⟨c, tail, split, digit⟩ := padded_cons 4 year
  have noMinus : c ≠ '-' := ne_of_isDigit digit (by decide)
  have yearRead (more : List Char) : number? 4 0 9999 (padded 4 year ++ more) = some (year, more) :=
    number?_padded (Nat.zero_le year) years (by decide) (by decide) more
  have monthRead (more : List Char) : number? 2 1 12 (padded 2 month ++ more) = some (month, more) :=
    number?_padded months.1 months.2 (by decide) (by decide) more
  have dayRead (more : List Char) : number? 2 1 31 (padded 2 day ++ more) = some (day, more) :=
    number?_padded days.1 days.2 (by decide) (by decide) more
  unfold date?
  split
  next negative text signed =>
    have parts : negative = decide (sign = .minus) ∧
        text = padded 4 year ++ '-' :: (padded 2 month ++ '-' :: (padded 2 day ++ rest)) := by
      cases sign with
      | plus => exact absurd rfl unsigned
      | minus =>
        obtain ⟨rfl, rfl⟩ := Prod.mk.inj signed
        exact ⟨rfl, rfl⟩
      | unsigned =>
        simp only [DaySign.text, List.nil_append, split, List.cons_append] at signed ⊢
        split at signed
        next minus => exact absurd (List.cons.inj minus).1 noMinus
        next =>
          obtain ⟨rfl, rfl⟩ := Prod.mk.inj signed
          exact ⟨rfl, rfl⟩
    obtain ⟨rfl, rfl⟩ := parts
    have applied : (if decide (sign = .minus) = true then -(year : Int) else year) =
        sign.applied year := by
      cases sign <;> rfl
    simp only [yearRead, monthRead, dayRead, after?, Option.bind_eq_bind, Option.bind_some,
      if_true, applied]
    rfl

theorem date?_plus (rest : List Char) : date? ('+' :: rest) = none := by
  have noNumber : number? 4 0 9999 ('+' :: rest) = none := by
    rw [number?, if_neg]
    rintro ⟨-, digits, -⟩
    rw [List.take_succ_cons, List.all_cons] at digits
    cases digits
  unfold date?
  split
  next negative text read =>
    split at read
    next signed => exact absurd (List.cons.inj signed).1 (by decide)
    next =>
      obtain ⟨rfl, rfl⟩ := Prod.mk.inj read
      rw [noNumber]
      rfl

theorem takeWhile_date {rest : List Char} (visible : ∀ c ∈ rest, c.toNat ≠ 0) :
    (sign.text ++ (padded 4 year ++ '-' :: rest)).takeWhile (fun c => c.toNat != 0) =
      sign.text ++ (padded 4 year ++ '-' :: rest) := by
  rw [List.takeWhile_eq_self_iff]
  simp only [bne_iff_ne, List.forall_mem_append, List.forall_mem_cons]
  refine ⟨?_, padded_visible, by decide, visible⟩
  intro c signed
  rcases DaySign.mem_text signed with rfl | rfl <;> decide

/-- A text that begins like a date is read as a date and a time of day, or not at all. -/
theorem milliseconds?_date {rest : List Char} (years : year ≤ 9999)
    (visible : ∀ c ∈ rest, c.toNat ≠ 0) (ends : ∀ c ∈ rest.getLast?, isSpace c = false)
    (present : Instant) :
    milliseconds? present (String.ofList (sign.text ++ (padded 4 year ++ '-' :: rest))) =
      (dateTime? (sign.text ++ (padded 4 year ++ '-' :: rest))).bind fun time =>
        if 0 ≤ time + epoch ∧ time + epoch ≤ last then some time else none := by
  have areDigits : ∀ c ∈ padded 4 year, c.isDigit = true := fun _ => padded_isDigit
  have length : (padded 4 year).length = 4 := padded_length (by omega) (by decide)
  obtain ⟨a, b, c, d, split⟩ : ∃ a b c d, padded 4 year = [a, b, c, d] := by
    match padded 4 year, length with
    | [a, b, c, d], _ => exact ⟨a, b, c, d, rfl⟩
  have noWord : isPresent (sign.text ++ (padded 4 year ++ '-' :: rest)) = false := by
    rw [split] at areDigits ⊢
    have range := toNat_of_isDigit (areDigits a (by simp))
    cases sign with
    | unsigned => exact isPresent_cons (by omega) _
    | plus => exact isPresent_cons (by decide) _
    | minus => exact isPresent_cons (by decide) _
  have noClock : clock? (sign.text ++ (padded 4 year ++ '-' :: rest)) = none := by
    rw [split] at areDigits ⊢
    cases sign with
    | unsigned => exact clock?_third (areDigits c (by simp)) _
    | plus => exact clock?_third (areDigits b (by simp)) _
    | minus => exact clock?_third (areDigits b (by simp)) _
  have noCount : dayCount? (sign.text ++ (padded 4 year ++ '-' :: rest)) = none :=
    dayCount?_date areDigits (by rw [split]; simp) ends
  rw [milliseconds?, String.toList_ofList]
  simp only [takeWhile_date visible, noWord, timeAlone?, noClock, noCount, Bool.false_eq_true,
    if_false, Option.bind_eq_bind, Option.bind_none, Option.or_none]

end Dates

section Clocks

variable {fraction : List Char} (zone : ZoneText)

theorem fraction_text (digits : ∀ c ∈ fraction, c.isDigit = true) :
    JulianDay.fraction (fractionText fraction ++ zone.text) = (fraction, zone.text) := by
  by_cases none : fraction = []
  · obtain ⟨c, more, split, ends⟩ := zone.text_cons
    subst none
    change JulianDay.fraction zone.text = _
    rw [split]
    unfold JulianDay.fraction
    split
    next point => exact absurd (List.cons.inj point).1 ends.2.1
    next => rfl
  · rw [fractionText, if_neg none, List.cons_append]
    have parts := takeWhile_fraction digits zone
    have some : fraction.isEmpty = false := by simpa using none
    simp only [JulianDay.fraction, parts, some, Bool.false_eq_true, if_false]

theorem zone?_text : zone? zone.text = if zone.hours ≤ 14 then some zone.minutes else none := by
  cases zone with
  | utc capital => cases capital <;> rfl
  | offset east hours minutes hours_le minutes_le =>
    have hoursRead (rest : List Char) : number? 2 0 14 (padded 2 hours ++ rest) =
        if hours ≤ 14 then some (hours, rest) else none := by
      rw [number?_written (by omega) (by decide)]
      simp only [Nat.zero_le, true_and]
    have minutesRead : number? 2 0 59 (padded 2 minutes) = some (minutes, []) := by
      rw [← List.append_nil (padded 2 minutes), number?_written (by omega) (by decide),
        if_pos ⟨Nat.zero_le minutes, minutes_le⟩]
    have started (c : Char) (rest : List Char) (shown : isSpace c = false) :
        (c :: rest).dropWhile isSpace = c :: rest :=
      Text.dropWhile_eq_self fun d first => Option.some.inj first ▸ shown
    change _ = if hours ≤ 14 then _ else none
    by_cases near : hours ≤ 14
    · rw [if_pos near]
      cases east with
      | true =>
        simp only [zone?, ZoneText.text, if_true, started '+' _ (by decide), hoursRead, near,
          minutesRead, after?, Option.bind_eq_bind, Option.bind_some]
        rfl
      | false =>
        simp only [zone?, ZoneText.text, if_true, Bool.false_eq_true, if_false,
          started '-' _ (by decide), hoursRead, near, minutesRead, after?, Option.bind_eq_bind,
          Option.bind_some]
        rfl
    · rw [if_neg near]
      cases east with
      | true =>
        simp only [zone?, ZoneText.text, if_true, started '+' _ (by decide), hoursRead, near,
          if_false, Option.bind_eq_bind, Option.bind_none]
      | false =>
        simp only [zone?, ZoneText.text, Bool.false_eq_true, if_false,
          started '-' _ (by decide), hoursRead, near, Option.bind_eq_bind, Option.bind_none]
        rfl

def secondOf? (second : Nat) (fraction : List Char) : Option Nat :=
  if fraction = [] then some (second * 1000) else rounded? second fraction

theorem seconds?_text {second : Nat} (two : second ≤ 99)
    (digits : ∀ c ∈ fraction, c.isDigit = true) :
    seconds? (':' :: (padded 2 second ++ (fractionText fraction ++ zone.text))) =
      if second ≤ 59 then (secondOf? second fraction).map fun millisecond => (millisecond, zone.text)
      else none := by
  have secondRead (rest : List Char) : number? 2 0 59 (padded 2 second ++ rest) =
      if second ≤ 59 then some (second, rest) else none := by
    rw [number?_written (by omega) (by decide)]
    simp only [Nat.zero_le, true_and]
  by_cases known : second ≤ 59
  · simp only [seconds?, secondRead, known, if_true, Option.bind_eq_bind, Option.bind_some,
      fraction_text zone digits, List.isEmpty_iff, secondOf?]
    by_cases none : fraction = []
    · rw [if_pos none, if_pos none]
      rfl
    · rw [if_neg none, if_neg none]
      cases rounded? second fraction <;> rfl
  · simp only [seconds?, secondRead, known, if_false, Option.bind_eq_bind, Option.bind_none]

theorem clock?_text {hour minute second : Nat} (inRange : hour ≤ 23 ∧ minute ≤ 59 ∧ second ≤ 60)
    (digits : ∀ c ∈ fraction, c.isDigit = true) :
    clock? (clockText hour minute second (fractionText fraction ++ zone.text)) =
      if second ≤ 59 ∧ zone.hours ≤ 14 then
        (secondOf? second fraction).map fun millisecond : Nat =>
          (hour : Int) * 3600000 + minute * 60000 + millisecond - zone.minutes * 60000
      else none := by
  obtain ⟨hour_le, minute_le, second_le⟩ := inRange
  have hourRead (rest : List Char) : number? 2 0 24 (padded 2 hour ++ rest) = some (hour, rest) :=
    number?_padded (Nat.zero_le hour) (by omega) (by decide) (by decide) rest
  have minuteRead (rest : List Char) :
      number? 2 0 59 (padded 2 minute ++ rest) = some (minute, rest) :=
    number?_padded (Nat.zero_le minute) minute_le (by decide) (by decide) rest
  have two : second ≤ 99 := by omega
  have secondsRead := seconds?_text zone two digits
  simp only [clock?, clockText, hourRead, minuteRead, secondsRead, after?, Option.bind_eq_bind,
    Option.bind_some, if_true]
  by_cases known : second ≤ 59
  · cases secondOf? second fraction with
    | none => simp
    | some millisecond =>
      simp only [known, true_and, if_true, Option.map_some, Option.bind_some, zone?_text]
      split
      · rfl
      · rfl
  · simp [known]

end Clocks

end JulianDay

theorem CycleDay.yearStart_succ (year : Int) :
    yearStart year + 365 ≤ yearStart (year + 1) := by
  simp only [yearStart]
  omega

namespace Date

variable {date : Date}

theorem toDays_eq (date : Date) : date.toDays = CycleDay.yearStart date.yearFromMarch +
    ((153 * (((date.month : Int) + 9) % 12) + 2) / 5 + date.day - 1) - 719468 := by
  simp only [toDays, CycleDay.yearStart, yearFromMarch]
  omega

theorem toDays_bounds (valid : date.Valid) {first last : Int} (notBefore : first ≤ date.year)
    (notAfter : date.year ≤ last) :
    CycleDay.yearStart (first - 1) + 306 - 719468 ≤ date.toDays ∧
      date.toDays ≤ CycleDay.yearStart last + 305 - 719468 := by
  obtain ⟨month_le, day_le⟩ := valid.small
  obtain ⟨month_pos, -, day_pos, -⟩ := valid
  rw [toDays_eq, yearFromMarch]
  split
  next early =>
    have begun := CycleDay.yearStart_le (show first - 1 ≤ date.year - 1 by omega)
    have ended := CycleDay.yearStart_le (show date.year - 1 ≤ last - 1 by omega)
    have later := CycleDay.yearStart_succ (last - 1)
    rw [Int.sub_add_cancel] at later
    omega
  next late =>
    have begun := CycleDay.yearStart_le (show first ≤ date.year from notBefore)
    have earlier := CycleDay.yearStart_succ (first - 1)
    have ended := CycleDay.yearStart_le notAfter
    rw [Int.sub_add_cancel] at earlier
    omega

theorem not_isMiscounted (dated : 0 ≤ date.year) : ¬date.IsMiscounted := by
  simp only [IsMiscounted, yearFromMarch]
  omega

theorem date?_text (valid : date.Valid) (dated : 0 ≤ date.year ∧ date.year ≤ 9999)
    (rest : List Char) : JulianDay.date? (date.text ++ rest) = some (date.toDays, rest) := by
  have small := valid.small
  have unsigned : DaySign.unsigned ≠ .plus := by decide
  have years : date.year.toNat ≤ 9999 := by omega
  have year : DaySign.unsigned.applied date.year.toNat = date.year := Int.toNat_of_nonneg dated.1
  have read := JulianDay.date?_written unsigned years ⟨valid.1, small.1⟩ ⟨valid.2.2.1, small.2⟩ rest
  rw [year, dayNumber_eq ⟨valid.1, small.1⟩, if_neg (not_isMiscounted dated.1), Int.add_zero] at read
  rw [text_append]
  exact read

end Date

theorem ZoneText.text_visible (zone : ZoneText) : ∀ c ∈ zone.text, c.toNat ≠ 0 := by
  cases zone with
  | utc capital =>
    rw [text, List.forall_mem_singleton]
    cases capital <;> decide
  | offset east hours minutes =>
    simp only [text, List.forall_mem_append, List.forall_mem_cons]
    refine ⟨?_, padded_visible, by decide, padded_visible⟩
    cases east <;> decide

theorem ZoneText.text_ends (zone : ZoneText) :
    ∃ c, zone.text.getLast? = some c ∧ 32 < c.toNat ∧ c.toNat < 128 := by
  cases zone with
  | utc capital => cases capital <;> exact ⟨_, rfl, by decide⟩
  | offset east hours minutes =>
    have some : padded 2 minutes ≠ [] := by
      obtain ⟨c, rest, split, _⟩ := padded_cons 2 minutes
      rw [split]
      exact List.cons_ne_nil c rest
    refine ⟨(padded 2 minutes).getLast some, ?_, ?_⟩
    · rw [text, List.getLast?_cons, List.getLast?_append, List.getLast?_cons,
        List.getLast?_eq_some_getLast some]
      rfl
    · have range := toNat_of_isDigit (padded_isDigit (List.getLast_mem some))
      omega

theorem ZoneText.minutes_bounds (zone : ZoneText) : -1440 < zone.minutes ∧ zone.minutes < 1440 := by
  cases zone with
  | utc capital =>
    rw [ZoneText.minutes]
    omega
  | offset east hours minutes hours_le minutes_le =>
    simp only [ZoneText.minutes]
    split <;> omega

namespace TimeText

variable (time : TimeText)

def IsKnown : Prop :=
  (JulianDay.isSpace time.separator || time.separator == 'T') = true ∧ time.second ≤ 59 ∧
    time.zone.hours ≤ 14

instance : Decidable time.IsKnown := inferInstanceAs (Decidable (_ ∧ _ ∧ _))

theorem dateTime?_text : JulianDay.dateTime? time.text =
    if time.IsKnown then
      (JulianDay.secondOf? time.second time.fraction).map fun millisecond : Nat =>
        time.minuteStart * 1000 + millisecond
    else none := by
  have clock := JulianDay.clock?_text time.zone time.clock_le time.fraction_digits
  have hour_lt : time.hour < 10 ^ 2 := by
    have inRange := time.clock_le
    omega
  have length : (padded 2 time.hour).length = 2 := padded_length hour_lt (by decide)
  obtain ⟨a, b, split⟩ : ∃ a b, padded 2 time.hour = [a, b] := by
    match padded 2 time.hour, length with
    | [a, b], _ => exact ⟨a, b, rfl⟩
  have areDigits : ∀ c ∈ [a, b], c.isDigit = true := fun c member =>
    padded_isDigit (split ▸ member)
  have hourDigit := areDigits a (by simp)
  have rest_ne (rest : List Char) : ([a, b] ++ rest).isEmpty = false := rfl
  rw [text, JulianDay.dateTime?, Date.date?_text time.date_valid time.dated]
  rw [clockText, split] at clock ⊢
  -- A known separator is skipped; another one stays, and no time of day begins with it.
  by_cases known : (JulianDay.isSpace time.separator || time.separator == 'T') = true
  · have separated (rest : List Char) : (time.separator :: ([a, b] ++ rest)).dropWhile
        (fun c => JulianDay.isSpace c || c == 'T') = [a, b] ++ rest := by
      have stops : ¬(JulianDay.isSpace a || a == 'T') = true := by
        simp [isSpace_of_isDigit hourDigit,
          ne_of_isDigit hourDigit (show 'T'.isDigit = false by decide)]
      rw [List.cons_append, List.dropWhile_cons, if_pos known, List.dropWhile_cons, if_neg stops]
    have sameTest : time.IsKnown ↔ time.second ≤ 59 ∧ time.zone.hours ≤ 14 := by
      rw [IsKnown, known]
      simp only [true_and]
    simp only [Option.bind_eq_bind, Option.bind_some, separated, rest_ne, Bool.false_eq_true,
      if_false, clock, sameTest]
    split
    · cases JulianDay.secondOf? time.second time.fraction with
      | none => rfl
      | some millisecond =>
        refine congrArg some ?_
        simp only [minuteStart, secondsPerDay, JulianDay.millisecondsPerDay]
        omega
    · rfl
  · have kept (rest : List Char) : (time.separator :: rest).dropWhile
        (fun c => JulianDay.isSpace c || c == 'T') = time.separator :: rest := by
      rw [List.dropWhile_cons, if_neg known]
    have noClock (rest : List Char) : JulianDay.clock? (time.separator :: ([a, b] ++ rest)) = none :=
      JulianDay.clock?_third (areDigits b (by simp)) rest
    have foreign : ¬time.IsKnown := fun isKnown => known isKnown.1
    simp only [Option.bind_eq_bind, Option.bind_some, kept, List.isEmpty_cons, Bool.false_eq_true,
      if_false, noClock, foreign, Option.bind_none]

theorem exists_behind_year : ∃ rest, time.text =
    DaySign.unsigned.text ++ (padded 4 time.date.year.toNat ++ '-' :: rest) ∧
      (time.separator.toNat ≠ 0 → ∀ c ∈ rest, c.toNat ≠ 0) ∧
      ∀ c ∈ rest.getLast?, JulianDay.isSpace c = false := by
  refine ⟨padded 2 time.date.month ++ '-' :: (padded 2 time.date.day ++ time.separator ::
    clockText time.hour time.minute time.second (fractionText time.fraction)) ++ time.zone.text,
    ?_, ?_, ?_⟩
  · rw [text, Date.text_append]
    simp only [clockText, List.append_assoc, List.cons_append]
    rfl
  · intro visible
    have point := fractionText_visible time.fraction_digits
    simp only [clockText, List.forall_mem_append, List.forall_mem_cons]
    exact ⟨⟨padded_visible, by decide, padded_visible, visible, padded_visible, by decide,
      padded_visible, by decide, padded_visible, point⟩, time.zone.text_visible⟩
  · intro c isLast
    obtain ⟨final, lastOf, shown, _⟩ := time.zone.text_ends
    rw [List.getLast?_append, lastOf] at isLast
    obtain rfl : final = c := Option.some.inj isLast
    exact isSpace_of_shown shown

/-- A known time is read as whole milliseconds, if it is before the year 10000. -/
theorem milliseconds?_text (visible : time.separator.toNat ≠ 0) (present : Instant) :
    JulianDay.milliseconds? present (String.ofList time.text) =
      if time.IsKnown then
        (JulianDay.secondOf? time.second time.fraction).bind fun millisecond : Nat =>
          if time.minuteStart * 1000 + millisecond < Instant.afterLast * 1000 then
            some (time.minuteStart * 1000 + millisecond)
          else none
      else none := by
  obtain ⟨rest, whole, shown, ends⟩ := time.exists_behind_year
  have dated := time.dated
  have years : time.date.year.toNat ≤ 9999 := by omega
  have days := Date.toDays_bounds time.date_valid dated.1 dated.2
  have offset := time.zone.minutes_bounds
  rw [show CycleDay.yearStart (0 - 1) = -366 by decide] at days
  rw [whole, JulianDay.milliseconds?_date years (shown visible) ends, ← whole, dateTime?_text]
  split
  next known =>
    cases JulianDay.secondOf? time.second time.fraction with
    | none => rfl
    | some millisecond =>
      refine if_congr ?_ rfl rfl
      simp only [minuteStart, secondsPerDay, JulianDay.epoch, JulianDay.last, Instant.afterLast]
      omega
  next foreign => rfl

end TimeText

namespace DayText

variable (day : DayText)

theorem dateTime?_text : JulianDay.dateTime? day.text =
    if day.sign = .plus then none
    else some ((day.date.toDays + if day.date.IsMiscounted then 1 else 0) *
      JulianDay.millisecondsPerDay) := by
  have small : day.month ≤ 12 ∧ day.day ≤ 31 := day.date_valid.small
  obtain ⟨month_pos, -, day_pos, -⟩ := day.date_valid
  by_cases plus : day.sign = .plus
  · rw [if_pos plus, text, plus]
    change JulianDay.dateTime? ('+' :: day.unsignedText) = none
    rw [JulianDay.dateTime?, JulianDay.date?_plus]
    rfl
  · have read := JulianDay.date?_written plus day.year_le ⟨month_pos, small.1⟩ ⟨day_pos, small.2⟩ []
    have counted : JulianDay.dayNumber (day.sign.applied day.year) day.month day.day =
        day.date.toDays + if day.date.IsMiscounted then 1 else 0 :=
      @Date.dayNumber_eq day.date ⟨month_pos, small.1⟩
    rw [List.append_nil, counted] at read
    rw [if_neg plus, JulianDay.dateTime?, text, unsignedText, read]
    rfl

theorem counted_le : day.date.toDays + (if day.date.IsMiscounted then 1 else 0) ≤ 2932896 := by
  have year : day.date.year ≤ 9999 := by
    have below := day.year_le
    change day.sign.applied day.year ≤ 9999
    cases day.sign <;> simp only [DaySign.applied] <;> omega
  have valid : day.date.Valid := day.date_valid
  by_cases dated : 0 ≤ day.date.year
  · have days := Date.toDays_bounds valid (Int.le_refl _) year
    rw [show CycleDay.yearStart 9999 = 3652059 by decide] at days
    rw [if_neg (Date.not_isMiscounted dated)]
    omega
  · have days := Date.toDays_bounds valid (Int.le_refl _) (Int.le_of_not_le dated)
    rw [show CycleDay.yearStart 0 = 0 by decide] at days
    split <;> omega

theorem milliseconds?_text (present : Instant) :
    JulianDay.milliseconds? present (String.ofList day.text) =
      if day.sign = .plus then none
      else
        let time := (day.date.toDays + if day.date.IsMiscounted then 1 else 0) *
          JulianDay.millisecondsPerDay
        if 0 ≤ time + JulianDay.epoch then some time else none := by
  have shown : ∀ c ∈ padded 2 day.month ++ '-' :: padded 2 day.day, c.toNat ≠ 0 := by
    simp only [List.forall_mem_append, List.forall_mem_cons]
    exact ⟨padded_visible, by decide, padded_visible⟩
  have solid : ∀ c ∈ padded 2 day.month ++ '-' :: padded 2 day.day, JulianDay.isSpace c = false := by
    have digits {n : Nat} : ∀ c ∈ padded 2 n, JulianDay.isSpace c = false :=
      fun c member => isSpace_of_isDigit (padded_isDigit member)
    simp only [List.forall_mem_append, List.forall_mem_cons]
    exact ⟨digits, by decide, digits⟩
  have ends := fun c isLast => solid c (List.mem_of_getLast? isLast)
  have beforeEnd := day.counted_le
  rw [text, unsignedText, JulianDay.milliseconds?_date day.year_le shown ends]
  change (JulianDay.dateTime? day.text).bind _ = _
  rw [dateTime?_text]
  split
  next => rfl
  next =>
    refine if_congr ?_ rfl rfl
    simp only [JulianDay.epoch, JulianDay.last, JulianDay.millisecondsPerDay]
    omega

end DayText

/-- A store reads a time stamp as the second for which it was written. -/
theorem Instant.milliseconds?_timestamp {instant : Instant} (dated : instant.IsDated)
    (present : Instant) :
    JulianDay.milliseconds? present instant.timestamp = some (instant.second * 1000) := by
  have range := (isDated_iff instant).mp dated
  have known : (instant.written dated).IsKnown := by
    refine ⟨rfl, ?_, Nat.zero_le 14⟩
    simp only [written]
    omega
  have visible : (instant.written dated).separator.toNat ≠ 0 := by
    change 'T'.toNat ≠ 0
    decide
  have start := written_minuteStart dated
  have second : JulianDay.secondOf? (instant.written dated).second (instant.written dated).fraction =
      some (instant.secondOfDay % 60 * 1000) := if_pos rfl
  rw [timestamp, ← written_text dated, TimeText.milliseconds?_text _ visible, if_pos known, second,
    Option.bind_some, if_pos (by omega)]
  refine congrArg some ?_
  omega

end Time

end ModelCatalog
