import ModelCatalog.Proofs.Time.Stamp

/-!
The order of time stamps. In the years 0 to 9999 all fields of a stamp have fixed widths and stand
from the greatest unit to the smallest, so that the stamps are ordered as texts as their instants are.
-/

namespace ModelCatalog

namespace Decimal

theorem foldl_digits (n : Nat) (text : List Char) :
    text.foldl (fun n c => 10 * n + (c.toNat - '0'.toNat)) n =
      n * 10 ^ text.length + ofDigits text := by
  induction text generalizing n with
  | nil => simp [ofDigits]
  | cons c rest ih =>
    rw [ofDigits, List.foldl_cons, List.foldl_cons, ih, ih (10 * 0 + _), List.length_cons,
      Nat.pow_succ, Nat.add_mul, Nat.mul_zero, Nat.zero_add, Nat.add_assoc]
    congr 1
    rw [Nat.mul_comm 10 n, Nat.mul_assoc, Nat.mul_comm 10]

theorem ofDigits_cons (c : Char) (rest : List Char) :
    ofDigits (c :: rest) = (c.toNat - '0'.toNat) * 10 ^ rest.length + ofDigits rest := by
  rw [ofDigits, List.foldl_cons, foldl_digits, Nat.mul_zero, Nat.zero_add]

theorem ofDigits_lt {text : List Char} (digits : ∀ c ∈ text, c.isDigit = true) :
    ofDigits text < 10 ^ text.length := by
  induction text with
  | nil => simp [ofDigits]
  | cons c rest ih =>
    have digit := Time.toNat_of_isDigit (digits c List.mem_cons_self)
    have small := ih fun d member => digits d (List.mem_cons_of_mem c member)
    have value : c.toNat - '0'.toNat ≤ 9 := by
      rw [show '0'.toNat = 48 from rfl]
      omega
    have most : (c.toNat - '0'.toNat) * 10 ^ rest.length ≤ 9 * 10 ^ rest.length :=
      Nat.mul_le_mul_right _ value
    rw [ofDigits_cons, List.length_cons, Nat.pow_succ]
    omega

theorem lt_of_ofDigits_lt {a b : List Char} (length : a.length = b.length)
    (digits : ∀ c ∈ a, c.isDigit = true) (others : ∀ c ∈ b, c.isDigit = true)
    (less : ofDigits a < ofDigits b) : a < b := by
  induction a generalizing b with
  | nil =>
    rw [List.length_eq_zero_iff.mp length.symm] at less
    exact absurd less (Nat.lt_irrefl _)
  | cons c rest ih =>
    cases b with
    | nil => cases length
    | cons d more =>
      have same : rest.length = more.length := Nat.succ.inj length
      have c_digit := Time.toNat_of_isDigit (digits c List.mem_cons_self)
      have d_digit := Time.toNat_of_isDigit (others d List.mem_cons_self)
      have smaller : ofDigits more < 10 ^ rest.length :=
        same ▸ ofDigits_lt fun e member => others e (List.mem_cons_of_mem d member)
      rw [ofDigits_cons, ofDigits_cons, ← same, show '0'.toNat = 48 from rfl] at less
      rw [List.cons_lt_cons_iff]
      rcases Nat.lt_trichotomy c.toNat d.toNat with below | alike | above
      · exact Or.inl below
      · rw [alike] at less
        exact Or.inr ⟨Char.toNat_inj.mp alike, ih same
          (fun e member => digits e (List.mem_cons_of_mem c member))
          (fun e member => others e (List.mem_cons_of_mem d member)) (by omega)⟩
      · -- One more in the first place outweighs all places after it.
        have outweighs : (d.toNat - 48 + 1) * 10 ^ rest.length ≤
            (c.toNat - 48) * 10 ^ rest.length := Nat.mul_le_mul_right _ (by omega)
        rw [Nat.add_mul, Nat.one_mul] at outweighs
        omega

theorem padded_lt {width m n : Nat} (less : m < n) (fits : n < 10 ^ width) (places : 0 < width) :
    padded width m < padded width n := by
  refine lt_of_ofDigits_lt ?_ (fun _ => padded_isDigit) (fun _ => padded_isDigit) ?_
  · rw [padded_length fits places, padded_length (Nat.lt_trans less fits) places]
  · rwa [ofDigits_padded, ofDigits_padded]

end Decimal

theorem append_lt_append {a b : List Char} (length : a.length = b.length) (less : a < b)
    (rest more : List Char) : a ++ rest < b ++ more := by
  induction a generalizing b with
  | nil =>
    rw [List.length_eq_zero_iff.mp length.symm] at less
    exact absurd less (List.lt_irrefl _)
  | cons c a ih =>
    cases b with
    | nil => cases length
    | cons d b =>
      rw [List.cons_append, List.cons_append, List.cons_lt_cons_iff]
      rcases List.cons_lt_cons_iff.mp less with first | ⟨same, further⟩
      · exact Or.inl first
      · exact Or.inr ⟨same, ih (Nat.succ.inj length) further⟩

namespace Time

open Decimal (padded padded_length padded_lt)

namespace CycleDay

def yearStart (year : Int) : Int := 365 * year + year / 4 - year / 100 + year / 400

variable (day : CycleDay)

theorem yearStart_yearIn (cycle : Int) :
    146097 * cycle + day.number = yearStart (day.yearIn cycle) + day.rest := by
  obtain ⟨century, group, year, rest, _, _, _, _⟩ := day
  simp only [yearStart, yearIn, yearNumber, number]
  omega

/-- The year of a day is the last one that has begun. -/
theorem rest_lt_yearStart (cycle : Int) :
    yearStart (day.yearIn cycle) + day.rest < yearStart (day.yearIn cycle + 1) := by
  obtain ⟨century, group, year, rest, _, _, _, _⟩ := day
  simp only [yearStart, yearIn, yearNumber]
  omega

theorem yearStart_le {year later : Int} (ordered : year ≤ later) :
    yearStart year ≤ yearStart later := by
  simp only [yearStart]
  omega

variable {day} {later : CycleDay} {cycle laterCycle : Int}

theorem yearIn_lt_or (before : 146097 * cycle + day.number < 146097 * laterCycle + later.number) :
    day.yearIn cycle < later.yearIn laterCycle ∨
      day.yearIn cycle = later.yearIn laterCycle ∧ day.rest < later.rest := by
  have start := day.yearStart_yearIn cycle
  have laterStart := later.yearStart_yearIn laterCycle
  rcases Int.lt_trichotomy (day.yearIn cycle) (later.yearIn laterCycle) with below | same | above
  · exact Or.inl below
  · rw [same] at start
    exact Or.inr ⟨same, by omega⟩
  · have ended := later.rest_lt_yearStart laterCycle
    have begun := yearStart_le (show later.yearIn laterCycle + 1 ≤ day.yearIn cycle from above)
    have nonneg := day.rest_le
    omega

end CycleDay

namespace Date

def Before (date later : Date) : Prop :=
  date.year < later.year ∨ date.year = later.year ∧
    (date.month < later.month ∨ date.month = later.month ∧ date.day < later.day)

theorem ofDays_before {days later : Int} (before : days < later) :
    (ofDays days).Before (ofDays later) := by
  obtain ⟨cycle, day, rfl⟩ := CycleDay.exists_day days
  obtain ⟨laterCycle, laterDay, rfl⟩ := CycleDay.exists_day later
  rw [day.ofDays_number, laterDay.ofDays_number]
  have years := CycleDay.yearIn_lt_or (show 146097 * cycle + day.number <
    146097 * laterCycle + laterDay.number by omega)
  have rest := day.rest_le
  have laterRest := laterDay.rest_le
  have month : day.month = (5 * day.rest + 2) / 153 := rfl
  have laterMonth : laterDay.month = (5 * laterDay.rest + 2) / 153 := rfl
  rw [Before, CycleDay.date, CycleDay.date, CycleDay.dayOfMonth, CycleDay.dayOfMonth]
  -- January and February stand in the year after the one in which they are counted.
  by_cases early : day.month < 10 <;> by_cases laterEarly : laterDay.month < 10 <;>
    simp only [early, laterEarly, if_true, if_false] <;> omega

end Date

namespace Instant

variable {a b : Instant}

theorem field_lt {width m n : Nat} (less : m < n) (fits : n < 10 ^ width) (places : 0 < width)
    (rest more : List Char) : padded width m ++ rest < padded width n ++ more :=
  append_lt_append (by rw [padded_length fits places, padded_length (Nat.lt_trans less fits) places])
    (padded_lt less fits places) rest more

theorem field_same {width n : Nat} {separator : Char} {rest more : List Char} (less : rest < more) :
    padded width n ++ separator :: rest < padded width n ++ separator :: more :=
  List.append_left_lt (List.cons_lt_cons_iff.mpr (Or.inr ⟨rfl, less⟩))

theorem stamp_lt (dated : a.IsDated) (laterDated : b.IsDated) (before : a.second < b.second) :
    a.stamp < b.stamp := by
  rw [stamp_eq dated, stamp_eq laterDated]
  have years := dated
  have laterYears := laterDated
  rw [IsDated] at years laterYears
  obtain ⟨months, days⟩ : (1 ≤ b.date.month ∧ b.date.month ≤ 12) ∧
      1 ≤ b.date.day ∧ b.date.day ≤ 31 := Date.ofDays_bounds _
  have seconds : b.secondOfDay < 86400 := by
    simp only [secondOfDay, secondsPerDay]
    omega
  by_cases sameDay : a.second / secondsPerDay = b.second / secondsPerDay
  · have date : a.date = b.date := by rw [Instant.date, Instant.date, sameDay]
    have clock : a.secondOfDay < b.secondOfDay := by
      simp only [secondOfDay, secondsPerDay] at sameDay ⊢
      omega
    rw [date]
    refine field_same (field_same (field_same ?_))
    by_cases sameHour : a.secondOfDay / 3600 = b.secondOfDay / 3600
    · rw [sameHour]
      refine field_same ?_
      by_cases sameMinute : a.secondOfDay / 60 % 60 = b.secondOfDay / 60 % 60
      · rw [sameMinute]
        exact field_same (field_lt (by omega) (by omega) (by decide) _ _)
      · exact field_lt (by omega) (by omega) (by decide) _ _
    · exact field_lt (by omega) (by omega) (by decide) _ _
  · have earlier : a.second / secondsPerDay < b.second / secondsPerDay := by
      simp only [secondsPerDay] at sameDay ⊢
      omega
    have ordered : a.date.Before b.date := Date.ofDays_before earlier
    rcases ordered with year | ⟨sameYear, month | ⟨sameMonth, day⟩⟩
    · exact field_lt (by omega) (by omega) (by decide) _ _
    · rw [sameYear]
      exact field_same (field_lt month (by omega) (by decide) _ _)
    · rw [sameYear, sameMonth]
      exact field_same (field_same (field_lt day (by omega) (by decide) _ _))

theorem stamp_congr (same : a.second = b.second) : a.stamp = b.stamp := by
  obtain ⟨second, _⟩ := a
  obtain ⟨_, _⟩ := b
  subst same
  rfl

/-- Time stamps are in the order of their seconds. -/
theorem timestamp_lt_iff (dated : a.IsDated) (otherDated : b.IsDated) :
    a.timestamp < b.timestamp ↔ a.second < b.second := by
  have texts (a b : Instant) : a.timestamp < b.timestamp ↔ a.stamp < b.stamp := by
    change a.timestamp.toList < b.timestamp.toList ↔ _
    rw [timestamp, timestamp, String.toList_ofList, String.toList_ofList]
  rw [texts]
  constructor
  · intro less
    rcases Int.lt_trichotomy a.second b.second with below | same | above
    · exact below
    · rw [stamp_congr same] at less
      exact absurd less (List.lt_irrefl _)
    · exact absurd (List.lt_trans less (stamp_lt otherDated dated above)) (List.lt_irrefl _)
  · exact stamp_lt dated otherDated

end Instant

end Time

end ModelCatalog
