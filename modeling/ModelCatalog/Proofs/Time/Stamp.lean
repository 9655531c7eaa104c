import Mathlib.Data.List.TakeWhile
import ModelCatalog.Proofs.Decimal.Digits
import ModelCatalog.Proofs.Time.Calendar

/-!
Time stamps of the years 0 to 9999, and the numbers of which they are made.
-/

namespace ModelCatalog.Time

open Decimal (padded padded_isDigit padded_length padded_cons ofDigits_padded)

section Digits

variable {c d : Char}

theorem toNat_of_isDigit (digit : c.isDigit = true) : 48 ≤ c.toNat ∧ c.toNat ≤ 57 :=
  Char.isDigit_iff_toNat.mp digit

theorem ne_of_isDigit (digit : c.isDigit = true) (other : d.isDigit = false) : c ≠ d := by
  intro same
  rw [same, other] at digit
  cases digit

theorem toLower_of_lt (low : c.toNat < 65) : c.toLower = c := by
  unfold Char.toLower
  rw [dif_neg]
  intro upper
  have letter : 65 ≤ c.toNat := upper.1
  omega

theorem isSpace_of_shown (shown : 32 < c.toNat) : JulianDay.isSpace c = false := by
  have other {d : Char} (low : d.toNat ≤ 32) : c ≠ d := by
    rintro rfl
    omega
  have blank : c ≠ ' ' := other (by decide)
  have tab : c ≠ '\t' := other (by decide)
  have line : c ≠ '\n' := other (by decide)
  have carriage : c ≠ '\r' := other (by decide)
  have vertical : c.toNat ≠ 11 ∧ c.toNat ≠ 12 := by omega
  simp [JulianDay.isSpace, blank, tab, line, carriage, vertical]

theorem isSpace_of_isDigit (digit : c.isDigit = true) : JulianDay.isSpace c = false := by
  have range := toNat_of_isDigit digit
  exact isSpace_of_shown (by omega)

end Digits

namespace JulianDay

theorem isPresent_cons {c : Char} (low : c.toNat < 65) (rest : List Char) :
    isPresent (c :: rest) = false := by
  have other {d : Char} (letter : 65 ≤ d.toNat) : d ≠ c := by
    rintro rfl
    omega
  have n : 'n' ≠ c := other (by decide)
  have s : 's' ≠ c := other (by decide)
  simp [isPresent, Text.sameAscii, Text.asciiLower, toLower_of_lt low, n, s]

theorem number?_written {count n : Nat} (fits : n < 10 ^ count) (places : 0 < count)
    (least greatest : Nat) (rest : List Char) :
    number? count least greatest (padded count n ++ rest) =
      if least ≤ n ∧ n ≤ greatest then some (n, rest) else none := by
  have length : (padded count n).length = count := padded_length fits places
  have digits : (padded count n ++ rest).take count = padded count n := by
    rw [List.take_append_of_le_length (Nat.le_of_eq length.symm), List.take_of_length_le]
    exact Nat.le_of_eq length
  have after : (padded count n ++ rest).drop count = rest := by
    rw [List.drop_append_of_le_length (Nat.le_of_eq length.symm), List.drop_of_length_le]
    · rfl
    · exact Nat.le_of_eq length
  have areDigits : (padded count n).all Char.isDigit = true :=
    List.all_eq_true.mpr fun c member => padded_isDigit member
  rw [number?, digits, after, ofDigits_padded]
  exact if_congr ⟨fun read => read.2.2, fun bounds => ⟨length, areDigits, bounds⟩⟩ rfl rfl

theorem number?_padded {count least greatest n : Nat} (atLeast : least ≤ n) (atMost : n ≤ greatest)
    (fits : greatest < 10 ^ count) (places : 0 < count) (rest : List Char) :
    number? count least greatest (padded count n ++ rest) = some (n, rest) := by
  rw [number?_written (Nat.lt_of_le_of_lt atMost fits) places, if_pos ⟨atLeast, atMost⟩]

end JulianDay

namespace Instant

def IsDated (instant : Instant) : Prop := 0 ≤ instant.date.year ∧ instant.date.year ≤ 9999

instance (instant : Instant) : Decidable instant.IsDated := inferInstanceAs (Decidable (_ ∧ _))

def afterLast : Int := 253402300800

theorem isDated_iff (instant : Instant) :
    instant.IsDated ↔ earliest.second ≤ instant.second ∧ instant.second < afterLast := by
  rw [IsDated, date, Date.ofDays_year_nonneg_iff, Date.ofDays_year_le_iff]
  simp only [earliest, afterLast, secondsPerDay]
  omega

variable {instant : Instant}

theorem stamp_eq (dated : instant.IsDated) : instant.stamp =
    padded 4 instant.date.year.toNat ++ '-' :: (padded 2 instant.date.month ++
      '-' :: (padded 2 instant.date.day ++ ('T' :: (padded 2 (instant.secondOfDay / 3600) ++
        ':' :: (padded 2 (instant.secondOfDay / 60 % 60) ++
          ':' :: (padded 2 (instant.secondOfDay % 60) ++ ['Z'])))))) := by
  rw [stamp]
  have inYears : 0 ≤ instant.date.year ∧ instant.date.year ≤ 9999 := dated
  simp only [inYears, and_self, if_true, List.append_assoc, List.cons_append]

theorem daysBefore_second (instant : Instant) (days : UInt32) :
    (instant.daysBefore days).second =
      max (instant.second - secondsPerDay * days.toNat) earliest.second := by
  by_cases early : instant.second - secondsPerDay * days.toNat < earliest.second
  · simp only [daysBefore, early, if_true]
    omega
  · simp only [daysBefore, early, if_false]
    omega

theorem isDated_daysBefore (dated : instant.IsDated) (days : UInt32) :
    (instant.daysBefore days).IsDated := by
  have range := (isDated_iff instant).mp dated
  rw [isDated_iff, daysBefore_second]
  simp only [secondsPerDay]
  omega

/-- No instant of the years 0 to 9999 is before the earliest one. So it is before the instant that
lies `days` days back exactly if it is more than so many days back. -/
theorem lt_daysBefore_iff {other : Instant} (dated : other.IsDated) (days : UInt32) :
    other.second < (instant.daysBefore days).second ↔
      other.second < instant.second - secondsPerDay * days.toNat := by
  have range := (isDated_iff other).mp dated
  rw [daysBefore_second]
  omega

end Instant

end ModelCatalog.Time
