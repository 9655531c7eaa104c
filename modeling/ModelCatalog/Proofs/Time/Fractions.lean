import ModelCatalog.Proofs.Decimal.Rounding
import ModelCatalog.Proofs.Time.Chronology
import ModelCatalog.Time.JulianDay
import ModelCatalog.Time.Reading

/-!
The seconds of a time, which the store adds up in binary64. With a fraction of no more than three hundred
digits they are read as the nearest millisecond, unless they are about half way between two.
-/

namespace ModelCatalog

open Binary64

namespace Decimal

theorem ofDigits_concat (digits : List Char) (c : Char) :
    ofDigits (digits ++ [c]) = 10 * ofDigits digits + (c.toNat - '0'.toNat) :=
  Nat.ofDigitChars_append 0

theorem ofDigits_append (digits more : List Char) :
    ofDigits (digits ++ more) = 10 ^ more.length * ofDigits digits + ofDigits more :=
  (Nat.ofDigitChars_append 0).trans Nat.ofDigitChars_eq_ofDigitChars_zero

end Decimal

namespace Time

open Decimal (ofDigits ofDigits_concat ofDigits_append ofDigits_lt)

namespace JulianDay

/-- The slack that so many digits need, for each of which there are three operations. -/
def slack (places : Nat) : ℚ := places / 2 ^ 47

theorem slack_le {places : Nat} (few : places ≤ 300) : slack places ≤ 1 / 2 ^ 38 := by
  have bound : (places : ℚ) ≤ 300 := by exact_mod_cast few
  rw [slack, div_le_div_iff₀ (by norm_num) (by norm_num)]
  linarith

theorem slack_succ (places : Nat) : slack (places + 1) = slack places + 1 / 2 ^ 47 := by
  rw [slack, slack, Nat.cast_succ, add_div]

/-! One more digit. Each operation is given a bound on its exact result and the error before it. -/

section Step

variable {x : Float} {power number error : ℚ} (one : 1 ≤ power) (finite : power * 100 < ceiling)
  (small : error ≤ 1 / 2 ^ 38)
include one finite small

theorem scale_step (within : Within x power (power * error)) :
    Within (x * 10) (power * 10) (power * 10 * (error + 1 / 2 ^ 47)) := by
  have slack := mul_le_mul_of_nonneg_left small (by linarith : 0 ≤ power)
  have size : |power * 10| + power * error * 10 ≤ power * 20 := by
    rw [abs_of_nonneg (by linarith)]
    linarith
  have tenfold := within.mul denotes_ten (by norm_num) size (by linarith) (by linarith)
  exact tenfold.mono (by linarith)

theorem part_step (within : Within x number (power * error)) (part : 0 ≤ number ∧ number < power)
    {c : Char} (digit : c.isDigit = true) :
    Within (x * 10 + c.toNat.toFloat - '0'.toNat.toFloat) (number * 10 + c.toNat - 48)
      (power * 10 * (error + 1 / 2 ^ 47)) := by
  have range := toNat_of_isDigit digit
  have code : (48 : ℚ) ≤ c.toNat ∧ (c.toNat : ℚ) ≤ 57 := by exact_mod_cast range
  have letter : Denotes c.toNat.toFloat c.toNat := denotes_small (by omega)
  have zero : Denotes '0'.toNat.toFloat 48 := denotes_small (n := 48) (by decide)
  have slack := mul_le_mul_of_nonneg_left small (by linarith : 0 ≤ power)
  have size : |number * 10| + power * error * 10 ≤ power * 20 := by
    rw [abs_of_nonneg (by linarith)]
    linarith
  have tenfold := within.mul denotes_ten (by norm_num) size (by linarith) (by linarith)
  have size' : |number * 10 + c.toNat| + (power * error * 10 + power * 20 / 2 ^ 51 + 0) ≤
      power * 70 := by
    rw [abs_of_nonneg (by linarith)]
    linarith
  have added := tenfold.add letter.within size' (by linarith) (by linarith)
  have size'' : |number * 10 + c.toNat - 48| +
      (power * error * 10 + power * 20 / 2 ^ 51 + 0 + power * 70 / 2 ^ 51) ≤ power * 70 := by
    rw [abs_of_nonneg (by linarith)]
    linarith
  have digitAdded := added.sub zero size'' (by linarith) (by linarith)
  exact digitAdded.mono (by linarith)

end Step

section Digits

variable {digits : List Char}

theorem power_finite {places : Nat} (few : places < 300) : (10 : ℚ) ^ places * 100 < ceiling := by
  have most : places + 2 ≤ 302 := by omega
  refine lt_ceiling most (le_of_eq ?_)
  rw [pow_add]
  norm_num

theorem one_le_power (places : Nat) : (1 : ℚ) ≤ 10 ^ places := one_le_pow₀ (by norm_num)

theorem scale_within (few : digits.length ≤ 300) :
    Within (digits.foldl (fun scale _ => scale * 10) (1 : Float)) (10 ^ digits.length)
      (10 ^ digits.length * slack digits.length) := by
  induction digits using List.reverseRecOn with
  | nil =>
    have one : Denotes (1 : Float) 1 := denotes_small (n := 1) (by decide)
    simpa [slack] using one.within
  | append_singleton digits c ih =>
    rw [List.length_append, List.length_singleton] at few ⊢
    have fewer : digits.length ≤ 300 := by omega
    rw [List.foldl_concat, slack_succ, pow_succ]
    exact scale_step (one_le_power _) (power_finite few) (slack_le fewer) (ih fewer)

theorem part_within (areDigits : ∀ c ∈ digits, c.isDigit = true) (few : digits.length ≤ 300) :
    Within (digits.foldl (fun part c => part * 10 + c.toNat.toFloat - '0'.toNat.toFloat) (0 : Float))
      (ofDigits digits) (10 ^ digits.length * slack digits.length) := by
  induction digits using List.reverseRecOn with
  | nil =>
    have zero : Denotes (0 : Float) 0 := denotes_small (n := 0) (by decide)
    simpa [slack, ofDigits] using zero.within
  | append_singleton digits c ih =>
    have digit := areDigits c (by simp)
    have range := toNat_of_isDigit digit
    have earlier := fun d member => areDigits d (List.mem_append_left [c] member)
    have less : (ofDigits digits : ℚ) < 10 ^ digits.length := by exact_mod_cast ofDigits_lt earlier
    have value : (ofDigits (digits ++ [c]) : ℚ) = ofDigits digits * 10 + c.toNat - 48 := by
      have number : ofDigits (digits ++ [c]) + 48 = ofDigits digits * 10 + c.toNat := by
        rw [ofDigits_concat, show '0'.toNat = 48 from rfl]
        omega
      rw [eq_sub_iff_add_eq]
      exact_mod_cast number
    rw [List.length_append, List.length_singleton] at few ⊢
    have fewer : digits.length ≤ 300 := by omega
    rw [List.foldl_concat, slack_succ, pow_succ, value]
    exact part_step (one_le_power _) (power_finite few) (slack_le fewer) (ih earlier fewer)
      ⟨Nat.cast_nonneg _, less⟩ digit

theorem quotient_within (areDigits : ∀ c ∈ digits, c.isDigit = true) (few : digits.length ≤ 300) :
    Within
      (digits.foldl (fun part c => part * 10 + c.toNat.toFloat - '0'.toNat.toFloat) (0 : Float) /
        digits.foldl (fun scale _ => scale * 10) (1 : Float))
      (ofDigits digits / 10 ^ digits.length) (1 / 2 ^ 35) := by
  have power := one_le_power digits.length
  have less : (ofDigits digits : ℚ) < 10 ^ digits.length := by exact_mod_cast ofDigits_lt areDigits
  have small := slack_le few
  have divided := (part_within areDigits few).div (scale_within few) (by linarith)
    ⟨Nat.cast_nonneg _, less.le⟩ (by linarith)
  exact divided.mono (by linarith)

theorem milliseconds_within {quotient : Float} {fraction : ℚ} {second : Nat} (known : second ≤ 59)
    (within : Within quotient fraction (1 / 2 ^ 35)) (part : 0 ≤ fraction ∧ fraction ≤ 1) :
    (second.toFloat + quotient).isNaN = false ∧
      Within ((second.toFloat + quotient) * 1000 + 0.5) ((second + fraction) * 1000 + 1 / 2)
        (1 / 2 ^ 22) := by
  have whole : Denotes second.toFloat second := denotes_small (by omega)
  have bound : (second : ℚ) ≤ 59 := by exact_mod_cast known
  have nonneg : (0 : ℚ) ≤ second := Nat.cast_nonneg _
  have finite : (10 : ℚ) ^ 5 < ceiling := lt_ceiling (by norm_num : 5 ≤ 302) le_rfl
  have size : |second + fraction| + (0 + 1 / 2 ^ 35) ≤ 70 := by
    rw [abs_of_nonneg (by linarith)]
    linarith
  have sum := whole.within.add within size (by norm_num) (by linarith)
  have size' : |(second + fraction) * 1000| + (0 + 1 / 2 ^ 35 + 70 / 2 ^ 51) * 1000 ≤ 70000 := by
    rw [abs_of_nonneg (by linarith)]
    linarith
  have thousand := sum.mul denotes_thousand (by norm_num) size' (by norm_num) (by linarith)
  have size'' : |(second + fraction) * 1000 + 1 / 2| +
      ((0 + 1 / 2 ^ 35 + 70 / 2 ^ 51) * 1000 + 70000 / 2 ^ 51 + 0) ≤ 70000 := by
    rw [abs_of_nonneg (by linarith)]
    linarith
  have half := thousand.add denotes_half.within size'' (by norm_num) (by linarith)
  obtain ⟨total, isTotal, -⟩ := sum
  exact ⟨isTotal.isNaN, half.mono (by linarith)⟩

/-- A second with a fraction is read as the milliseconds that it is near. -/
theorem rounded?_near (areDigits : ∀ c ∈ digits, c.isDigit = true) (few : digits.length ≤ 300)
    {second : Nat} (known : second ≤ 59) {millisecond : Nat}
    (near : |(ofDigits digits : ℚ) / 10 ^ digits.length * 1000 - millisecond| ≤ 1 / 4) :
    rounded? second digits = some (second * 1000 + millisecond) := by
  have less : (ofDigits digits : ℚ) < 10 ^ digits.length := by exact_mod_cast ofDigits_lt areDigits
  have power : (0 : ℚ) < 10 ^ digits.length := by positivity
  have bound : (second : ℚ) ≤ 59 := by exact_mod_cast known
  have nonneg : (0 : ℚ) ≤ second := Nat.cast_nonneg _
  have part : (0 : ℚ) ≤ ofDigits digits / 10 ^ digits.length ∧
      (ofDigits digits : ℚ) / 10 ^ digits.length ≤ 1 :=
    ⟨div_nonneg (Nat.cast_nonneg _) power.le, (div_le_one power).mpr less.le⟩
  obtain ⟨isNumber, result, isResult, close⟩ :=
    milliseconds_within known (quotient_within areDigits few) part
  have apart := abs_le.mp close
  have apart' := abs_le.mp near
  have cut : ⌊result⌋₊ = second * 1000 + millisecond := by
    rw [Nat.floor_eq_iff (by linarith)]
    push_cast
    constructor <;> linarith
  have exact := isResult.toUInt64 (by linarith) (by linarith)
  rw [rounded?]
  simp only [isNumber, Bool.false_eq_true, if_false, exact, cut]

end Digits

section Nanoseconds

variable {fraction : List Char} (areDigits : ∀ c ∈ fraction, c.isDigit = true)
include areDigits

theorem extended_isDigit : ∀ c ∈ fraction ++ List.replicate 9 '0', c.isDigit = true := by
  intro c member
  rcases List.mem_append.mp member with given | zero
  · exact areDigits c given
  · rw [List.eq_of_mem_replicate zero]
    decide

theorem nanosecondsOf_lt : nanosecondsOf fraction < 1000000000 := by
  have nine : ((fraction ++ List.replicate 9 '0').take 9).length = 9 := by simp
  have less : ofDigits ((fraction ++ List.replicate 9 '0').take 9) < _ :=
    ofDigits_lt fun c member => extended_isDigit areDigits c (List.mem_of_mem_take member)
  rw [nine] at less
  exact less

/-- The nanoseconds of a fraction are its first digits, and the others count less than one. -/
theorem exists_behind : ∃ behind < 10 ^ fraction.length,
    10 ^ 9 * ofDigits fraction = 10 ^ fraction.length * nanosecondsOf fraction + behind := by
  have length : ((fraction ++ List.replicate 9 '0').drop 9).length = fraction.length := by simp
  have less : ofDigits ((fraction ++ List.replicate 9 '0').drop 9) < _ :=
    ofDigits_lt fun c member => extended_isDigit areDigits c (List.mem_of_mem_drop member)
  have extended : ofDigits (fraction ++ List.replicate 9 '0') = 10 ^ 9 * ofDigits fraction := by
    rw [ofDigits_append]
    rfl
  have parts : ofDigits (fraction ++ List.replicate 9 '0') = 10 ^ fraction.length *
      nanosecondsOf fraction + ofDigits ((fraction ++ List.replicate 9 '0').drop 9) := by
    rw [← List.take_append_drop 9 (fraction ++ List.replicate 9 '0'), ofDigits_append, length,
      List.take_append_drop]
    rfl
  exact ⟨_, length ▸ less, extended.symm.trans parts⟩

theorem rounded?_whole (few : fraction.length ≤ 300) {second : Nat} (known : second ≤ 59)
    (whole : 1000000 ∣ nanosecondsOf fraction) :
    rounded? second fraction = some (second * 1000 + nanosecondsOf fraction / 1000000) := by
  obtain ⟨millisecond, nanoseconds⟩ := whole
  obtain ⟨behind, less, parts⟩ := exists_behind areDigits
  have power : (0 : ℚ) < 10 ^ fraction.length := by positivity
  have behind_nonneg : (0 : ℚ) ≤ behind / 10 ^ fraction.length :=
    div_nonneg (Nat.cast_nonneg _) power.le
  have behind_lt : (behind : ℚ) / 10 ^ fraction.length < 1 := by
    rw [div_lt_one power]
    exact_mod_cast less
  have value : (ofDigits fraction : ℚ) / 10 ^ fraction.length * 1000 =
      millisecond + behind / 10 ^ fraction.length / 1000000 := by
    have product : (10 : ℚ) ^ 9 * ofDigits fraction =
        10 ^ fraction.length * (1000000 * millisecond) + behind := by
      rw [nanoseconds] at parts
      exact_mod_cast parts
    field_simp
    linarith
  rw [nanoseconds, Nat.mul_div_cancel_left millisecond (by decide)]
  refine rounded?_near areDigits few known (abs_le.mpr ?_)
  constructor <;> linarith

end Nanoseconds

end JulianDay

end Time

end ModelCatalog
