import Mathlib

/-!
Binary64 arithmetic, as exact arithmetic of rational numbers with a bounded error. A result is off by no
more than one unit in its last place, which is all that is said of the rounding.
-/

namespace ModelCatalog.Binary64

open Float.Model (Format UnpackedFloat)
open Float.Model.UnpackedFloat

/-! Packing. -/

/-- The significand and the exponent are those of a number, in the one form that it has. -/
structure Fits (significand : Nat) (exponent : Int) : Prop where
  positive : 0 < significand
  significand_lt : significand < 2 ^ 53
  exponent_ge : -1074 ≤ exponent
  exponent_le : exponent ≤ 971
  normal : 2 ^ 52 ≤ significand ∨ exponent = -1074

theorem toNat_implicit (fraction : BitVec 52) : (1#1 ++ fraction).toNat = 2 ^ 52 + fraction.toNat := by
  rw [BitVec.toNat_append, ← Nat.shiftLeft_add_eq_or_of_lt fraction.isLt]
  rfl

def signed : Sign → ℚ → ℚ
  | .negative, x => -x
  | .positive, x => x

def scaled (sign : Sign) (significand : Nat) (exponent : Int) : ℚ :=
  signed sign (significand * 2 ^ exponent)

theorem scaled_zero (sign : Sign) (exponent : Int) : scaled sign 0 exponent = 0 := by
  cases sign <;> simp [scaled, signed]

def value? : UnpackedFloat → Option ℚ
  | .zero _ => some 0
  | .finite sign significand exponent _ => some (scaled sign significand exponent)
  | _ => none

theorem value?_components (sign : Sign) {exponent : BitVec 11} (fraction : BitVec 52)
    (finite : exponent ≠ -1#11) :
    value? (unpack Format.binary64 (packComponents Format.binary64 sign exponent fraction)) =
      some (if exponent = 0#11 then scaled sign fraction.toNat (-1074)
        else scaled sign (2 ^ 52 + fraction.toNat) ((exponent.toNat : Int) - 1075)) := by
  simp only [unpack, unpackMantissa_packComponents, unpackExponent_packComponents,
    unpackSign_packComponents, Sign.ofBitVec_toBitVec, finite, if_false]
  by_cases least : exponent = 0#11
  · rw [if_pos least, if_pos least]
    subst least
    by_cases none : fraction = 0#52
    · rw [dif_pos none, none, value?]
      exact congrArg some (scaled_zero sign (-1074)).symm
    · rw [dif_neg none]
      rfl
  · rw [if_neg least, if_neg least, value?, toNat_implicit]
    rfl

theorem value?_pack {sign : Sign} {significand : Nat} {exponent : Int}
    (fits : Fits significand exponent) :
    value? (Float.Model.pack (.finite sign significand exponent fits.positive)).unpack =
      some (scaled sign significand exponent) := by
  obtain ⟨positive, significand_lt, exponent_ge, exponent_le, normal⟩ := fits
  obtain ⟨biased, shift⟩ : ∃ biased : Nat, exponent = biased - 1075 :=
    ⟨(exponent + 1075).toNat, by omega⟩
  have stored : (exponent + (Format.binary64.exponentBias : Int) +
      (Format.binary64.mantissaBitsWithoutImplicit : Int)).toNat = biased := by
    change (exponent + 1023 + 52).toNat = biased
    omega
  have packed : Float.Model.UnpackedFloat.pack Format.binary64
      (.finite sign significand exponent positive) =
        if significand.log2 + 1 = 53 then
          packComponents Format.binary64 sign (BitVec.ofNat 11 biased) (BitVec.ofNat 52 significand)
        else packComponents Format.binary64 sign 0#11 (BitVec.ofNat 52 significand) := by
    have small : ¬2 ^ Format.binary64.exponentBits ≤ biased + 1 := by
      change ¬2 ^ 11 ≤ biased + 1
      omega
    simp only [pack, stored, small, if_false]
    rfl
  change value? (unpack Format.binary64 (pack Format.binary64 _)) = _
  rw [packed]
  have exponentBits : (BitVec.ofNat 11 biased).toNat = biased := by
    rw [BitVec.toNat_ofNat, Nat.mod_eq_of_lt (by omega)]
  by_cases full : 2 ^ 52 ≤ significand
  · have log : significand.log2 = 52 :=
      (Nat.log2_eq_iff positive.ne').mpr ⟨full, significand_lt⟩
    have finite : BitVec.ofNat 11 biased ≠ -1#11 := by
      intro same
      have numbers := congrArg BitVec.toNat same
      rw [exponentBits] at numbers
      change biased = 2047 at numbers
      omega
    have notLeast : BitVec.ofNat 11 biased ≠ 0#11 := by
      intro same
      have numbers := congrArg BitVec.toNat same
      rw [exponentBits] at numbers
      change biased = 0 at numbers
      omega
    have fraction : 2 ^ 52 + (BitVec.ofNat 52 significand).toNat = significand := by
      rw [BitVec.toNat_ofNat]
      omega
    rw [if_pos (by omega), value?_components _ _ finite, if_neg notLeast, fraction, exponentBits,
      shift]
  · have log : significand.log2 < 52 := (Nat.log2_lt positive.ne').mpr (by omega)
    have fraction : (BitVec.ofNat 52 significand).toNat = significand := by
      rw [BitVec.toNat_ofNat, Nat.mod_eq_of_lt (by omega)]
    rw [if_neg (by omega), value?_components _ _ (by decide), if_pos rfl, fraction,
      normal.resolve_left full]

theorem fits_of_unpack {packed : Float.Model} {sign : Sign} {significand : Nat} {exponent : Int}
    {positive : 0 < significand}
    (unpacked : packed.unpack = .finite sign significand exponent positive) :
    Fits significand exponent := by
  have fraction_lt : (@unpackMantissa Format.binary64 packed.toBits.toBitVec).toNat <
      2 ^ 52 := BitVec.isLt _
  have stored_lt : (@unpackExponent Format.binary64 packed.toBits.toBitVec).toNat <
      2 ^ 11 := BitVec.isLt _
  have bias : ((Format.binary64.exponentBias : Int) + Format.binary64.mantissaBitsWithoutImplicit) =
      1075 := rfl
  simp only [Float.Model.unpack, unpack, bias] at unpacked
  split at unpacked
  next => split at unpacked <;> cases unpacked
  next finite =>
    have notGreatest : (@unpackExponent Format.binary64 packed.toBits.toBitVec).toNat ≠
        2047 := fun same => finite (BitVec.eq_of_toNat_eq same)
    split at unpacked
    next least =>
      have stored : (@unpackExponent Format.binary64 packed.toBits.toBitVec).toNat = 0 :=
        congrArg BitVec.toNat least
      split at unpacked
      next => cases unpacked
      next =>
        obtain ⟨-, rfl, rfl⟩ := UnpackedFloat.finite.inj unpacked
        exact ⟨positive, by omega, by omega, by omega, Or.inr (by omega)⟩
    next notLeast =>
      have notZero : (@unpackExponent Format.binary64 packed.toBits.toBitVec).toNat ≠ 0 :=
        fun same => notLeast (BitVec.eq_of_toNat_eq same)
      obtain ⟨-, rfl, rfl⟩ := UnpackedFloat.finite.inj unpacked
      have implicit := toNat_implicit (@unpackMantissa Format.binary64 packed.toBits.toBitVec)
      exact ⟨positive, by omega, by omega, by omega, Or.inl (by omega)⟩

/-! Rounding. -/

def lastPlace (significand : Nat) (exponent : Int) : Int :=
  max (significand.log2 + exponent - 52) (-1074)

theorem targetExponent_eq (significand : Nat) (exponent : Int) :
    Format.binary64.targetExponent (Float.Model.totalExponent significand exponent) =
      lastPlace significand exponent := by
  change max ((significand.log2 : Int) + 1 + exponent - 53) (-1074) = _
  rw [lastPlace]
  congr 1
  omega

theorem shifted_mantissa (extended : ExtendedMantissa) (places : Nat) :
    (extended >>> places).mantissa = extended.mantissa / 2 ^ places := by
  change (places.repeat ExtendedMantissa.shiftRightOne extended).mantissa = _
  induction places with
  | zero => exact (Nat.div_one _).symm
  | succ places ih =>
    rw [Nat.repeat, Nat.pow_succ, ← Nat.div_div_eq_div_mul, ← ih]
    rfl

theorem rounded_bounds (extended : ExtendedMantissa) :
    extended.mantissa ≤ extended.roundedMantissa ∧
      extended.roundedMantissa ≤ extended.mantissa + 1 := by
  obtain ⟨significand, half, sticky⟩ := extended
  cases half <;> cases sticky <;>
    simp only [ExtendedMantissa.roundedMantissa, ExtendedMantissa.accuracy,
      Accuracy.roundToNearestEven] <;> omega

theorem ofMantissaAndAccuracy_mantissa (significand : Nat) (accuracy : Accuracy) :
    (ExtendedMantissa.ofMantissaAndAccuracy significand accuracy).mantissa = significand := by
  rcases accuracy with _ | ordering
  · rfl
  · cases ordering <;> rfl

theorem shift_eq (significand : Nat) (exponent : Int) (accuracy : Accuracy) :
    ∃ extended, shiftToTargetExponent Format.binary64 significand exponent accuracy =
        (extended, exponent + (lastPlace significand exponent - exponent).toNat) ∧
      extended.mantissa = significand / 2 ^ (lastPlace significand exponent - exponent).toNat := by
  refine ⟨ExtendedMantissa.ofMantissaAndAccuracy significand accuracy >>>
    (lastPlace significand exponent - exponent).toNat, ?_, ?_⟩
  · rw [shiftToTargetExponent, targetExponent_eq]
    rfl
  · rw [shifted_mantissa, ofMantissaAndAccuracy_mantissa]

section Placed

variable {significand : Nat} {exponent : Int}

def IsPlaced (significand : Nat) (exponent : Int) : Prop :=
  52 ≤ significand.log2 ∨ exponent ≤ -1074

theorem IsPlaced.le (placed : IsPlaced significand exponent) :
    exponent ≤ lastPlace significand exponent := by
  rw [IsPlaced] at placed
  rw [lastPlace]
  omega

theorem kept_lt (significand : Nat) (exponent : Int) :
    significand / 2 ^ (lastPlace significand exponent - exponent).toNat < 2 ^ 53 := by
  have places : significand.log2 + 1 ≤ 53 + (lastPlace significand exponent - exponent).toNat := by
    rw [lastPlace]
    omega
  rw [Nat.div_lt_iff_lt_mul (Nat.two_pow_pos _), ← Nat.pow_add]
  calc significand
    _ < 2 ^ (significand.log2 + 1) := Nat.lt_log2_self
    _ ≤ 2 ^ (53 + (lastPlace significand exponent - exponent).toNat) :=
        Nat.pow_le_pow_right (by decide) places

theorem kept_normal (placed : IsPlaced significand exponent)
    (more : lastPlace significand exponent ≠ -1074) :
    2 ^ 52 ≤ significand / 2 ^ (lastPlace significand exponent - exponent).toNat := by
  rw [IsPlaced] at placed
  have places : 52 + (lastPlace significand exponent - exponent).toNat = significand.log2 := by
    rw [lastPlace] at more ⊢
    omega
  have some : significand ≠ 0 := by
    rintro rfl
    rw [lastPlace, Nat.log2_zero] at more
    rw [Nat.log2_zero] at placed
    omega
  rw [Nat.le_div_iff_mul_le (Nat.two_pow_pos _), ← Nat.pow_add, places]
  exact Nat.log2_self_le some

end Placed

theorem value?_zero (sign : Sign) :
    value? (Float.Model.pack (.zero sign)).unpack = some 0 := by
  cases sign <;> rfl

theorem scaled_succ (sign : Sign) (significand : Nat) (exponent : Int) :
    scaled sign significand (exponent + 1) = scaled sign (2 * significand) exponent := by
  rw [scaled, scaled, zpow_add_one₀ (by norm_num)]
  refine congrArg (signed sign) ?_
  push_cast
  ring

theorem value?_made {significand : Nat} {exponent : Int} (sign : Sign)
    (fits : significand = 0 ∨ Fits significand exponent) :
    value? (Float.Model.pack (if zero : significand = 0 then .zero sign
      else .finite sign significand exponent (Nat.pos_of_ne_zero zero))).unpack =
        some (scaled sign significand exponent) := by
  rcases fits with rfl | fits
  · rw [dif_pos rfl, value?_zero, scaled_zero]
  · rw [dif_neg fits.positive.ne']
    exact value?_pack fits

/-- A significand that was rounded up to the next power of two is halved, which leaves the number as
it is. -/
theorem value?_settled {rounded : Nat} {place : Int} (sign : Sign) (rounded_le : rounded ≤ 2 ^ 53)
    (place_ge : -1074 ≤ place) (place_le : place ≤ 970)
    (normal : 2 ^ 52 ≤ rounded ∨ place = -1074) {settled : ExtendedMantissa × Int}
    (shifted : shiftToTargetExponent Format.binary64 rounded place .exact = settled) :
    value? (Float.Model.pack (if zero : settled.1.mantissa = 0 then .zero sign
      else .finite sign settled.1.mantissa settled.2 (Nat.pos_of_ne_zero zero))).unpack =
        some (scaled sign rounded place) := by
  obtain ⟨extended, shifted', kept⟩ := shift_eq rounded place .exact
  obtain rfl := shifted.symm.trans shifted'
  by_cases full : rounded = 2 ^ 53
  · have up : (lastPlace rounded place - place).toNat = 1 := by
      rw [lastPlace, full, Nat.log2_two_pow]
      omega
    rw [up, full] at kept
    have half : extended.mantissa = 2 ^ 52 := kept
    have fits : extended.mantissa = 0 ∨
        Fits extended.mantissa (place + (lastPlace rounded place - place).toNat) :=
      Or.inr ⟨by omega, by omega, by omega, by omega, Or.inl (by omega)⟩
    rw [value?_made sign fits, half, up, full]
    exact congrArg some (scaled_succ sign (2 ^ 52) place)
  · have log : rounded.log2 ≤ 52 := by
      by_cases zero : rounded = 0
      · rw [zero, Nat.log2_zero]
        omega
      · have below := (Nat.log2_lt zero).mpr (show rounded < 2 ^ 53 by omega)
        omega
    have stays : (lastPlace rounded place - place).toNat = 0 := by
      rw [lastPlace]
      omega
    rw [stays, Nat.pow_zero, Nat.div_one] at kept
    have fits : extended.mantissa = 0 ∨
        Fits extended.mantissa (place + (lastPlace rounded place - place).toNat) := by
      rw [or_iff_not_imp_left]
      intro some
      exact ⟨by omega, by omega, by omega, by omega, by omega⟩
    rw [value?_made sign fits, kept, stays]
    exact congrArg Option.some (congrArg _ (Int.add_zero place))

def least : ℚ := 2 ^ (-1074 : Int)

def ceiling : ℚ := 2 ^ (1023 : Int)

def tolerance (x : ℚ) : ℚ := |x| / 2 ^ 52 + least

section Placed

variable {significand : Nat} {exponent : Int}

theorem value?_rounded (sign : Sign) (accuracy : Accuracy) (placed : IsPlaced significand exponent)
    (finite : lastPlace significand exponent ≤ 970) :
    ∃ rounded, significand / 2 ^ (lastPlace significand exponent - exponent).toNat ≤ rounded ∧
      rounded ≤ significand / 2 ^ (lastPlace significand exponent - exponent).toNat + 1 ∧
      value? (Float.Model.pack
          (roundWithAccuracy Format.binary64 sign significand exponent accuracy)).unpack =
        some (scaled sign rounded (lastPlace significand exponent)) := by
  obtain ⟨extended, shifted, kept⟩ := shift_eq significand exponent accuracy
  have place : exponent + (lastPlace significand exponent - exponent).toNat =
      lastPlace significand exponent := by
    have above := placed.le
    omega
  have place_ge : -1074 ≤ lastPlace significand exponent := le_max_right _ _
  have bounds := rounded_bounds extended
  have small := kept_lt significand exponent
  have normal := kept_normal placed
  rw [place] at shifted
  rw [kept] at bounds
  refine ⟨extended.roundedMantissa, bounds.1, bounds.2, ?_⟩
  have rounded_le : extended.roundedMantissa ≤ 2 ^ 53 := by omega
  have full : 2 ^ 52 ≤ extended.roundedMantissa ∨ lastPlace significand exponent = -1074 := by omega
  have settled := value?_settled sign rounded_le place_ge finite full rfl
  rw [roundWithAccuracy, shifted]
  exact settled

theorem two_zpow_log2_le (some : significand ≠ 0) :
    (2 : ℚ) ^ ((significand.log2 : Int) + exponent) ≤ significand * 2 ^ exponent := by
  have power : (2 : ℚ) ^ significand.log2 ≤ significand := by
    exact_mod_cast Nat.log2_self_le some
  rw [zpow_add₀ (by norm_num), zpow_natCast]
  exact mul_le_mul_of_nonneg_right power (zpow_nonneg (by norm_num) exponent)

section Near

variable {x : ℚ} (above : significand * 2 ^ exponent ≤ x)
include above

theorem two_zpow_lastPlace_le (placed : IsPlaced significand exponent) :
    (2 : ℚ) ^ lastPlace significand exponent ≤ tolerance x := by
  have size : 0 ≤ |x| / 2 ^ 52 := div_nonneg (abs_nonneg x) (by norm_num)
  have positive : 0 < least := zpow_pos (by norm_num) _
  by_cases last : lastPlace significand exponent = -1074
  · rw [last, tolerance]
    exact le_add_of_nonneg_left size
  · have some : significand ≠ 0 := by
      rintro rfl
      rw [lastPlace, Nat.log2_zero] at last
      rw [IsPlaced, Nat.log2_zero] at placed
      omega
    have place : lastPlace significand exponent = (significand.log2 : Int) + exponent - 52 := by
      rw [lastPlace] at last ⊢
      omega
    have power := le_trans (two_zpow_log2_le some) (le_trans above (le_abs_self x))
    rw [place, zpow_sub₀ (by norm_num), tolerance]
    exact le_add_of_le_of_nonneg (div_le_div_of_nonneg_right power (by norm_num)) positive.le

theorem lastPlace_le (placed : IsPlaced significand exponent) (finite : x < ceiling) :
    lastPlace significand exponent ≤ 970 := by
  by_cases last : lastPlace significand exponent = -1074
  · omega
  · have some : significand ≠ 0 := by
      rintro rfl
      rw [lastPlace, Nat.log2_zero] at last
      rw [IsPlaced, Nat.log2_zero] at placed
      omega
    have power := lt_of_le_of_lt (le_trans (two_zpow_log2_le some) above) finite
    have log := (zpow_lt_zpow_iff_right₀ (by norm_num : (1 : ℚ) < 2)).mp power
    rw [lastPlace] at last ⊢
    omega

/-- A number is rounded by no more than a unit in the last place. -/
theorem rounded_near (sign : Sign) (accuracy : Accuracy) (placed : IsPlaced significand exponent)
    (below : x ≤ (significand + 1) * 2 ^ exponent) (finite : x < ceiling) :
    ∃ y, value? (Float.Model.pack
        (roundWithAccuracy Format.binary64 sign significand exponent accuracy)).unpack =
          some (signed sign y) ∧ |y - x| ≤ tolerance x := by
  have unit := two_zpow_lastPlace_le above placed
  obtain ⟨rounded, atLeast, atMost, made⟩ :=
    value?_rounded sign accuracy placed (lastPlace_le above placed finite)
  refine ⟨rounded * 2 ^ lastPlace significand exponent, made, le_trans ?_ unit⟩
  have ordered := placed.le
  obtain ⟨places, place⟩ : ∃ places : Nat, lastPlace significand exponent = exponent + places :=
    ⟨(lastPlace significand exponent - exponent).toNat, by omega⟩
  have same : (lastPlace significand exponent - exponent).toNat = places := by omega
  rw [same] at atLeast atMost
  have size : (0 : ℚ) ≤ 2 ^ exponent := zpow_nonneg (by norm_num) exponent
  have step : (2 : ℚ) ^ lastPlace significand exponent = 2 ^ places * 2 ^ exponent := by
    rw [place, zpow_add₀ (by norm_num), zpow_natCast, mul_comm]
  -- The number and what is made of it lie between the same two neighbours.
  have down : ((significand / 2 ^ places : Nat) : ℚ) * 2 ^ places ≤ significand := by
    exact_mod_cast Nat.div_mul_le_self significand (2 ^ places)
  have up : (significand : ℚ) + 1 ≤ ((significand / 2 ^ places : Nat) + 1) * 2 ^ places := by
    exact_mod_cast Nat.lt_mul_of_div_lt (Nat.lt_succ_self _) (Nat.two_pow_pos places)
  have downTo := mul_le_mul_of_nonneg_right down size
  have upTo := mul_le_mul_of_nonneg_right up size
  have roundedDown : ((significand / 2 ^ places : Nat) : ℚ) ≤ rounded := by exact_mod_cast atLeast
  have roundedUp : (rounded : ℚ) ≤ (significand / 2 ^ places : Nat) + 1 := by exact_mod_cast atMost
  have unitSize : (0 : ℚ) ≤ 2 ^ places * 2 ^ exponent := mul_nonneg (by positivity) size
  have low := mul_le_mul_of_nonneg_right roundedDown unitSize
  have high := mul_le_mul_of_nonneg_right roundedUp unitSize
  rw [step, abs_le]
  constructor
  · linarith
  · linarith

end Near

end Placed

def IsNear (made : UnpackedFloat) (x : ℚ) : Prop :=
  ∃ y, value? (Float.Model.pack made).unpack = some y ∧ |y - x| ≤ tolerance x

theorem tolerance_nonneg (x : ℚ) : 0 ≤ tolerance x :=
  add_nonneg (div_nonneg (abs_nonneg x) (by norm_num)) (zpow_nonneg (by norm_num) _)

theorem IsNear.of_eq {made : UnpackedFloat} {x : ℚ}
    (same : value? (Float.Model.pack made).unpack = some x) : IsNear made x := by
  refine ⟨x, same, ?_⟩
  rw [sub_self, abs_zero]
  exact tolerance_nonneg x

theorem IsNear.signed {made : UnpackedFloat} {sign : Sign} {x : ℚ}
    (near : ∃ y, value? (Float.Model.pack made).unpack = some (Binary64.signed sign y) ∧
      |y - x| ≤ tolerance x) : IsNear made (Binary64.signed sign x) := by
  obtain ⟨y, same, close⟩ := near
  refine ⟨_, same, ?_⟩
  cases sign with
  | positive => exact close
  | negative =>
    rw [Binary64.signed, Binary64.signed, tolerance, abs_neg, ← neg_add', abs_neg]
    rw [← sub_eq_add_neg]
    exact close

theorem shiftLeft_value (significand places : Nat) (exponent : Int) :
    ((significand <<< places : Nat) : ℚ) * 2 ^ (exponent - places) = significand * 2 ^ exponent := by
  rw [Nat.shiftLeft_eq, zpow_sub₀ (by norm_num), zpow_natCast]
  push_cast
  field_simp

theorem log2_shiftLeft {significand : Nat} (some : significand ≠ 0) (places : Nat) :
    (significand <<< places).log2 = significand.log2 + places := by
  have power : 0 < 2 ^ places := Nat.two_pow_pos places
  rw [Nat.shiftLeft_eq, Nat.log2_eq_iff (Nat.mul_ne_zero some power.ne')]
  constructor
  · rw [Nat.pow_add]
    exact Nat.mul_le_mul_right _ (Nat.log2_self_le some)
  · rw [Nat.add_right_comm, Nat.pow_add]
    exact Nat.mul_lt_mul_of_pos_right Nat.lt_log2_self power

theorem round_near (sign : Sign) {significand : Nat} {exponent : Int} (some : significand ≠ 0)
    (finite : (significand : ℚ) * 2 ^ exponent < ceiling) :
    IsNear (round Format.binary64 sign significand exponent) (scaled sign significand exponent) := by
  rw [UnpackedFloat.round, targetExponent_eq, decreaseExponent]
  obtain ⟨places, same⟩ : ∃ places, (exponent - lastPlace significand exponent).toNat = places :=
    ⟨_, rfl⟩
  have value := shiftLeft_value significand places exponent
  have log := log2_shiftLeft some places
  have placed : IsPlaced (significand <<< places) (exponent - places) := by
    rw [lastPlace] at same
    rw [IsPlaced, log]
    omega
  rw [same]
  refine IsNear.signed (rounded_near ?_ sign .exact placed ?_ finite)
  · exact value.le
  · rw [add_mul, value]
    exact le_add_of_nonneg_right (mul_nonneg zero_le_one (zpow_nonneg (by norm_num) _))

theorem normalize_near (mantissa exponent : Int) (zeroSign : Sign)
    (finite : |(mantissa : ℚ) * 2 ^ exponent| < ceiling) :
    IsNear (UnpackedFloat.normalize Format.binary64 mantissa exponent zeroSign)
      (mantissa * 2 ^ exponent) := by
  have power : (0 : ℚ) ≤ 2 ^ exponent := zpow_nonneg (by norm_num) exponent
  rw [abs_mul, abs_of_nonneg power] at finite
  rcases lt_trichotomy mantissa 0 with negative | rfl | positive
  · have size : ((-mantissa).toNat : ℚ) = -mantissa := by
      exact_mod_cast Int.toNat_of_nonneg (show 0 ≤ -mantissa by omega)
    have absolute : |(mantissa : ℚ)| = -mantissa := abs_of_neg (by exact_mod_cast negative)
    rw [absolute, ← size] at finite
    have near := round_near .negative (show (-mantissa).toNat ≠ 0 by omega) finite
    rw [scaled, size, signed, neg_mul, neg_neg] at near
    rw [UnpackedFloat.normalize, Int.compare_eq_lt.mpr negative]
    exact near
  · rw [UnpackedFloat.normalize, Int.compare_eq_eq.mpr rfl, Int.cast_zero, zero_mul]
    exact .of_eq (value?_zero zeroSign)
  · have size : (mantissa.toNat : ℚ) = mantissa := by
      exact_mod_cast Int.toNat_of_nonneg positive.le
    have absolute : |(mantissa : ℚ)| = mantissa := abs_of_pos (by exact_mod_cast positive)
    rw [absolute, ← size] at finite
    have near := round_near .positive (show mantissa.toNat ≠ 0 by omega) finite
    rw [scaled, size, signed] at near
    rw [UnpackedFloat.normalize, Int.compare_eq_gt.mpr positive]
    exact near

/-! Operations. -/

inductive Stands : UnpackedFloat → ℚ → Prop where
  | zero (sign : Sign) : Stands (.zero sign) 0
  | finite (sign : Sign) {significand : Nat} {exponent : Int} (fits : Fits significand exponent) :
      Stands (.finite sign significand exponent fits.positive) (scaled sign significand exponent)

theorem stands_unpack {packed : Float.Model} {x : ℚ} (same : value? packed.unpack = some x) :
    Stands packed.unpack x := by
  cases unpacked : packed.unpack with
  | infinity sign =>
    rw [unpacked] at same
    cases same
  | notANumber =>
    rw [unpacked] at same
    cases same
  | zero sign =>
    rw [unpacked] at same
    obtain rfl := Option.some.inj same
    exact .zero sign
  | finite sign significand exponent positive =>
    rw [unpacked] at same
    obtain rfl := Option.some.inj same
    exact .finite sign (fits_of_unpack unpacked)

section Operations

variable {a b : UnpackedFloat} {x y : ℚ}

theorem Stands.neg (stands : Stands a x) : Stands a.neg (-x) := by
  cases stands with
  | zero sign =>
    rw [neg_zero]
    exact .zero _
  | finite sign fits =>
    have opposite {significand : Nat} {exponent : Int} :
        -scaled sign significand exponent = scaled (-sign) significand exponent := by
      cases sign
      · exact neg_neg _
      · rfl
    rw [opposite]
    exact .finite _ fits

/-- The numbers are multiples of the smaller of the units of their last places. -/
theorem decreased_value (sign : Sign) (significand : Nat) {exponent smaller : Int}
    (smaller_le : smaller ≤ exponent) :
    ((sign.apply (decreaseExponent significand exponent smaller).1 : ℤ) : ℚ) * 2 ^ smaller =
      scaled sign significand exponent := by
  obtain ⟨places, place⟩ : ∃ places : Nat, smaller = exponent - places :=
    ⟨(exponent - smaller).toNat, by omega⟩
  have shift : (exponent - smaller).toNat = places := by omega
  have value := shiftLeft_value significand places exponent
  rw [decreaseExponent, shift, scaled, ← value, place]
  cases sign with
  | positive => simp only [Sign.apply, signed, Int.cast_natCast]
  | negative => simp only [Sign.apply, signed, Int.cast_neg, Int.cast_natCast, neg_mul]

theorem add_near (left : Stands a x) (right : Stands b y) (finite : |x + y| < ceiling) :
    IsNear (UnpackedFloat.add Format.binary64 a b) (x + y) := by
  cases left with
  | zero sign =>
    rw [zero_add]
    cases right with
    | zero other =>
      rw [UnpackedFloat.add]
      split
      · exact .of_eq (value?_zero sign)
      · exact .of_eq (value?_zero .positive)
    | finite other fits => exact .of_eq (value?_pack fits)
  | finite sign fits =>
    cases right with
    | zero other =>
      rw [add_zero]
      exact .of_eq (value?_pack fits)
    | finite other fits' =>
      rename_i m e n f
      have sum := decreased_value sign m (min_le_left e f)
      have sum' := decreased_value other n (min_le_right e f)
      rw [← sum, ← sum', ← add_mul, ← Int.cast_add] at finite ⊢
      exact normalize_near _ _ .positive finite

theorem apply_neg (sign : Sign) (n : Int) : (-sign).apply n = -sign.apply n := by
  cases sign with
  | negative => exact (Int.neg_neg n).symm
  | positive => rfl

theorem sub_eq (a b : UnpackedFloat) : UnpackedFloat.sub Format.binary64 a b =
    UnpackedFloat.add Format.binary64 a b.neg := by
  cases a with
  | finite sign significand exponent positive =>
    cases b with
    | finite other significand' exponent' positive' =>
      simp only [UnpackedFloat.sub, UnpackedFloat.add, UnpackedFloat.neg, apply_neg,
        Int.sub_eq_add_neg]
    | zero => rfl
    | infinity => rfl
    | notANumber => rfl
  | zero => cases b <;> rfl
  | infinity => cases b <;> rfl
  | notANumber => cases b <;> rfl

theorem sub_near (left : Stands a x) (right : Stands b y) (finite : |x - y| < ceiling) :
    IsNear (UnpackedFloat.sub Format.binary64 a b) (x - y) := by
  rw [sub_eq_add_neg] at finite ⊢
  rw [sub_eq]
  exact add_near left right.neg finite

theorem signed_mul (sign other : Sign) (x y : ℚ) :
    signed sign x * signed other y = signed (sign * other) (x * y) := by
  cases sign with
  | positive =>
    cases other with
    | positive => rfl
    | negative => exact mul_neg x y
  | negative =>
    cases other with
    | positive => exact neg_mul x y
    | negative => exact neg_mul_neg x y

theorem abs_signed (sign : Sign) (x : ℚ) : |signed sign x| = |x| := by
  cases sign with
  | negative => exact abs_neg x
  | positive => rfl

theorem Fits.mul_isPlaced {m n : Nat} {e f : Int} (fits : Fits m e) (fits' : Fits n f) :
    IsPlaced (m * n) (e + f) := by
  have some : m * n ≠ 0 := Nat.mul_ne_zero fits.positive.ne' fits'.positive.ne'
  rcases fits.normal with full | least
  · left
    rw [Nat.le_log2 some]
    exact le_trans full (Nat.le_mul_of_pos_right m fits'.positive)
  · rcases fits'.normal with full | least'
    · left
      rw [Nat.le_log2 some]
      exact le_trans full (Nat.le_mul_of_pos_left n fits.positive)
    · right
      omega

theorem mul_near (left : Stands a x) (right : Stands b y) (finite : |x * y| < ceiling) :
    IsNear (UnpackedFloat.mul Format.binary64 a b) (x * y) := by
  cases left with
  | zero sign =>
    rw [zero_mul]
    cases right with
    | zero other => exact .of_eq (value?_zero _)
    | finite other fits => exact .of_eq (value?_zero _)
  | finite sign fits =>
    cases right with
    | zero other =>
      rw [mul_zero]
      exact .of_eq (value?_zero _)
    | finite other fits' =>
      rename_i m e n f
      have product : (m : ℚ) * 2 ^ e * (n * 2 ^ f) = (m * n : Nat) * 2 ^ (e + f) := by
        rw [zpow_add₀ (by norm_num)]
        push_cast
        ring
      rw [scaled, scaled, signed_mul, product] at finite ⊢
      rw [abs_signed] at finite
      refine IsNear.signed (rounded_near le_rfl _ .exact (fits.mul_isPlaced fits') ?_
        (lt_of_le_of_lt (le_abs_self _) finite))
      exact mul_le_mul_of_nonneg_right (le_add_of_nonneg_right zero_le_one)
        (zpow_nonneg (by norm_num) _)

theorem signed_div (sign other : Sign) (x y : ℚ) :
    signed sign x / signed other y = signed (sign / other) (x / y) := by
  cases sign with
  | positive =>
    cases other with
    | positive => rfl
    | negative => exact div_neg x
  | negative =>
    cases other with
    | positive => exact neg_div y x
    | negative => exact neg_div_neg_eq x y

theorem divCore_eq {m n : Nat} (some : m ≠ 0) (some' : n ≠ 0) (e f : Int) :
    ∃ quotient place accuracy, divCore Format.binary64 m e n f = (quotient, place, accuracy) ∧
      IsPlaced quotient place ∧
      (quotient : ℚ) * 2 ^ place ≤ m * 2 ^ e / (n * 2 ^ f) ∧
      (m : ℚ) * 2 ^ e / (n * 2 ^ f) ≤ (quotient + 1) * 2 ^ place := by
  obtain ⟨place, least⟩ : ∃ place, min (e - f) (max ((m.log2 : Int) + 1 + e - (n.log2 + 1 + f) - 53)
    (-1074)) = place := ⟨_, rfl⟩
  obtain ⟨places, shift⟩ : ∃ places : Nat, place = e - f - places :=
    ⟨(e - f - place).toNat, by omega⟩
  have places_eq : (e - f - place).toNat = places := by omega
  have core : divCore Format.binary64 m e n f =
      ((m <<< places) / n, place, accuracyOfFraction ((m <<< places) % n) n) := by
    rw [← places_eq, ← least]
    rfl
  refine ⟨_, _, _, core, ?_, ?_⟩
  · rw [IsPlaced]
    by_cases low : place ≤ -1074
    · exact Or.inr low
    · have log := log2_shiftLeft some places
      have enough : 53 + n.log2 ≤ (m <<< places).log2 := by omega
      have shifted : m <<< places ≠ 0 := by
        rw [Nat.shiftLeft_eq]
        exact Nat.mul_ne_zero some (Nat.two_pow_pos places).ne'
      have full : 2 ^ 52 ≤ (m <<< places) / n := by
        rw [Nat.le_div_iff_mul_le (Nat.pos_of_ne_zero some')]
        calc 2 ^ 52 * n
          _ ≤ 2 ^ 52 * 2 ^ (n.log2 + 1) := Nat.mul_le_mul_left _ Nat.lt_log2_self.le
          _ = 2 ^ (53 + n.log2) := by rw [← Nat.pow_add]; congr 1; omega
          _ ≤ 2 ^ (m <<< places).log2 := Nat.pow_le_pow_right (by decide) enough
          _ ≤ m <<< places := Nat.log2_self_le shifted
      left
      rw [Nat.le_log2 (by omega)]
      exact full
  · have positive : (0 : ℚ) < n := by exact_mod_cast Nat.pos_of_ne_zero some'
    have power : (0 : ℚ) ≤ 2 ^ place := zpow_nonneg (by norm_num) place
    have value : (m : ℚ) * 2 ^ e / (n * 2 ^ f) = (m <<< places : Nat) / n * 2 ^ place := by
      have same := shiftLeft_value m places (e - f)
      rw [← shift, zpow_sub₀ (by norm_num)] at same
      rw [div_mul_eq_mul_div, same]
      field_simp
    have down : (((m <<< places) / n : Nat) : ℚ) ≤ (m <<< places : Nat) / n := by
      rw [le_div_iff₀ positive]
      exact_mod_cast Nat.div_mul_le_self (m <<< places) n
    have up : ((m <<< places : Nat) : ℚ) / n ≤ ((m <<< places) / n : Nat) + 1 := by
      rw [div_le_iff₀ positive]
      exact_mod_cast (Nat.lt_mul_of_div_lt (Nat.lt_succ_self _) (Nat.pos_of_ne_zero some')).le
    rw [value]
    exact ⟨mul_le_mul_of_nonneg_right down power, mul_le_mul_of_nonneg_right up power⟩

theorem div_near (left : Stands a x) (right : Stands b y) (some : y ≠ 0) (finite : |x / y| < ceiling) :
    IsNear (UnpackedFloat.div Format.binary64 a b) (x / y) := by
  cases right with
  | zero other => exact absurd rfl some
  | finite other fits' =>
    cases left with
    | zero sign =>
      rw [zero_div]
      exact .of_eq (value?_zero _)
    | finite sign fits =>
      rename_i n f m e
      rw [scaled, scaled, signed_div] at finite ⊢
      rw [abs_signed] at finite
      obtain ⟨quotient, place, accuracy, core, placed, above, below⟩ :=
        divCore_eq fits.positive.ne' fits'.positive.ne' e f
      rw [UnpackedFloat.div, core]
      exact IsNear.signed (rounded_near above _ accuracy placed below
        (lt_of_le_of_lt (le_abs_self _) finite))

end Operations

def Denotes (x : Float) (v : ℚ) : Prop := value? x.toModel.unpack = some v

/-- The number is finite, and is no further from this one than the slack. -/
def Within (x : Float) (v slack : ℚ) : Prop := ∃ w, Denotes x w ∧ |w - v| ≤ slack

theorem least_le : least ≤ 1 / 2 ^ 52 := by
  have power : least ≤ 2 ^ (-52 : Int) := zpow_le_zpow_right₀ (by norm_num) (by norm_num)
  rwa [zpow_neg, ← one_div] at power

theorem lt_ceiling {x : ℚ} {places : Nat} (few : places ≤ 302) (small : x ≤ 10 ^ places) :
    x < ceiling := by
  have power : (10 : ℚ) ^ 302 < 2 ^ 1023 := by
    exact_mod_cast (by decide +kernel : 10 ^ 302 < 2 ^ 1023)
  exact lt_of_le_of_lt (le_trans small (pow_le_pow_right₀ (by norm_num) few)) power

theorem tolerance_le {x size : ℚ} (small : |x| ≤ size) (one : 1 ≤ size) :
    tolerance x ≤ size / 2 ^ 51 := by
  have negligible := least_le
  rw [tolerance]
  calc |x| / 2 ^ 52 + least
    _ ≤ size / 2 ^ 52 + size / 2 ^ 52 := by gcongr; exact le_trans negligible (by gcongr)
    _ = size / 2 ^ 51 := by ring

section Floats

variable {x y : Float} {v w a b size : ℚ}

theorem Denotes.within (denotes : Denotes x v) : Within x v 0 := ⟨v, denotes, by simp⟩

theorem Within.mono (within : Within x v a) (le : a ≤ b) : Within x v b := by
  obtain ⟨w, denotes, close⟩ := within
  exact ⟨w, denotes, le_trans close le⟩

theorem within_of_near {u : ℚ} (near : |u| < ceiling → ∃ r, Denotes x r ∧ |r - u| ≤ tolerance u)
    (close : |u - v| ≤ a) (small : |v| + a ≤ size) (one : 1 ≤ size) (finite : size < ceiling) :
    Within x v (a + size / 2 ^ 51) := by
  have smaller : |u| ≤ size :=
    calc |u|
      _ = |v + (u - v)| := by rw [add_sub_cancel]
      _ ≤ |v| + |u - v| := abs_add_le v (u - v)
      _ ≤ |v| + a := by gcongr
      _ ≤ size := small
  obtain ⟨r, denotes, rounded⟩ := near (lt_of_le_of_lt smaller finite)
  refine ⟨r, denotes, ?_⟩
  calc |r - v|
    _ ≤ |u - v| + |r - u| := by rw [add_comm]; exact abs_sub_le r u v
    _ ≤ a + size / 2 ^ 51 := add_le_add close (le_trans rounded (tolerance_le smaller one))

theorem Within.add (left : Within x v a) (right : Within y w b) (small : |v + w| + (a + b) ≤ size)
    (one : 1 ≤ size) (finite : size < ceiling) : Within (x + y) (v + w) (a + b + size / 2 ^ 51) := by
  obtain ⟨v', denotes, close⟩ := left
  obtain ⟨w', denotes', close'⟩ := right
  refine within_of_near (add_near (stands_unpack denotes) (stands_unpack denotes')) ?_ small one finite
  calc |v' + w' - (v + w)|
    _ = |(v' - v) + (w' - w)| := by rw [add_sub_add_comm]
    _ ≤ |v' - v| + |w' - w| := abs_add_le _ _
    _ ≤ a + b := add_le_add close close'

theorem Within.sub (left : Within x v a) (right : Denotes y w) (small : |v - w| + a ≤ size)
    (one : 1 ≤ size) (finite : size < ceiling) : Within (x - y) (v - w) (a + size / 2 ^ 51) := by
  obtain ⟨v', denotes, close⟩ := left
  refine within_of_near (sub_near (stands_unpack denotes) (stands_unpack right)) ?_ small one finite
  rw [sub_sub_sub_cancel_right]
  exact close

theorem Within.mul (left : Within x v a) (right : Denotes y w) (positive : 0 ≤ w)
    (small : |v * w| + a * w ≤ size) (one : 1 ≤ size) (finite : size < ceiling) :
    Within (x * y) (v * w) (a * w + size / 2 ^ 51) := by
  obtain ⟨v', denotes, close⟩ := left
  refine within_of_near (mul_near (stands_unpack denotes) (stands_unpack right)) ?_ small one finite
  rw [← sub_mul, abs_mul, abs_of_nonneg positive]
  exact mul_le_mul_of_nonneg_right close positive

theorem Within.div (left : Within x v (w * a)) (right : Within y w (w * a)) (whole : 0 < w)
    (part : 0 ≤ v ∧ v ≤ w) (half : a ≤ 1 / 4) : Within (x / y) (v / w) (4 * a + 2 / 2 ^ 51) := by
  obtain ⟨v', denotes, close⟩ := left
  obtain ⟨w', denotes', close'⟩ := right
  have scaled : w * a ≤ w / 4 := by
    have product := mul_le_mul_of_nonneg_left half whole.le
    linarith
  have large : w / 2 ≤ w' := by
    have low := (abs_le.mp close').1
    linarith
  have positive : 0 < w' := by linarith
  have nonneg : 0 ≤ a := by
    have slack := le_trans (abs_nonneg _) close
    exact nonneg_of_mul_nonneg_right slack whole
  have cross : |v' * w - w' * v| ≤ 2 * a * w ^ 2 :=
    calc |v' * w - w' * v|
      _ = |(v' - v) * w - (w' - w) * v| := by congr 1; ring
      _ ≤ |(v' - v) * w| + |(w' - w) * v| := abs_sub _ _
      _ = |v' - v| * w + |w' - w| * v := by
          rw [abs_mul, abs_mul, abs_of_nonneg whole.le, abs_of_nonneg part.1]
      _ ≤ w * a * w + w * a * w :=
          add_le_add (mul_le_mul_of_nonneg_right close whole.le)
            (mul_le_mul close' part.2 part.1 (mul_nonneg whole.le nonneg))
      _ = 2 * a * w ^ 2 := by ring
  have apart : |v' / w' - v / w| ≤ 4 * a := by
    rw [div_sub_div _ _ positive.ne' whole.ne', abs_div, abs_of_pos (mul_pos positive whole),
      div_le_iff₀ (mul_pos positive whole)]
    calc |v' * w - w' * v|
      _ ≤ 2 * a * w ^ 2 := cross
      _ = 4 * a * (w / 2 * w) := by ring
      _ ≤ 4 * a * (w' * w) := by gcongr
  have ratio : |v / w| ≤ 1 := by
    rw [abs_of_nonneg (div_nonneg part.1 whole.le), div_le_one whole]
    exact part.2
  refine within_of_near (div_near (stands_unpack denotes) (stands_unpack denotes') positive.ne')
    apart ?_ ?_ ?_
  · linarith
  · norm_num
  · exact lt_ceiling (by norm_num : 1 ≤ 302) (by norm_num)

theorem Denotes.isNaN (denotes : Denotes x v) : x.isNaN = false := by
  change x.toModel.unpack.isNaN = false
  rw [Denotes] at denotes
  cases unpacked : x.toModel.unpack with
  | notANumber =>
    rw [unpacked] at denotes
    cases denotes
  | infinity => rfl
  | zero => rfl
  | finite => rfl

theorem roundToInt_eq (significand : Nat) (exponent : Int) :
    roundToInt .positive significand exponent = (⌊(significand : ℚ) * 2 ^ exponent⌋₊ : Int) := by
  have cut : roundToInt .positive significand exponent =
      ((significand <<< (exponent - 0).toNat / 2 ^ (0 - (exponent - (exponent - 0).toNat)).toNat : Nat) :
        Int) := by
    simp only [roundToInt, decreaseExponent, shiftToExponent, shifted_mantissa,
      ofMantissaAndAccuracy_mantissa, Sign.apply]
  rw [cut]
  refine congrArg Int.ofNat ?_
  rcases le_total 0 exponent with whole | below
  · obtain ⟨places, rfl⟩ := Int.eq_ofNat_of_zero_le whole
    have up : ((places : Int) - 0).toNat = places := by omega
    have down : (0 - ((places : Int) - places)).toNat = 0 := by omega
    rw [up, down, Nat.pow_zero, Nat.div_one, Nat.shiftLeft_eq, zpow_natCast]
    exact_mod_cast (Nat.floor_natCast (significand * 2 ^ places)).symm
  · obtain ⟨places, rfl⟩ := Int.exists_eq_neg_ofNat below
    have up : (-(places : Int) - 0).toNat = 0 := by omega
    have down : (0 - (-(places : Int) - (0 : Nat))).toNat = places := by omega
    have power : ((2 : ℚ) ^ places) = ((2 ^ places : Nat) : ℚ) := by push_cast; rfl
    rw [up, down, Nat.shiftLeft_zero, zpow_neg, zpow_natCast, ← div_eq_mul_inv, power,
      Nat.floor_div_eq_div]

theorem Stands.toInt {a : UnpackedFloat} (stands : Stands a v) (nonneg : 0 ≤ v) (least greatest : Int) :
    a.toInt least greatest = (⌊v⌋₊ : Int) := by
  cases stands with
  | zero sign => simp [UnpackedFloat.toInt]
  | finite sign fits =>
    rename_i significand exponent
    cases sign with
    | positive => exact roundToInt_eq significand exponent
    | negative =>
      have positive : (0 : ℚ) < significand * 2 ^ exponent :=
        mul_pos (by exact_mod_cast fits.positive) (zpow_pos (by norm_num) exponent)
      exact absurd nonneg (not_le.mpr (neg_lt_zero.mpr positive))

theorem Denotes.toUInt64 (denotes : Denotes x v) (nonneg : 0 ≤ v) (small : v < 2 ^ 64) :
    x.toUInt64.toNat = ⌊v⌋₊ := by
  have whole := (stands_unpack denotes).toInt nonneg 0 (UInt64.size - 1)
  have bound : ⌊v⌋₊ < UInt64.size := by
    rw [Nat.floor_lt nonneg]
    exact_mod_cast small
  change (UInt64.ofNatClamp (x.toModel.unpack.toInt 0 (UInt64.size - 1)).toNat).toNat = _
  rw [whole, Int.toNat_natCast, UInt64.ofNatClamp, dif_pos bound]
  rfl

def isRatio (x : Float) (n d : Nat) : Bool :=
  match x.toModel.unpack with
  | .zero _ => n == 0
  | .finite .positive significand exponent _ =>
    exponent ≤ 0 && significand * d == n * 2 ^ (-exponent).toNat
  | _ => false

theorem denotes_of_isRatio {n d : Nat} (some : d ≠ 0) (ratio : isRatio x n d = true) :
    Denotes x (n / d) := by
  have divisor : (d : ℚ) ≠ 0 := by exact_mod_cast some
  rw [Denotes]
  rw [isRatio] at ratio
  split at ratio
  next sign unpacked =>
    rw [unpacked, beq_iff_eq.mp ratio, Nat.cast_zero, zero_div]
    rfl
  next significand exponent positive unpacked =>
    rw [Bool.and_eq_true, decide_eq_true_eq, beq_iff_eq] at ratio
    obtain ⟨places, rfl⟩ := Int.exists_eq_neg_ofNat ratio.1
    rw [neg_neg, Int.toNat_natCast] at ratio
    have product : (significand : ℚ) * d = n * 2 ^ places := by exact_mod_cast ratio.2
    rw [unpacked, value?, scaled, signed, zpow_neg, zpow_natCast]
    refine congrArg Option.some ?_
    rw [eq_div_iff divisor, mul_right_comm, product, mul_assoc, mul_inv_cancel₀ (by positivity),
      mul_one]
  next => cases ratio

theorem denotes_small {n : Nat} (small : n < 64) : Denotes n.toFloat n := by
  have ratio : isRatio n.toFloat n 1 = true :=
    (by decide +kernel : ∀ n < 64, isRatio (Nat.toFloat n) n 1 = true) n small
  have denotes := denotes_of_isRatio one_ne_zero ratio
  rwa [Nat.cast_one, div_one] at denotes

theorem denotes_ten : Denotes (10 : Float) 10 := denotes_small (n := 10) (by decide)

theorem denotes_thousand : Denotes (1000 : Float) 1000 := by
  have ratio := denotes_of_isRatio one_ne_zero (by decide +kernel : isRatio 1000 1000 1 = true)
  rwa [Nat.cast_one, div_one] at ratio

theorem denotes_half : Denotes (0.5 : Float) (1 / 2) := by
  exact_mod_cast denotes_of_isRatio two_ne_zero (by decide +kernel : isRatio 0.5 1 2 = true)

end Floats

end ModelCatalog.Binary64
