import ModelCatalog.Proofs.Time.Fractions
import ModelCatalog.Proofs.Time.StoreReading

/-!
Which of the texts that are accepted as bounds a store reads as the instants for which they stand. It does
not know some separators, zones and seconds, nor a plus before a year, and its times are whole
milliseconds.
-/

namespace ModelCatalog

namespace Time

def Instant.nanoseconds (instant : Instant) : Int := instant.second * 1000000000 + instant.nanosecond

/-- Whenever it is read, the text is read as this very instant. -/
def JulianDay.Means (text : String) (instant : Instant) : Prop :=
  ∀ present, ∃ time, milliseconds? present text = some time ∧ time * 1000000 = instant.nanoseconds

/-- The text is never read as a time. -/
def JulianDay.IsForeign (text : String) : Prop := ∀ present, milliseconds? present text = none

theorem JulianDay.secondOf?_whole {fraction : List Char} (areDigits : ∀ c ∈ fraction, c.isDigit = true)
    (few : fraction.length ≤ 300) {second : Nat} (known : second ≤ 59)
    (whole : 1000000 ∣ nanosecondsOf fraction) :
    secondOf? second fraction = some (second * 1000 + nanosecondsOf fraction / 1000000) := by
  rw [secondOf?]
  split
  next none =>
    have zero : nanosecondsOf [] = 0 := by decide
    rw [none, zero, Nat.zero_div, Nat.add_zero]
  next => exact rounded?_whole areDigits few known whole

namespace TimeText

variable {time : TimeText}

def IsPlain (time : TimeText) : Prop := time.separator.toNat ≠ 0 ∧ time.fraction.length ≤ 300

/-- The store knows the text, and the time is in whole milliseconds and before the year 10000. -/
def IsUnderstood (time : TimeText) : Prop :=
  time.IsKnown ∧ time.fraction.length ≤ 300 ∧ 1000000 ∣ nanosecondsOf time.fraction ∧
    time.instant.second < Instant.afterLast

instance (time : TimeText) : Decidable time.IsUnderstood :=
  inferInstanceAs (Decidable (_ ∧ _ ∧ _ ∧ _))

theorem IsKnown.visible (known : time.IsKnown) : time.separator.toNat ≠ 0 := by
  intro hidden
  have nul : time.separator = Char.ofNat 0 := by
    rw [← hidden, Char.ofNat_toNat]
  have separated := known.1
  rw [nul] at separated
  exact absurd separated (by decide)

theorem IsKnown.instant_eq (known : time.IsKnown) :
    time.instant = ⟨time.minuteStart + time.second, nanosecondsOf time.fraction⟩ := by
  have inMinute : ¬time.second = 60 := by
    have le := known.2.1
    omega
  rw [instant, if_neg inMinute]

theorem IsUnderstood.means (understood : time.IsUnderstood) :
    JulianDay.Means (String.ofList time.text) time.instant := by
  intro present
  obtain ⟨known, few, whole, beforeEnd⟩ := understood
  have subsecond := JulianDay.nanosecondsOf_lt time.fraction_digits
  rw [known.instant_eq] at beforeEnd ⊢
  refine ⟨time.minuteStart * 1000 +
    (time.second * 1000 + nanosecondsOf time.fraction / 1000000 : Nat), ?_, ?_⟩
  · rw [milliseconds?_text time known.visible, if_pos known,
      JulianDay.secondOf?_whole time.fraction_digits few known.2.1 whole]
    refine if_pos ?_
    dsimp only at beforeEnd
    omega
  · simp only [Instant.nanoseconds]
    omega

theorem means_iff (plain : time.IsPlain) :
    JulianDay.Means (String.ofList time.text) time.instant ↔ time.IsUnderstood := by
  refine ⟨fun means => ?_, IsUnderstood.means⟩
  obtain ⟨total, read, same⟩ := means ⟨0, 0⟩
  rw [milliseconds?_text time plain.1, Option.ite_none_right_eq_some, Option.bind_eq_some_iff] at read
  obtain ⟨known, millisecond, -, read⟩ := read
  rw [Option.ite_none_right_eq_some] at read
  obtain ⟨beforeEnd, made⟩ := read
  obtain rfl := Option.some.inj made
  rw [IsUnderstood]
  rw [known.instant_eq, Instant.nanoseconds] at same
  rw [known.instant_eq]
  dsimp only at same ⊢
  exact ⟨known, plain.2, by omega, by omega⟩

theorem isForeign_of_unknown (visible : time.separator.toNat ≠ 0) (unknown : ¬time.IsKnown) :
    JulianDay.IsForeign (String.ofList time.text) := by
  intro present
  rw [milliseconds?_text time visible, if_neg unknown]

end TimeText

namespace DayText

variable {day : DayText}

def IsUnderstood (day : DayText) : Prop :=
  day.sign ≠ .plus ∧ ¬day.date.IsMiscounted ∧
    0 ≤ day.date.toDays * JulianDay.millisecondsPerDay + JulianDay.epoch

instance (day : DayText) : Decidable day.IsUnderstood := inferInstanceAs (Decidable (_ ∧ _ ∧ _))

theorem means_iff :
    JulianDay.Means (String.ofList day.text) day.instant ↔ day.IsUnderstood := by
  have nanoseconds : day.instant.nanoseconds =
      day.date.toDays * JulianDay.millisecondsPerDay * 1000000 := by
    simp only [instant, Instant.nanoseconds, secondsPerDay, JulianDay.millisecondsPerDay]
    omega
  constructor
  · intro means
    obtain ⟨total, read, same⟩ := means ⟨0, 0⟩
    rw [milliseconds?_text, Option.ite_none_left_eq_some, Option.ite_none_right_eq_some] at read
    obtain ⟨unsigned, counted, made⟩ := read
    obtain rfl := Option.some.inj made
    rw [nanoseconds] at same
    by_cases miscounted : day.date.IsMiscounted
    · simp only [if_pos miscounted, JulianDay.millisecondsPerDay] at same
      omega
    · rw [if_neg miscounted, Int.add_zero] at counted
      exact ⟨unsigned, miscounted, counted⟩
  · rintro ⟨unsigned, counted, notBefore⟩ present
    refine ⟨_, ?_, nanoseconds.symm⟩
    rw [milliseconds?_text, if_neg unsigned, if_neg counted, Int.add_zero]
    exact if_pos notBefore

theorem isForeign_of_plus (plus : day.sign = .plus) :
    JulianDay.IsForeign (String.ofList day.text) := by
  intro present
  rw [milliseconds?_text, if_pos plus]

end DayText

namespace BoundText

variable {bound : BoundText}

def IsPlain : BoundText → Prop
  | time written => written.IsPlain
  | day _ => True

def IsUnderstood : BoundText → Prop
  | time written => written.IsUnderstood
  | day written => written.IsUnderstood

instance (bound : BoundText) : Decidable bound.IsUnderstood :=
  match bound with
  | time written => inferInstanceAs (Decidable written.IsUnderstood)
  | day written => inferInstanceAs (Decidable written.IsUnderstood)

/-- It has a separator, a second, a zone or a sign that the store does not know. -/
def IsUnknown : BoundText → Prop
  | time written => written.separator.toNat ≠ 0 ∧ ¬written.IsKnown
  | day written => written.sign = .plus

theorem IsUnderstood.means (understood : bound.IsUnderstood) :
    JulianDay.Means (String.ofList bound.text) bound.instant := by
  cases bound with
  | time written => exact TimeText.IsUnderstood.means understood
  | day written => exact DayText.means_iff.mpr understood

theorem means_iff (plain : bound.IsPlain) :
    JulianDay.Means (String.ofList bound.text) bound.instant ↔ bound.IsUnderstood := by
  cases bound with
  | time written => exact TimeText.means_iff plain
  | day written => exact DayText.means_iff

theorem IsUnknown.isForeign (unknown : bound.IsUnknown) :
    JulianDay.IsForeign (String.ofList bound.text) := by
  cases bound with
  | time written => exact TimeText.isForeign_of_unknown unknown.1 unknown.2
  | day written => exact DayText.isForeign_of_plus unknown

end BoundText

end Time

end ModelCatalog
