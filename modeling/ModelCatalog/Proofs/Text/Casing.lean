import Mathlib.Data.List.Chain
import Mathlib.Data.List.TakeWhile
import ModelCatalog.Text.Character
import ModelCatalog.Text.Lowercase

/-!
What lower case does to a text. A text in lower case stays as it is, no comma and no blank comes in by
it, and blanks around a text do not matter to it.
-/

namespace ModelCatalog.Text

def Shift.Maps (run : Shift) (n m : Nat) : Prop :=
  run.first ≤ n ∧ n ≤ run.last ∧ (n - run.first) % run.step = 0 ∧ m = n - run.first + run.target

def Shift.reach (run : Shift) : Nat := run.target + (run.last - run.first)

def Shift.Before (a b : Shift) : Prop := a.first ≤ a.last ∧ a.last < b.first

instance (a b : Shift) : Decidable (a.Before b) := inferInstanceAs (Decidable (_ ∧ _))

instance : Trans Shift.Before Shift.Before Shift.Before where
  trans := fun ⟨ordered, before⟩ ⟨ordered', before'⟩ => ⟨ordered, by omega⟩

/-- None of the runs, which ascend, maps an image of `a`; runs of every other code point may interleave
with the images. -/
def Shift.isClearOf (a : Shift) : Shifts → Bool
  | [] => true
  | b :: rest =>
    Nat.blt a.reach b.first ||
      (Nat.blt b.last a.target ||
        ((a.step == 2 || a.first == a.last) && b.step == 2 && (a.target + b.first) % 2 == 1)) &&
      a.isClearOf rest

def Shifts.areClearOf (table : Shifts) : Shifts → Bool
  | [] => true
  | run :: rest =>
    run.isClearOf (bif Nat.ble run.first run.target then run :: rest else table) &&
      areClearOf table rest

def Shift.avoids (run : Shift) (range : Nat × Nat) : Bool :=
  (Nat.blt run.last range.1 || Nat.blt range.2 run.first) &&
    (Nat.blt run.reach range.1 || Nat.blt range.2 run.target)

namespace Shifts

theorem apply_cases (runs : Shifts) (n : Nat) :
    runs.apply n = n ∨ ∃ run ∈ runs, run.Maps n (runs.apply n) := by
  induction runs with
  | nil => exact .inl rfl
  | cons run rest ih =>
    rw [apply]
    split
    next => exact .inl rfl
    next notBelow =>
      split
      next within =>
        exact .inr ⟨run, List.mem_cons_self, Nat.le_of_not_lt notBelow, within.1, within.2, rfl⟩
      next =>
        rcases ih with same | ⟨run, later, maps⟩
        · exact .inl same
        · exact .inr ⟨run, List.mem_cons_of_mem _ later, maps⟩

theorem not_maps_of_isClearOf {a b : Shift} {runs : Shifts} (ascend : runs.Pairwise Shift.Before)
    (clear : a.isClearOf runs = true) (member : b ∈ runs) {n m image : Nat} (maps : a.Maps n m) :
    ¬b.Maps m image := by
  obtain ⟨above, below, whole, rfl⟩ := maps
  rintro ⟨above', below', whole', -⟩
  induction runs with
  | nil => cases member
  | cons run rest ih =>
    obtain ⟨before, restAscend⟩ := List.pairwise_cons.mp ascend
    simp only [Shift.isClearOf, Shift.reach, Bool.or_eq_true, Nat.blt_eq, Bool.and_eq_true,
      beq_iff_eq] at clear
    rcases List.mem_cons.mp member with rfl | later
    · rcases clear with beyond | ⟨under | ⟨⟨parity | single, two⟩, odd⟩, -⟩
      · omega
      · omega
      · rw [parity] at whole
        rw [two] at whole'
        omega
      · rw [two] at whole'
        omega
    · rcases clear with beyond | ⟨-, restClear⟩
      · obtain ⟨ordered, follows⟩ := before b later
        omega
      · exact ih restAscend restClear later

theorem not_maps_of_areClearOf {table before runs : Shifts} (split : table = before ++ runs)
    (ascend : table.Pairwise Shift.Before) (clear : table.areClearOf runs = true) {a b : Shift}
    (member : a ∈ runs) (inTable : b ∈ table) {n m image : Nat} (maps : a.Maps n m) :
    ¬b.Maps m image := by
  induction runs generalizing before with
  | nil => cases member
  | cons run rest ih =>
    rw [areClearOf, Bool.and_eq_true] at clear
    rcases List.mem_cons.mp member with rfl | later
    · have first := clear.1
      cases upwards : Nat.ble a.first a.target with
      | false =>
        rw [upwards] at first
        exact not_maps_of_isClearOf ascend first inTable maps
      | true =>
        rw [upwards] at first
        rw [split] at ascend inTable
        obtain ⟨-, onwards, earlier⟩ := List.pairwise_append.mp ascend
        rcases List.mem_append.mp inTable with passed | here
        · obtain ⟨-, follows⟩ := earlier b passed a List.mem_cons_self
          have noLess := Nat.le_of_ble_eq_true upwards
          obtain ⟨above, -, -, rfl⟩ := maps
          rintro ⟨-, below, -, -⟩
          omega
        · exact not_maps_of_isClearOf onwards first here maps
    · have further : table = (before ++ [run]) ++ rest := by
        rw [split, List.append_assoc, List.singleton_append]
      exact ih further clear.2 later

theorem not_within_of_avoids {run : Shift} {range : Nat × Nat} (avoids : run.avoids range = true)
    {n m : Nat} (maps : run.Maps n m) :
    ¬(range.1 ≤ n ∧ n ≤ range.2) ∧ ¬(range.1 ≤ m ∧ m ≤ range.2) := by
  obtain ⟨above, below, -, rfl⟩ := maps
  simp only [Shift.avoids, Shift.reach, Bool.or_eq_true, Nat.blt_eq, Bool.and_eq_true] at avoids
  omega

end Shifts

section Table

theorem lowercaseShifts_ascend : lowercaseShifts.Pairwise Shift.Before := by
  have chain : lowercaseShifts.IsChain Shift.Before := by decide +kernel
  exact chain.pairwise

theorem lowercaseShifts_clear : lowercaseShifts.areClearOf lowercaseShifts = true := by
  decide +kernel

def unmappedRanges : Ranges := (44, 44) :: (0x130, 0x130) :: blankRanges

theorem lowercaseShifts_avoid :
    (lowercaseShifts.all fun run => unmappedRanges.all run.avoids) = true := by
  decide

theorem blankRanges_ascending : blankRanges.Ascending := by
  simp [blankRanges, Ranges.Ascending]

theorem isBlank_iff (c : Char) :
    isBlank c = true ↔ ∃ range ∈ blankRanges, range.1 ≤ c.toNat ∧ c.toNat ≤ range.2 :=
  Ranges.contains_iff blankRanges_ascending c.toNat

theorem isBlank_of_shown {c : Char} (shown : 32 < c.toNat) (ascii : c.toNat < 128) :
    isBlank c = false := by
  rw [Bool.eq_false_iff, ne_eq, isBlank_iff]
  rintro ⟨range, listed, within⟩
  have outside : ∀ range ∈ blankRanges, range.2 ≤ 32 ∨ 128 ≤ range.1 := by decide
  have apart := outside range listed
  omega

variable {run : Shift} (inTable : run ∈ lowercaseShifts) {n m : Nat} (maps : run.Maps n m)
include inTable maps

theorem apply_image : lowercaseShifts.apply m = m := by
  rcases lowercaseShifts.apply_cases m with same | ⟨other, otherInTable, mapsOn⟩
  · exact same
  · have all : lowercaseShifts = [] ++ lowercaseShifts := rfl
    exact absurd mapsOn (Shifts.not_maps_of_areClearOf all lowercaseShifts_ascend
      lowercaseShifts_clear inTable otherInTable maps)

theorem image_outside {range : Nat × Nat} (listed : range ∈ unmappedRanges) :
    ¬(range.1 ≤ n ∧ n ≤ range.2) ∧ ¬(range.1 ≤ m ∧ m ≤ range.2) := by
  have avoid := List.all_eq_true.mp lowercaseShifts_avoid run inTable
  exact Shifts.not_within_of_avoids (List.all_eq_true.mp avoid range listed) maps

end Table

section Letters

def IsLow (c : Char) : Prop := lowerChar c = [c]

instance (c : Char) : Decidable (IsLow c) := inferInstanceAs (Decidable (lowerChar c = [c]))

/-- A character that lower case may bring in: it is in lower case, and it is no comma and no blank. -/
structure IsLetter (c : Char) : Prop where
  low : IsLow c
  notComma : c ≠ ','
  visible : isBlank c = false

/-- What may stand for a character in lower case: the character itself, or letters for one that is no
blank. -/
inductive StandsFor (c : Char) : List Char → Prop where
  | same : IsLow c → StandsFor c [c]
  | letters {front : List Char} : isBlank c = false → front ≠ [] → (∀ d ∈ front, IsLetter d) →
    StandsFor c front

theorem toNat_ofNat {n : Nat} (valid : n.isValidChar) : (Char.ofNat n).toNat = n := by
  have code : Char.ofNat n = Char.ofNatAux n valid := dif_pos valid
  rw [code]
  rfl

theorem toNat_ofNat_cases (n : Nat) : (Char.ofNat n).toNat = n ∨ Char.ofNat n = '\x00' := by
  by_cases valid : n.isValidChar
  · exact .inl (toNat_ofNat valid)
  · exact .inr (dif_neg valid)

theorem isLow_of_apply {c : Char} (fixed : lowercaseShifts.apply c.toNat = c.toNat)
    (undotted : c.toNat ≠ 0x130) : IsLow c := by
  rw [IsLow, lowerChar, if_neg undotted, fixed, Char.ofNat_toNat]

theorem isLetter_image {run : Shift} (inTable : run ∈ lowercaseShifts) {n m : Nat}
    (maps : run.Maps n m) : IsLetter (Char.ofNat m) := by
  rcases toNat_ofNat_cases m with same | null
  · have outside {range : Nat × Nat} (listed : range ∈ unmappedRanges) :
        ¬(range.1 ≤ m ∧ m ≤ range.2) := (image_outside inTable maps listed).2
    refine ⟨isLow_of_apply ?_ ?_, ?_, ?_⟩
    · rw [same, apply_image inTable maps]
    · intro dotted
      rw [same] at dotted
      have listed : (0x130, 0x130) ∈ unmappedRanges := by simp [unmappedRanges]
      exact outside listed (by simp [dotted])
    · intro comma
      have code : m = 44 := by rw [← same, comma]; rfl
      have listed : (44, 44) ∈ unmappedRanges := by simp [unmappedRanges]
      exact outside listed (by simp [code])
    · rw [Bool.eq_false_iff, ne_eq, isBlank_iff, same]
      rintro ⟨range, blank, within⟩
      exact outside (List.mem_cons_of_mem _ (List.mem_cons_of_mem _ blank)) within
  · rw [null]
    exact ⟨by decide, by decide, by decide⟩

theorem lowerChar_standsFor (c : Char) : StandsFor c (lowerChar c) := by
  by_cases dotted : c.toNat = 0x130
  · have visible : isBlank c = false := by
      rw [isBlank, dotted]
      decide
    rw [lowerChar, if_pos dotted]
    refine .letters visible (by simp) ?_
    simp only [List.mem_cons, List.not_mem_nil, or_false, forall_eq_or_imp, forall_eq]
    exact ⟨⟨by decide, by decide, by decide⟩, ⟨by decide, by decide, by decide⟩⟩
  · rcases lowercaseShifts.apply_cases c.toNat with fixed | ⟨run, inTable, maps⟩
    · have low := isLow_of_apply fixed dotted
      rw [low]
      exact .same low
    · rw [lowerChar, if_neg dotted]
      refine .letters ?_ (by simp) (by simpa using isLetter_image inTable maps)
      rw [Bool.eq_false_iff, ne_eq, isBlank_iff]
      rintro ⟨range, blank, within⟩
      have listed : range ∈ unmappedRanges :=
        List.mem_cons_of_mem _ (List.mem_cons_of_mem _ blank)
      exact (image_outside inTable maps listed).1 within

theorem isLow_of_isBlank {c : Char} (blank : isBlank c = true) : IsLow c := by
  have stands := lowerChar_standsFor c
  generalize front_eq : lowerChar c = front at stands
  cases stands with
  | same low => exact low
  | letters visible _ _ =>
    rw [blank] at visible
    cases visible

theorem forall_ascii (holds : Char → Prop) (all : ∀ n < 128, holds (Char.ofNat n)) {c : Char}
    (ascii : c.toNat < 128) : holds c := by
  have checked := all c.toNat ascii
  rwa [Char.ofNat_toNat] at checked

theorem lowerChar_ascii {c : Char} (ascii : c.toNat < 128) : lowerChar c = [c.toLower] :=
  forall_ascii (fun c => lowerChar c = [c.toLower]) (by decide) ascii

theorem toLower_of_not_ascii {c : Char} (foreign : ¬c.toNat < 128) : c.toLower = c := by
  have above : ¬c.val ≤ 90 := by
    intro below
    have code : c.toNat ≤ 90 := UInt32.le_iff_toNat_le.mp below
    omega
  exact dif_neg fun capital => above capital.2

/-- A character that lower case takes as lower case within ASCII does. -/
def FoldsInAscii (c : Char) : Prop := c.toNat < 128 ∨ IsLow c

instance (c : Char) : Decidable (FoldsInAscii c) := inferInstanceAs (Decidable (_ ∨ _))

theorem FoldsInAscii.lowerChar_eq {c : Char} (folds : FoldsInAscii c) :
    lowerChar c = [c.toLower] := by
  by_cases ascii : c.toNat < 128
  · exact lowerChar_ascii ascii
  · rw [toLower_of_not_ascii ascii]
    exact folds.resolve_left ascii

theorem FoldsInAscii.ne_capitalSigma {c : Char} (folds : FoldsInAscii c) : c ≠ capitalSigma := by
  rintro rfl
  revert folds
  decide

end Letters

section Texts

theorem lowerAfter_cons (before : List Char) (c : Char) (rest : List Char) :
    ∃ front, StandsFor c front ∧
      lowerAfter before (c :: rest) = front ++ lowerAfter (c :: before) rest := by
  refine ⟨_, ?_, rfl⟩
  split
  next sigma =>
    subst sigma
    split
    · exact .letters (by decide) (by simp) (by simpa using ⟨by decide, by decide, by decide⟩)
    · exact .letters (by decide) (by simp) (by simpa using ⟨by decide, by decide, by decide⟩)
  next => exact lowerChar_standsFor c

theorem lowerAfter_append_of_folds {front : List Char} (folds : ∀ c ∈ front, FoldsInAscii c)
    (before rest : List Char) :
    lowerAfter before (front ++ rest) =
      asciiLower front ++ lowerAfter (front.reverse ++ before) rest := by
  induction front generalizing before with
  | nil => rfl
  | cons c front ih =>
    obtain ⟨first, later⟩ := List.forall_mem_cons.mp folds
    rw [List.cons_append, lowerAfter, if_neg first.ne_capitalSigma, first.lowerChar_eq, ih later]
    simp [asciiLower]

theorem lowerAfter_of_folds {text : List Char} (folds : ∀ c ∈ text, FoldsInAscii c)
    (before : List Char) : lowerAfter before text = asciiLower text := by
  simpa [lowerAfter] using lowerAfter_append_of_folds folds before []

theorem mem_lowerAfter {before text : List Char} {d : Char} (member : d ∈ lowerAfter before text) :
    IsLow d ∧ (d ∈ text ∨ IsLetter d) := by
  induction text generalizing before with
  | nil => cases member
  | cons c rest ih =>
    obtain ⟨front, stands, parts⟩ := lowerAfter_cons before c rest
    rw [parts] at member
    rcases List.mem_append.mp member with first | later
    · cases stands with
      | same low =>
        obtain rfl := List.mem_singleton.mp first
        exact ⟨low, .inl List.mem_cons_self⟩
      | letters _ _ all => exact ⟨(all d first).low, .inr (all d first)⟩
    · obtain ⟨low, source⟩ := ih later
      exact ⟨low, source.imp_left (List.mem_cons_of_mem c)⟩

theorem mem_lower {text : List Char} {d : Char} (member : d ∈ lower text) :
    IsLow d ∧ (d ∈ text ∨ IsLetter d) := mem_lowerAfter member

theorem comma_not_mem_lower {text : List Char} (single : ',' ∉ text) : ',' ∉ lower text := by
  intro member
  rcases (mem_lower member).2 with present | letter
  · exact single present
  · exact letter.notComma rfl

theorem blank_of_lowerAfter {before text : List Char}
    (blank : ∀ d ∈ lowerAfter before text, isBlank d = true) : ∀ c ∈ text, isBlank c = true := by
  induction text generalizing before with
  | nil => simp
  | cons c rest ih =>
    obtain ⟨front, stands, parts⟩ := lowerAfter_cons before c rest
    rw [parts] at blank
    have restBlank := ih fun d later => blank d (List.mem_append_right front later)
    have frontBlank : ∀ d ∈ front, isBlank d = true :=
      fun d first => blank d (List.mem_append_left _ first)
    intro d member
    rcases List.mem_cons.mp member with rfl | later
    · cases stands with
      | same _ => exact frontBlank _ List.mem_cons_self
      | letters _ nonempty all =>
        obtain ⟨e, others, rfl⟩ := List.exists_cons_of_ne_nil nonempty
        have visible := (all e List.mem_cons_self).visible
        rw [frontBlank e List.mem_cons_self] at visible
        cases visible
    · exact restBlank d later

end Texts

/-! Blanks around a text. -/

section Trimming

theorem blank_caseless {c : Char} (blank : isBlank c = true) :
    isCaseIgnorable c = false ∧ isCased c = false := by
  have all : ∀ range ∈ blankRanges, ∀ n ∈ List.range' range.1 (range.2 - range.1 + 1),
      caseIgnorableRanges.contains n = false ∧ casedRanges.contains n = false := by
    decide +kernel
  obtain ⟨range, listed, within⟩ := (isBlank_iff c).mp blank
  exact all range listed c.toNat (by rw [List.mem_range'_1]; omega)

theorem beginsCased_append {blanks : List Char} (blank : ∀ c ∈ blanks, isBlank c = true)
    (text : List Char) : beginsCased (text ++ blanks) = beginsCased text := by
  induction text with
  | nil =>
    cases blanks with
    | nil => rfl
    | cons c rest =>
      obtain ⟨counts, uncased⟩ := blank_caseless (blank c List.mem_cons_self)
      simp [beginsCased, counts, uncased]
  | cons c rest ih =>
    by_cases skipped : isCaseIgnorable c = true
    · simpa [beginsCased, skipped] using ih
    · simp [beginsCased, skipped]

theorem lowerAfter_blank_before {blanks : List Char} (blank : ∀ c ∈ blanks, isBlank c = true)
    (before text : List Char) : lowerAfter (before ++ blanks) text = lowerAfter before text := by
  induction text generalizing before with
  | nil => rfl
  | cons c rest ih =>
    rw [lowerAfter, lowerAfter, beginsCased_append blank, ← List.cons_append, ih]

theorem lowerAfter_blanks {blanks : List Char} (blank : ∀ c ∈ blanks, isBlank c = true)
    (before text : List Char) :
    lowerAfter before (blanks ++ text) = blanks ++ lowerAfter (blanks.reverse ++ before) text := by
  induction blanks generalizing before with
  | nil => rfl
  | cons c rest ih =>
    have first := blank c List.mem_cons_self
    have notSigma : c ≠ capitalSigma := by
      rintro rfl
      exact absurd first (by decide)
    have low : lowerChar c = [c] := isLow_of_isBlank first
    rw [List.cons_append, lowerAfter, if_neg notSigma, low,
      ih fun d later => blank d (List.mem_cons_of_mem c later)]
    simp

theorem lowerAfter_append_blanks {blanks : List Char} (blank : ∀ c ∈ blanks, isBlank c = true)
    (before text : List Char) :
    lowerAfter before (text ++ blanks) = lowerAfter before text ++ blanks := by
  induction text generalizing before with
  | nil => simpa [lowerAfter] using lowerAfter_blanks blank before []
  | cons c rest ih =>
    rw [List.cons_append, lowerAfter, lowerAfter, beginsCased_append blank, ih, List.append_assoc]

theorem exists_trim (text : List Char) : ∃ front back, text = front ++ trim text ++ back ∧
    (∀ c ∈ front, isBlank c = true) ∧ ∀ c ∈ back, isBlank c = true := by
  refine ⟨text.takeWhile isBlank, ((trimStart text).reverse.takeWhile isBlank).reverse, ?_, ?_, ?_⟩
  · rw [List.append_assoc, trim, trimEnd, ← List.reverse_append, List.takeWhile_append_dropWhile,
      List.reverse_reverse, trimStart, List.takeWhile_append_dropWhile]
  · exact fun c member => List.mem_takeWhile_imp member
  · exact fun c member => List.mem_takeWhile_imp (List.mem_reverse.mp member)

theorem lower_trim (text : List Char) : ∃ front back, lower text = front ++ lower (trim text) ++ back ∧
    (∀ c ∈ front, isBlank c = true) ∧ ∀ c ∈ back, isBlank c = true := by
  obtain ⟨front, back, split, frontBlank, backBlank⟩ := exists_trim text
  refine ⟨front, back, ?_, frontBlank, backBlank⟩
  have turned : ∀ c ∈ front.reverse, isBlank c = true :=
    fun c member => frontBlank c (List.mem_reverse.mp member)
  have start := lowerAfter_blank_before turned [] (trim text ++ back)
  calc lower text
    _ = lowerAfter [] (front ++ (trim text ++ back)) := by rw [lower, ← List.append_assoc, ← split]
    _ = front ++ lowerAfter (front.reverse ++ []) (trim text ++ back) :=
      lowerAfter_blanks frontBlank [] _
    _ = front ++ lowerAfter [] (trim text ++ back) := by rw [List.append_nil, ← start, List.nil_append]
    _ = front ++ lower (trim text) ++ back := by
      rw [lowerAfter_append_blanks backBlank, ← List.append_assoc, lower]

end Trimming

end ModelCatalog.Text
