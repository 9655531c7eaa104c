import ModelCatalog.Proofs.Text.Casing
import ModelCatalog.Query.Connector
import ModelCatalog.Text.Alphanumeric

/-!
Word characters. None of them is a blank, and whatever lower case changes is one of them. A word is a
connector in lower case exactly if it is one.
-/

namespace ModelCatalog

namespace Text

section Tables

/-- The ranges are apart from each other, and in order. -/
def Ranges.Follows (a b : Nat × Nat) : Prop := a.1 ≤ a.2 ∧ a.2 < b.1

instance (a b : Nat × Nat) : Decidable (Ranges.Follows a b) := inferInstanceAs (Decidable (_ ∧ _))

instance : Trans Ranges.Follows Ranges.Follows Ranges.Follows where
  trans := fun ⟨ordered, before⟩ ⟨ordered', before'⟩ => ⟨ordered, by omega⟩

theorem Ranges.ascending_of_follows {ranges : Ranges} (follows : ranges.Pairwise Follows)
    (ordered : ∀ range ∈ ranges, range.1 ≤ range.2) : ranges.Ascending := by
  induction ranges with
  | nil => trivial
  | cons range rest ih =>
    obtain ⟨before, restFollows⟩ := List.pairwise_cons.mp follows
    refine ⟨ordered range List.mem_cons_self, fun next later => (before next later).2, ?_⟩
    exact ih restFollows fun next later => ordered next (List.mem_cons_of_mem range later)

theorem alphanumericRanges_ascending : alphanumericRanges.Ascending := by
  have chain : alphanumericRanges.IsChain Ranges.Follows := by decide +kernel
  have ordered : (alphanumericRanges.all fun range => Nat.ble range.1 range.2) = true := by
    decide +kernel
  apply Ranges.ascending_of_follows chain.pairwise
  intro range listed
  exact Nat.le_of_ble_eq_true (List.all_eq_true.mp ordered range listed)

def Ranges.cover : (ranges spans : Ranges) → Bool
  | [], spans => spans.isEmpty
  | range :: rest, spans =>
    Ranges.cover rest
      (spans.dropWhile fun span => Nat.ble range.1 span.1 && Nat.ble span.2 range.2)

theorem Ranges.exists_of_cover {ranges spans : Ranges} (covered : ranges.cover spans = true)
    {span : Nat × Nat} (member : span ∈ spans) :
    ∃ range ∈ ranges, range.1 ≤ span.1 ∧ span.2 ≤ range.2 := by
  induction ranges generalizing spans with
  | nil =>
    rw [cover, List.isEmpty_iff] at covered
    rw [covered] at member
    cases member
  | cons range rest ih =>
    rw [cover] at covered
    rw [← List.takeWhile_append_dropWhile (l := spans)
      (p := fun span => Nat.ble range.1 span.1 && Nat.ble span.2 range.2), List.mem_append] at member
    rcases member with within | later
    · have bounds := List.mem_takeWhile_imp within
      rw [Bool.and_eq_true, Nat.ble_eq, Nat.ble_eq] at bounds
      exact ⟨range, List.mem_cons_self, bounds⟩
    · obtain ⟨other, listed, bounds⟩ := ih covered later
      exact ⟨other, List.mem_cons_of_mem range listed, bounds⟩

def Shift.spans (run : Shift) : Ranges :=
  if run.step = 1 then [(run.first, run.last)]
  else (List.range' run.first ((run.last - run.first) / run.step + 1) run.step).map fun n => (n, n)

theorem Shift.Maps.exists_span {run : Shift} {n m : Nat} (maps : run.Maps n m) :
    ∃ span ∈ run.spans, span.1 ≤ n ∧ n ≤ span.2 := by
  obtain ⟨above, below, whole, -⟩ := maps
  rw [spans]
  split
  next => exact ⟨_, List.mem_singleton_self _, above, below⟩
  next =>
    refine ⟨(n, n), List.mem_map.mpr ⟨n, ?_, rfl⟩, Nat.le_refl n, Nat.le_refl n⟩
    have steps : n = run.first + run.step * ((n - run.first) / run.step) := by
      rw [Nat.mul_div_cancel' (Nat.dvd_of_mod_eq_zero whole)]
      omega
    have few : (n - run.first) / run.step ≤ (run.last - run.first) / run.step :=
      Nat.div_le_div_right (by omega)
    exact List.mem_range'.mpr ⟨_, Nat.lt_succ_of_le few, steps⟩

theorem alphanumericRanges_cover :
    alphanumericRanges.cover (lowercaseShifts.flatMap Shift.spans) = true := by
  decide +kernel

theorem isAlphanumeric_of_maps {run : Shift} (inTable : run ∈ lowercaseShifts) {c : Char} {m : Nat}
    (maps : run.Maps c.toNat m) : isAlphanumeric c = true := by
  obtain ⟨span, member, within⟩ := maps.exists_span
  obtain ⟨range, listed, bounds⟩ := Ranges.exists_of_cover alphanumericRanges_cover
    (List.mem_flatMap.mpr ⟨run, inTable, member⟩)
  rw [isAlphanumeric, Ranges.contains_iff alphanumericRanges_ascending]
  exact ⟨range, listed, by omega⟩

theorem alphanumericRanges_image :
    (lowercaseShifts.all fun run =>
      (Nat.blt run.reach 0xD800 || (Nat.blt 0xDFFF run.target && Nat.blt run.reach 0x110000)) &&
        alphanumericRanges.any fun range =>
          Nat.ble range.1 run.target && Nat.ble run.reach range.2) = true := by
  decide +kernel

theorem isAlphanumeric_image {run : Shift} (inTable : run ∈ lowercaseShifts) {n m : Nat}
    (maps : run.Maps n m) : isAlphanumeric (Char.ofNat m) = true := by
  have checked := List.all_eq_true.mp alphanumericRanges_image run inTable
  simp only [Bool.and_eq_true, Bool.or_eq_true, Nat.blt_eq, List.any_eq_true, Nat.ble_eq] at checked
  obtain ⟨scalar, range, listed, bounds⟩ := checked
  obtain ⟨above, below, -, image⟩ := maps
  rw [Shift.reach] at scalar bounds
  have valid : m.isValidChar := by
    rw [Nat.isValidChar]
    omega
  have code : (Char.ofNat m).toNat = m := toNat_ofNat valid
  rw [isAlphanumeric, code, Ranges.contains_iff alphanumericRanges_ascending]
  exact ⟨range, listed, by omega⟩

end Tables

theorem isWordChar_of_not_isLow {c : Char} (changed : ¬IsLow c) : isWordChar c = true := by
  by_cases dotted : c.toNat = 0x130
  · rw [isWordChar, isAlphanumeric, dotted]
    rfl
  · rcases lowercaseShifts.apply_cases c.toNat with fixed | ⟨run, inTable, maps⟩
    · exact absurd (isLow_of_apply fixed dotted) changed
    · rw [isWordChar, isAlphanumeric_of_maps inTable maps, Bool.true_or]

theorem isWordChar_lowerChar {c d : Char} {rest : List Char} (wordChar : isWordChar c = true)
    (lowered : lowerChar c = d :: rest) : isWordChar d = true := by
  by_cases dotted : c.toNat = 0x130
  · rw [lowerChar, if_pos dotted] at lowered
    rw [← (List.cons.inj lowered).1]
    decide +kernel
  · rw [lowerChar, if_neg dotted] at lowered
    rw [← (List.cons.inj lowered).1]
    rcases lowercaseShifts.apply_cases c.toNat with fixed | ⟨run, inTable, maps⟩
    · rwa [fixed, Char.ofNat_toNat]
    · rw [isWordChar, isAlphanumeric_image inTable maps, Bool.true_or]

theorem not_isBlank_of_isWordChar {c : Char} (wordChar : isWordChar c = true) :
    isBlank c = false := by
  have tables : ∀ range ∈ blankRanges, ∀ n ∈ List.range' range.1 (range.2 - range.1 + 1),
      alphanumericRanges.contains n = false ∧ n ≠ '_'.toNat := by
    decide +kernel
  rw [Bool.eq_false_iff, ne_eq, isBlank_iff]
  rintro ⟨range, listed, within⟩
  obtain ⟨noLetter, other⟩ := tables range listed c.toNat (by rw [List.mem_range'_1]; omega)
  have underscore : c = '_' := by simpa [isWordChar, isAlphanumeric, noLetter] using wordChar
  exact other (congrArg Char.toNat underscore)

theorem not_isWordChar_of_isBlank {c : Char} (blank : isBlank c = true) : isWordChar c = false := by
  rw [Bool.eq_false_iff]
  intro wordChar
  rw [not_isBlank_of_isWordChar wordChar] at blank
  cases blank

theorem ne_of_isWordChar {c d : Char} (wordChar : isWordChar c = true)
    (mark : isWordChar d = false) : c ≠ d := by
  rintro rfl
  rw [wordChar] at mark
  cases mark

end Text

/-! Connectors and letter case. -/

theorem isConnector_iff {word : List Char} :
    isConnector word = true ↔ ∃ connector : Connector, Text.sameAscii word connector.text = true := by
  rw [isConnector, Connector.ofWord?]
  constructor
  · intro known
    split at known
    next same => exact ⟨.and, same⟩
    next =>
      split at known
      next same => exact ⟨.or, same⟩
      next =>
        split at known
        next same => exact ⟨.not, same⟩
        next => cases known
  · rintro ⟨connector, same⟩
    split
    next => rfl
    next notAnd =>
      split
      next => rfl
      next notOr =>
        split
        next => rfl
        next notNot =>
          cases connector with
          | and => exact absurd same notAnd
          | or => exact absurd same notOr
          | not => exact absurd same notNot

def connectorLetters : List Char := ['a', 'n', 'd', 'o', 'r', 't']

theorem toLower_mem_connectorLetters {word : List Char} (known : isConnector word = true) :
    ∀ c ∈ word, c.toLower ∈ connectorLetters := by
  obtain ⟨connector, same⟩ := isConnector_iff.mp known
  have letters : word.map Char.toLower = connector.text.map Char.toLower := by
    simpa [Text.sameAscii, Text.asciiLower] using same
  have listed : ∀ c ∈ connector.text.map Char.toLower, c ∈ connectorLetters := by
    cases connector <;> simp [Connector.text, connectorLetters]
  intro c member
  exact listed _ (letters ▸ List.mem_map_of_mem member)

theorem ascii_of_toLower {c : Char} (listed : c.toLower ∈ connectorLetters) : c.toNat < 128 := by
  have letters : ∀ d ∈ connectorLetters, d.toNat < 128 := by simp [connectorLetters]
  have ascii := letters _ listed
  by_contra foreign
  rw [Text.toLower_of_not_ascii foreign] at ascii
  exact foreign ascii

theorem isWordChar_of_isConnector {word : List Char} (known : isConnector word = true) :
    ∀ c ∈ word, Text.isWordChar c = true := by
  intro c member
  have listed := toLower_mem_connectorLetters known c member
  exact Text.forall_ascii (fun c => c.toLower ∈ connectorLetters → Text.isWordChar c = true)
    (by decide) (ascii_of_toLower listed) listed

section Lowering

open Text

theorem ascii_of_lowerChar {c d : Char} (member : d ∈ lowerChar c)
    (letter : d.toLower ∈ connectorLetters) : c.toNat < 128 := by
  have ascii : d.toNat < 128 := ascii_of_toLower letter
  by_contra foreign
  by_cases dotted : c.toNat = 0x130
  · rw [lowerChar, if_pos dotted, List.mem_pair] at member
    rcases member with rfl | rfl <;> exact absurd letter (by decide)
  · rw [lowerChar, if_neg dotted, List.mem_singleton] at member
    rcases lowercaseShifts.apply_cases c.toNat with fixed | ⟨run, inTable, maps⟩
    · rw [fixed, Char.ofNat_toNat] at member
      exact foreign (member ▸ ascii)
    · have apart : ∀ run ∈ lowercaseShifts, 128 ≤ run.last →
          128 ≤ run.target ∨ (run.first = run.last ∧ run.target = 107) := by
        decide +kernel
      obtain ⟨above, below, -, image⟩ := maps
      rcases toNat_ofNat_cases (lowercaseShifts.apply c.toNat) with same | null
      · rw [member, same, image] at ascii
        rcases apart run inTable (by omega) with far | ⟨alone, kelvin⟩
        · omega
        · have isK : d = 'k' := by
            rw [member, image, kelvin, show c.toNat - run.first = 0 by omega]
          rw [isK] at letter
          exact absurd letter (by decide)
      · rw [member, null] at letter
        exact absurd letter (by decide)

theorem ascii_of_lowerAfter {before text : List Char}
    (letters : ∀ d ∈ lowerAfter before text, d.toLower ∈ connectorLetters) :
    ∀ c ∈ text, c.toNat < 128 := by
  induction text generalizing before with
  | nil => simp
  | cons c rest ih =>
    rw [lowerAfter] at letters
    obtain ⟨first, later⟩ := List.forall_mem_append.mp letters
    refine List.forall_mem_cons.mpr ⟨?_, ih later⟩
    split at first
    next =>
      have sigmas : 'σ'.toLower ∉ connectorLetters ∧ 'ς'.toLower ∉ connectorLetters := by decide
      split at first
      · exact absurd (first _ List.mem_cons_self) sigmas.2
      · exact absurd (first _ List.mem_cons_self) sigmas.1
    next =>
      have some : lowerChar c ≠ [] := by
        rw [lowerChar]
        split <;> exact List.cons_ne_nil _ _
      obtain ⟨d, member⟩ := List.exists_mem_of_ne_nil _ some
      exact ascii_of_lowerChar member (first d member)

theorem isConnector_lower (word : List Char) : isConnector (lower word) = isConnector word := by
  by_cases ascii : ∀ c ∈ word, c.toNat < 128
  · have again : asciiLower (asciiLower word) = asciiLower word := by
      rw [asciiLower, asciiLower, List.map_map]
      refine List.map_congr_left fun c member => ?_
      exact forall_ascii (fun c => c.toLower.toLower = c.toLower) (by decide) (ascii c member)
    have same (connector : List Char) :
        sameAscii (asciiLower word) connector = sameAscii word connector := by
      rw [sameAscii, again, sameAscii]
    rw [lower, lowerAfter_of_folds fun c member => .inl (ascii c member), isConnector, isConnector,
      Connector.ofWord?, Connector.ofWord?]
    simp only [same]
  · have none : isConnector word = false := by
      rw [Bool.eq_false_iff]
      intro known
      exact ascii fun c member => ascii_of_toLower (toLower_mem_connectorLetters known c member)
    rw [none, Bool.eq_false_iff]
    exact fun known => ascii (ascii_of_lowerAfter (toLower_mem_connectorLetters known))

end Lowering

end ModelCatalog
