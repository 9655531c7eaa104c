import ModelCatalog.Proofs.Text.Casing
import ModelCatalog.Proofs.Text.Words

/-!
Trimmed texts: those with no blank at either end. Trimming makes them, leaves them as they are, and
cannot be told from a text in lower case.
-/

namespace ModelCatalog

namespace Text

structure IsTrimmed (text : List Char) : Prop where
  starts : text.head?.map isBlank ≠ some true
  ends : text.getLast?.map isBlank ≠ some true

theorem head_dropWhile_isBlank (text : List Char) :
    (text.dropWhile isBlank).head?.map isBlank ≠ some true := by
  intro blank
  obtain ⟨c, first, isBlank⟩ := Option.map_eq_some_iff.mp blank
  have visible := List.head?_dropWhile_not Text.isBlank text
  simp [first, isBlank] at visible

namespace IsTrimmed

variable {text : List Char}

theorem trim_eq (isTrimmed : IsTrimmed text) : trim text = text := by
  apply trim_eq_self
  · intro c first
    simpa [Option.mem_def.mp first] using isTrimmed.starts
  · intro c last
    simpa [Option.mem_def.mp last] using isTrimmed.ends

theorem trim (text : List Char) : IsTrimmed (trim text) := by
  constructor
  · intro blank
    obtain ⟨c, first, isBlank⟩ := Option.map_eq_some_iff.mp blank
    have front : Text.trim text <+: trimStart text := by
      rw [← List.reverse_suffix, Text.trim, trimEnd, List.reverse_reverse]
      exact List.dropWhile_suffix _
    obtain ⟨back, whole⟩ := front
    apply head_dropWhile_isBlank text
    rw [← trimStart, ← whole, List.head?_append, first]
    exact congrArg some isBlank
  · rw [Text.trim, trimEnd, List.getLast?_reverse]
    exact head_dropWhile_isBlank _

end IsTrimmed

theorem StandsFor.blank {c : Char} {front : List Char} (stands : StandsFor c front) :
    front ≠ [] ∧ ∀ d ∈ front, isBlank d = isBlank c := by
  cases stands with
  | same _ => simp
  | letters visible nonempty all =>
    exact ⟨nonempty, fun d member => (all d member).visible.trans visible.symm⟩

theorem head_lowerAfter (before text : List Char) :
    (lowerAfter before text).head?.map isBlank = text.head?.map isBlank := by
  cases text with
  | nil => rfl
  | cons c rest =>
    obtain ⟨front, stands, parts⟩ := lowerAfter_cons before c rest
    obtain ⟨nonempty, alike⟩ := stands.blank
    obtain ⟨d, more, rfl⟩ := List.exists_cons_of_ne_nil nonempty
    rw [parts]
    exact congrArg some (alike d List.mem_cons_self)

theorem getLast_lowerAfter (before text : List Char) :
    (lowerAfter before text).getLast?.map isBlank = text.getLast?.map isBlank := by
  induction text generalizing before with
  | nil => rfl
  | cons c rest ih =>
    obtain ⟨front, stands, parts⟩ := lowerAfter_cons before c rest
    obtain ⟨nonempty, alike⟩ := stands.blank
    have last : front.getLast?.map isBlank = some (isBlank c) := by
      rw [List.getLast?_eq_some_getLast nonempty]
      exact congrArg some (alike _ (List.getLast_mem nonempty))
    rw [parts, List.getLast?_append, Option.map_or, ih, last, ← List.singleton_append,
      List.getLast?_append, Option.map_or]
    rfl

/-- Blanks at the ends are there in lower case just as well. -/
theorem isTrimmed_lower_iff (text : List Char) : IsTrimmed (lower text) ↔ IsTrimmed text := by
  have starts := head_lowerAfter [] text
  have ends := getLast_lowerAfter [] text
  constructor
  · rintro ⟨first, last⟩
    exact ⟨starts ▸ first, ends ▸ last⟩
  · rintro ⟨first, last⟩
    exact ⟨starts.symm ▸ first, ends.symm ▸ last⟩

end Text

@[simp] theorem trimmed_trimmed (text : String) : trimmed (trimmed text) = trimmed text := by
  rw [trimmed, trimmed, String.toList_ofList, (Text.IsTrimmed.trim text.toList).trim_eq]

theorem trimmed_of_lowered_eq {text other : String} (same : lowered text = lowered other)
    (isTrimmed : trimmed other = other) : trimmed text = text := by
  have inLower : Text.lower text.toList = Text.lower other.toList := by
    simpa [lowered] using congrArg String.toList same
  have ends : Text.IsTrimmed other.toList := by
    rw [← isTrimmed, trimmed, String.toList_ofList]
    exact .trim other.toList
  rw [← Text.isTrimmed_lower_iff, ← inLower, Text.isTrimmed_lower_iff] at ends
  rw [trimmed, ends.trim_eq, String.ofList_toList]

end ModelCatalog
