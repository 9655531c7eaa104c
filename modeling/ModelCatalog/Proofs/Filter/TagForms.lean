import ModelCatalog.Proofs.Filter.Tags

/-!
The two forms of a tag side by side. A tag is sought in the form in which it is stored exactly if each
of its characters folds alike in both: letter case outside ASCII and blanks other than those that
keywords lose do not.
-/

namespace ModelCatalog

open Text (IsLow isBlank lower)

def isLostBlank (c : Char) : Bool := c == ' ' || c == '\t' || c == '\n'

/-- The character is of ASCII or in lower case, and a blank only if keywords lose it. -/
def FoldsAlike (c : Char) : Prop :=
  (c.toNat < 128 ∨ IsLow c) ∧ (isBlank c = true → isLostBlank c = true)

instance (c : Char) : Decidable (FoldsAlike c) := inferInstanceAs (Decidable (_ ∧ _))

theorem storedTag_eq (text : List Char) :
    storedTag text = (text.map Char.toLower).filter fun c => !isLostBlank c := by
  apply List.filter_congr
  intro c _
  simp [isLostBlank, bne, Bool.and_assoc]

theorem isBlank_of_isLostBlank {c : Char} (lost : isLostBlank c = true) : isBlank c = true := by
  simp only [isLostBlank, Bool.or_eq_true, beq_iff_eq] at lost
  rcases lost with (rfl | rfl) | rfl <;> decide

theorem toLower_blank {c : Char} (blank : isBlank c = true) : c.toLower = c := by
  by_cases ascii : c.toNat < 128
  · have lowered := Text.lowerChar_ascii ascii
    rw [Text.isLow_of_isBlank blank] at lowered
    exact (List.singleton_inj.mp lowered).symm
  · exact Text.toLower_of_not_ascii ascii

theorem toLower_eq_of_not_isLetter {c : Char} (other : ¬Text.IsLetter c.toLower) :
    c.toLower = c := by
  by_cases ascii : c.toNat < 128
  · have stands := Text.lowerChar_standsFor c
    rw [Text.lowerChar_ascii ascii] at stands
    generalize c.toLower = d at other stands
    cases stands with
    | same _ => rfl
    | letters _ _ all => exact absurd (all d List.mem_cons_self) other
  · exact Text.toLower_of_not_ascii ascii

theorem toLower_eq_of_blank {c : Char} (blank : isBlank c.toLower = true) : c.toLower = c := by
  apply toLower_eq_of_not_isLetter
  intro letter
  have visible := letter.visible
  rw [blank] at visible
  cases visible

theorem toLower_eq_comma_iff (c : Char) : c.toLower = ',' ↔ c = ',' := by
  constructor
  · intro comma
    rw [← comma]
    exact (toLower_eq_of_not_isLetter fun letter => letter.notComma comma).symm
  · rintro rfl
    rfl

theorem FoldsAlike.isBlank_eq {c : Char} (alike : FoldsAlike c) :
    isBlank c.toLower = isLostBlank c.toLower := by
  rw [Bool.eq_iff_iff]
  constructor
  · intro blank
    have same := toLower_eq_of_blank blank
    rw [same] at blank ⊢
    exact alike.2 blank
  · exact isBlank_of_isLostBlank

/-- A character that is not lost is stored, so that it folds alike if what is sought holds it too. -/
theorem foldsAlike_of_sought {tag : List Char} (same : soughtTag tag = storedTag tag) {c : Char}
    (member : c ∈ tag) : FoldsAlike c := by
  by_cases lost : isLostBlank c.toLower = true
  · have unchanged := toLower_eq_of_blank (isBlank_of_isLostBlank lost)
    rw [unchanged] at lost
    exact ⟨.inr (Text.isLow_of_isBlank (isBlank_of_isLostBlank lost)), fun _ => lost⟩
  · have stored : c.toLower ∈ storedTag tag := by
      rw [storedTag_eq, List.mem_filter]
      exact ⟨List.mem_map_of_mem member, by simpa using lost⟩
    obtain ⟨inLower, visible⟩ := List.mem_filter.mp (same ▸ stored)
    constructor
    · by_cases ascii : c.toNat < 128
      · exact .inl ascii
      · have low := (Text.mem_lower inLower).1
        rw [Text.toLower_of_not_ascii ascii] at low
        exact .inr low
    · intro blank
      rw [toLower_blank blank, blank] at visible
      cases visible

theorem soughtTag_eq_storedTag_iff (tag : List Char) :
    soughtTag tag = storedTag tag ↔ ∀ c ∈ tag, FoldsAlike c := by
  constructor
  · exact fun same c => foldsAlike_of_sought same
  · intro alike
    rw [soughtTag, lower, Text.lowerAfter_of_folds fun c member => (alike c member).1, storedTag_eq]
    apply List.filter_congr
    intro d member
    obtain ⟨c, inTag, rfl⟩ := List.mem_map.mp member
    rw [(alike c inTag).isBlank_eq]

/-! Spellings of a tag, and the keywords as a list of tags. -/

theorem soughtTag_trim (tag : List Char) : soughtTag (Text.trim tag) = soughtTag tag := by
  obtain ⟨front, back, split, frontBlank, backBlank⟩ := Text.lower_trim tag
  have dropped {blanks : List Char} (blank : ∀ c ∈ blanks, isBlank c = true) :
      blanks.filter (fun c => !isBlank c) = [] := by
    rw [List.filter_eq_nil_iff]
    intro c member
    simp [blank c member]
  rw [soughtTag, soughtTag, split, List.filter_append, List.filter_append, dropped frontBlank,
    dropped backBlank, List.nil_append, List.append_nil]

theorem storedTag_append (a b : List Char) : storedTag (a ++ b) = storedTag a ++ storedTag b := by
  simp [storedTag, Text.asciiLower]

theorem comma_mem_storedTag_iff (text : List Char) : ',' ∈ storedTag text ↔ ',' ∈ text := by
  have kept : isLostBlank ',' = false := rfl
  simp [storedTag_eq, kept, toLower_eq_comma_iff]

theorem storedTag_intercalate (parts : List (List Char)) :
    storedTag ([','].intercalate parts) = [','].intercalate (parts.map storedTag) := by
  have comma : storedTag [','] = [','] := by decide
  induction parts with
  | nil => rfl
  | cons part rest ih =>
    cases rest with
    | nil => simp
    | cons next rest =>
      rw [List.intercalate_cons_cons, storedTag_append, storedTag_append, comma, ih]
      simp only [List.map_cons, List.intercalate_cons_cons]

theorem storedTags_eq (keywords : List Char) :
    storedTags keywords = (keywords.splitOn ',').map storedTag := by
  have parts : keywords.splitOn ',' ≠ [] := List.splitOn_ne_nil ',' keywords
  have free : ∀ part ∈ (keywords.splitOn ',').map storedTag, ',' ∉ part := by
    intro part member inside
    obtain ⟨piece, listed, rfl⟩ := List.mem_map.mp member
    exact delimiter_not_mem_splitOn listed ((comma_mem_storedTag_iff piece).mp inside)
  have whole : [','].intercalate (keywords.splitOn ',') = keywords := List.intercalate_splitOn ','
  rw [storedTags, ← whole, storedTag_intercalate, List.splitOn_intercalate ',' free (by simp),
    whole]

end ModelCatalog
