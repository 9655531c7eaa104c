import ModelCatalog.Engine.Suggest
import ModelCatalog.Proofs.Text.Casing
import ModelCatalog.Proofs.Text.Ends
import ModelCatalog.Text.Pattern

/-!
Patterns that quote a text: each of its characters stands for itself, up to the case of ASCII letters,
wildcards and backslashes too.
-/

namespace ModelCatalog

open Suggestion (escape)

namespace Text

section Items

theorem mem_suffixes_iff {rest text : List Char} : rest ∈ suffixes text ↔ rest <:+ text := by
  induction text with
  | nil => simp [suffixes]
  | cons c text ih => rw [suffixes, List.mem_cons, ih, List.suffix_cons_iff]

theorem fitsItems_anyRun (text : List Char) : fitsItems [.anyRun] text = true := by
  rw [fitsItems, List.any_eq_true]
  exact ⟨[], mem_suffixes_iff.mpr List.nil_suffix, rfl⟩

theorem fitsItems_chars (typed text : List Char) :
    fitsItems (typed.map .char ++ [.anyRun]) text = true ↔
      asciiLower typed <+: asciiLower text := by
  induction typed generalizing text with
  | nil => simp [fitsItems_anyRun, asciiLower]
  | cons c typed ih =>
    cases text with
    | nil => simp [fitsItems, asciiLower]
    | cons d text =>
      rw [List.map_cons, List.cons_append, fitsItems, Bool.and_eq_true, beq_iff_eq, ih]
      exact (List.cons_prefix_cons).symm

theorem fitsItems_run_chars (typed text : List Char) :
    fitsItems (.anyRun :: (typed.map .char ++ [.anyRun])) text = true ↔
      asciiLower typed <:+: asciiLower text := by
  calc fitsItems (.anyRun :: (typed.map .char ++ [.anyRun])) text = true
    _ ↔ ∃ rest, rest <:+ text ∧ asciiLower typed <+: asciiLower rest := by
      rw [fitsItems, List.any_eq_true]
      simp only [mem_suffixes_iff, fitsItems_chars]
    _ ↔ ∃ low, asciiLower typed <+: low ∧ low <:+ asciiLower text := by
      constructor
      · rintro ⟨rest, ends, begins⟩
        exact ⟨asciiLower rest, begins, ends.map Char.toLower⟩
      · rintro ⟨low, begins, ends⟩
        obtain ⟨rest, restEnds, rfl⟩ := List.suffix_map_iff.mp ends
        exact ⟨rest, restEnds, begins⟩
    _ ↔ asciiLower typed <:+: asciiLower text := List.infix_iff_prefix_suffix.symm

theorem patternItems_escape_cons (c : Char) (rest : List Char) :
    patternItems (escape [c] ++ rest) = .char c :: patternItems rest := by
  rw [escape, List.flatMap_singleton]
  split
  next => rw [List.cons_append, List.cons_append, patternItems, List.nil_append]
  next other =>
    rw [not_or, not_or] at other
    obtain ⟨notRun, notOne, notBackslash⟩ := other
    rw [List.singleton_append, patternItems] <;> simp_all

theorem escape_cons (c : Char) (typed : List Char) :
    escape (c :: typed) = escape [c] ++ escape typed := by
  rw [escape, List.flatMap_cons, escape, List.flatMap_singleton, escape]

theorem mem_escape {c : Char} {typed : List Char} (member : c ∈ escape typed) :
    c ∈ typed ∨ c = '\\' := by
  obtain ⟨d, typedChar, quoted⟩ := List.mem_flatMap.mp member
  split at quoted
  · rw [List.mem_cons, List.mem_singleton] at quoted
    rcases quoted with rfl | rfl
    · exact Or.inr rfl
    · exact Or.inl typedChar
  · exact Or.inl (List.mem_singleton.mp quoted ▸ typedChar)

theorem patternItems_escape (typed rest : List Char) :
    patternItems (escape typed ++ rest) = typed.map .char ++ patternItems rest := by
  induction typed with
  | nil => rfl
  | cons c typed ih =>
    rw [escape_cons, List.append_assoc, patternItems_escape_cons, ih, List.map_cons,
      List.cons_append]

end Items

/-- The text fits the pattern by what patterns mean, no character being taken for another or for the
end. -/
def fitsAsWritten (pattern text : List Char) : Bool := fitsItems (patternItems pattern) text

theorem fitsAsWritten_start (typed text : List Char) :
    fitsAsWritten (escape typed ++ ['%']) text = true ↔ asciiLower typed <+: asciiLower text := by
  rw [fitsAsWritten, patternItems_escape]
  exact fitsItems_chars typed text

section Compared

def IsOrdinary (c : Char) : Prop := c.toNat ≠ 0 ∧ replaceNoncharacter c = c

instance (c : Char) : Decidable (IsOrdinary c) := inferInstanceAs (Decidable (_ ∧ _))

theorem comparedPart_eq_self {text : List Char} (ordinary : ∀ c ∈ text, IsOrdinary c) :
    comparedPart text = text := by
  rw [comparedPart, untilNul_eq fun c member => (ordinary c member).1]
  exact (List.map_congr_left fun c member => (ordinary c member).2).trans (List.map_id _)

theorem fitsPattern_ordinary {pattern text : List Char} (ordinary : ∀ c ∈ pattern, IsOrdinary c)
    (ordinaryText : ∀ c ∈ text, IsOrdinary c) :
    fitsPattern pattern text = fitsAsWritten pattern text := by
  rw [fitsPattern, comparedPart_eq_self ordinary, comparedPart_eq_self ordinaryText, fitsAsWritten]

theorem comparedPart_cons (c : Char) (text : List Char) :
    comparedPart (c :: text) =
      if c.toNat = 0 then [] else replaceNoncharacter c :: comparedPart text := by
  rw [comparedPart, untilNul_cons]
  split <;> rfl

theorem comparedPart_escape_cons (c : Char) (rest : List Char) :
    comparedPart (escape [c] ++ rest) =
      if c.toNat = 0 then [] else escape [replaceNoncharacter c] ++ comparedPart rest := by
  by_cases special : c = '%' ∨ c = '_' ∨ c = '\\'
  · have ordinary : IsOrdinary c := by rcases special with rfl | rfl | rfl <;> decide
    have backslash : IsOrdinary '\\' := by decide
    rw [if_neg ordinary.1, ordinary.2, escape, List.flatMap_singleton, if_pos special]
    rw [List.cons_append, comparedPart_cons, if_neg backslash.1, backslash.2, List.cons_append,
      comparedPart_cons, if_neg ordinary.1, ordinary.2]
    rfl
  · have plain : ¬(replaceNoncharacter c = '%' ∨ replaceNoncharacter c = '_' ∨
        replaceNoncharacter c = '\\') := by
      rw [replaceNoncharacter]
      split
      · decide
      · exact special
    rw [escape, escape, List.flatMap_singleton, List.flatMap_singleton, if_neg special, if_neg plain]
    exact comparedPart_cons c rest

def compared (text : List Char) : List Char := asciiLower (comparedPart text)

theorem comparedPart_escape_append {typed : List Char} (noNul : HasNoNul typed) (rest : List Char) :
    comparedPart (escape typed ++ rest) = escape (comparedPart typed) ++ comparedPart rest := by
  induction typed with
  | nil => rfl
  | cons c typed ih =>
    obtain ⟨first, later⟩ := List.forall_mem_cons.mp noNul
    rw [escape_cons, List.append_assoc, comparedPart_escape_cons, if_neg first, ih later,
      comparedPart_cons, if_neg first, ← List.append_assoc, ← escape_cons]

theorem fitsPattern_start_iff {typed : List Char} (noNul : HasNoNul typed) (text : List Char) :
    fitsPattern (escape typed ++ ['%']) text = true ↔ compared typed <+: compared text := by
  rw [fitsPattern, comparedPart_escape_append noNul, patternItems_escape]
  exact fitsItems_chars _ _

theorem fitsPattern_anywhere_iff {typed : List Char} (noNul : HasNoNul typed) (text : List Char) :
    fitsPattern ('%' :: escape typed ++ ['%']) text = true ↔ compared typed <:+: compared text := by
  have wildcard : IsOrdinary '%' := by decide
  rw [fitsPattern, List.cons_append, comparedPart_cons, if_neg wildcard.1, wildcard.2,
    comparedPart_escape_append noNul, patternItems, patternItems_escape]
  exact fitsItems_run_chars _ _

theorem toLower_replaceNoncharacter (c : Char) :
    (replaceNoncharacter c).toLower = replaceNoncharacter c.toLower := by
  by_cases ascii : c.toNat < 128
  · have low : c.toLower.toNat < 128 := forall_ascii (fun c => c.toLower.toNat < 128) (by decide) ascii
    rw [replaceNoncharacter, replaceNoncharacter, if_neg (by omega), if_neg (by omega)]
  · have foreign : ¬(replaceNoncharacter c).toNat < 128 := by
      rw [replaceNoncharacter]
      split
      · decide
      · exact ascii
    rw [toLower_of_not_ascii ascii, toLower_of_not_ascii foreign]

theorem compared_eq {text : List Char} (noNul : HasNoNul text) :
    compared text = (asciiLower text).map replaceNoncharacter := by
  rw [compared, comparedPart, untilNul_eq noNul, asciiLower, asciiLower, List.map_map, List.map_map]
  exact List.map_congr_left fun c _ => toLower_replaceNoncharacter c

theorem toLower_toNat_eq_zero {c : Char} : c.toLower.toNat = 0 ↔ c.toNat = 0 := by
  by_cases ascii : c.toNat < 128
  · exact forall_ascii (fun c => c.toLower.toNat = 0 ↔ c.toNat = 0) (by decide) ascii
  · rw [toLower_of_not_ascii ascii]

theorem toLower_compared {c d : Char} (same : c.toLower = d.toLower) :
    (c.toNat = 0 ↔ d.toNat = 0) ∧
      (replaceNoncharacter c).toLower = (replaceNoncharacter d).toLower := by
  constructor
  · rw [← toLower_toNat_eq_zero, same, toLower_toNat_eq_zero]
  · rw [toLower_replaceNoncharacter, same, ← toLower_replaceNoncharacter]

/-- What begins with a text fits the pattern that quotes it and goes on with anything, whatever the
characters. -/
theorem fitsPattern_of_begins {typed text : List Char}
    (begins : asciiLower typed <+: asciiLower text) :
    fitsPattern (escape typed ++ ['%']) text = true := by
  induction typed generalizing text with
  | nil => exact fitsItems_anyRun _
  | cons c typed ih =>
    cases text with
    | nil => simp [asciiLower] at begins
    | cons d text =>
      obtain ⟨same, later⟩ := List.cons_prefix_cons.mp begins
      obtain ⟨ends, alike⟩ := toLower_compared same
      rw [fitsPattern, escape_cons, List.append_assoc, comparedPart_escape_cons, comparedPart_cons]
      by_cases nul : c.toNat = 0
      · rw [if_pos nul, if_pos (ends.mp nul)]
        rfl
      · rw [if_neg nul, if_neg fun other => nul (ends.mpr other), patternItems_escape_cons,
          fitsItems, Bool.and_eq_true, beq_iff_eq]
        exact ⟨alike, ih later⟩

end Compared

end Text

end ModelCatalog
