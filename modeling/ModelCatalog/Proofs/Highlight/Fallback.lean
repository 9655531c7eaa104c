import ModelCatalog.Proofs.Highlight.Terms
import ModelCatalog.Proofs.TextMatch.Reading

/-!
Highlighting beside the degraded search. Both look for the same words of a free text, although the one
takes them token by token and the other from the whole text.
-/

namespace ModelCatalog

namespace TextMatch

def Piece.phrase? : Piece → Option (List Char)
  | phrase text => some text
  | _ => none

def quotedTexts (expression : String) : List (List Char) :=
  (pieces expression.toList).filterMap Piece.phrase?

theorem filterMap_joinedAfter (implicit : Bool) (before : Piece) (list : List Piece) :
    (joinedAfter implicit before list).filterMap Piece.phrase? = list.filterMap Piece.phrase? := by
  induction list generalizing before with
  | nil => rfl
  | cons piece rest ih =>
    rw [joinedAfter, List.filterMap_append, List.filterMap_cons, List.filterMap_cons, ih]
    split <;> rfl

theorem quotedTexts_fallback (text : String) :
    quotedTexts (fallback text) = keptWords text.toList := by
  have phrases (words : List (List Char)) :
      (words.map Piece.phrase).filterMap Piece.phrase? = words := by
    rw [List.filterMap_map]
    exact List.filterMap_some
  rw [quotedTexts, pieces_fallback, ← phrases (keptWords text.toList), ← keptPhrases]
  cases keptPhrases text with
  | nil => rfl
  | cons first rest =>
    rw [joined, List.filterMap_cons, filterMap_joinedAfter, List.filterMap_cons]

theorem flatMap_keptWords (text : List Char) :
    (Text.words text).flatMap keptWords = keptWords text := by
  have token {text : List Char} (seen : ∀ c ∈ text, Text.isBlank c = false) :
      (Text.words text).flatMap keptWords = keptWords text := by
    by_cases empty : text = []
    · rw [empty]
      rfl
    · rw [Text.words_of_isWord ⟨empty, seen⟩, List.flatMap_singleton]
  induction length : text.length using Nat.strongRecOn generalizing text with
  | ind n ih =>
    rcases Text.visible_or_first_blank text with seen | ⟨before, blank, after, rfl, isBlank, seen⟩
    · exact token seen
    · have shorter : after.length < n := by
        rw [List.length_append, List.length_cons] at length
        omega
      calc
        _ = (Text.words before).flatMap keptWords ++ (Text.words after).flatMap keptWords := by
          rw [Text.words_append_blank isBlank, List.flatMap_append]
        _ = keptWords before ++ keptWords after := by rw [token seen, ih _ shorter after rfl]
        _ = _ := (keptWords_append (Text.not_isWordChar_of_isBlank isBlank) before after).symm

end TextMatch

open TextMatch (keptWords flatMap_keptWords keptWords_word quotedTexts quotedTexts_fallback)

theorem keptWords_of_isConnector {token : List Char} (connector : isConnector token = true) :
    keptWords token = [] := by
  have nonempty : token ≠ [] := by
    rintro rfl
    cases connector
  rw [keptWords_word nonempty (isWordChar_of_isConnector connector), connector]
  rfl

theorem mem_termTexts_iff {freeText text : List Char} :
    text ∈ (highlightTerms freeText).map HighlightTerm.chars ↔
      text ∈ (keptWords freeText).map Text.lower := by
  rw [← flatMap_keptWords]
  simp only [List.mem_map, List.mem_flatMap]
  constructor
  · rintro ⟨term, listed, rfl⟩
    obtain ⟨token, inText, word, kept, chars⟩ := word_of_mem_highlightTerms listed
    exact ⟨word, ⟨token, inText, kept⟩, chars.symm⟩
  · rintro ⟨word, ⟨token, inText, kept⟩, rfl⟩
    have noConnector : isConnector token = false := by
      by_contra connector
      rw [keptWords_of_isConnector (by simpa using connector)] at kept
      cases kept
    obtain ⟨isPrefix, listed⟩ := mem_highlightTerms_of_word inText noConnector kept
    exact ⟨_, listed, rfl⟩

namespace Highlighter

/-- The texts of the terms are, in lower case, the words that the degraded search quotes. There is
nothing to mark exactly if there is nothing left to search for. -/
theorem terms_fallback (freeText opening closing : String) :
    let highlighter := ofText freeText opening closing
    let degraded := TextMatch.fallback freeText
    (∀ text, text ∈ highlighter.terms.map HighlightTerm.chars ↔
      text ∈ (quotedTexts degraded).map Text.lower) ∧
    (highlighter.isEmpty = true ↔ degraded = "") := by
  intro highlighter degraded
  have same (text : List Char) : text ∈ highlighter.terms.map HighlightTerm.chars ↔
      text ∈ (quotedTexts degraded).map Text.lower := by
    rw [quotedTexts_fallback]
    exact mem_termTexts_iff
  refine ⟨same, ?_⟩
  have empty {list : List (List Char)} : list = [] ↔ ∀ text, text ∉ list :=
    List.eq_nil_iff_forall_not_mem
  calc
    highlighter.isEmpty = true ↔ highlighter.terms.map HighlightTerm.chars = [] := by
      rw [isEmpty, List.isEmpty_iff, List.map_eq_nil_iff]
    _ ↔ (quotedTexts degraded).map Text.lower = [] := by simp only [empty, same]
    _ ↔ keptWords freeText.toList = [] := by rw [List.map_eq_nil_iff, quotedTexts_fallback]
    _ ↔ degraded = "" := (TextMatch.fallback_eq_empty_iff freeText).symm

example : TextMatch.fallback "\"Gear AND box\" or* ÉTÉ" = "\"Gear\" AND \"box\" AND \"ÉTÉ\"" := by
  decide +kernel

end Highlighter

end ModelCatalog
