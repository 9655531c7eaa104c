import ModelCatalog.Proofs.Highlight.Marking
import ModelCatalog.Proofs.TextMatch.NormalForm

/-!
The terms that a free text marks. They are the words in lower case for which its tokens are searched,
and which of them are tried first makes no difference where all of them are words still.
-/

namespace ModelCatalog

open TextMatch (keptWords keptWords_append keptWords_word wordChars_of_mem_keptWords)

namespace HighlightTerm

theorem map_chars_ofWord {buffer : List Char}
    (wordChars : ∀ c ∈ buffer, Text.isWordChar c = true) (isPrefix : Bool) :
    (ofWord buffer isPrefix).map chars = (keptWords buffer.reverse).map Text.lower := by
  rw [ofWord]
  by_cases empty : buffer = []
  · rw [empty]
    rfl
  · have noWord : buffer.isEmpty = false := by simpa using empty
    rw [keptWords_word (by simpa using empty) fun c member => wordChars c (List.mem_reverse.mp member),
      isConnector_lower, noWord, Bool.false_or]
    split <;> rfl

theorem map_chars_ofToken {buffer : List Char}
    (wordChars : ∀ c ∈ buffer, Text.isWordChar c = true) (text : List Char) :
    (ofToken buffer text).map chars = (keptWords (buffer.reverse ++ text)).map Text.lower := by
  induction text generalizing buffer with
  | nil => rw [ofToken, map_chars_ofWord wordChars, List.append_nil]
  | cons c rest ih =>
    rw [ofToken]
    split
    next wordChar =>
      rw [ih (List.forall_mem_cons.mpr ⟨wordChar, wordChars⟩), List.reverse_cons, List.append_assoc]
      rfl
    next other =>
      have notWordChar : Text.isWordChar c = false := by simpa using other
      rw [List.map_append, map_chars_ofWord wordChars, ih (by simp), keptWords_append notWordChar,
        List.map_append]
      rfl

end HighlightTerm

section Derived

variable {freeText : List Char}

theorem mem_highlightTerms_iff {term : HighlightTerm} :
    term ∈ highlightTerms freeText ↔
      ∃ token ∈ Text.words freeText, isConnector token = false ∧
        term ∈ HighlightTerm.ofToken [] token := by
  rw [highlightTerms, List.mem_mergeSort, List.mem_eraseDups]
  simp only [List.mem_flatMap, List.mem_filter, Bool.not_eq_true', and_assoc]

theorem word_of_mem_highlightTerms {term : HighlightTerm} (listed : term ∈ highlightTerms freeText) :
    ∃ token ∈ Text.words freeText, ∃ word ∈ keptWords token, term.chars = Text.lower word := by
  obtain ⟨token, inText, -, derived⟩ := mem_highlightTerms_iff.mp listed
  have chars := List.mem_map_of_mem (f := HighlightTerm.chars) derived
  rw [HighlightTerm.map_chars_ofToken (by simp)] at chars
  obtain ⟨word, kept, lowered⟩ := List.mem_map.mp chars
  exact ⟨token, inText, word, kept, lowered.symm⟩

/-- Every word that is no connector is a term, unless the token as a whole is a connector. -/
theorem mem_highlightTerms_of_word {token : List Char} (inText : token ∈ Text.words freeText)
    (noConnector : isConnector token = false) {word : List Char} (kept : word ∈ keptWords token) :
    ∃ isPrefix, ⟨Text.lower word, isPrefix⟩ ∈ highlightTerms freeText := by
  have chars : Text.lower word ∈ (HighlightTerm.ofToken [] token).map HighlightTerm.chars := by
    rw [HighlightTerm.map_chars_ofToken (by simp)]
    exact List.mem_map_of_mem kept
  obtain ⟨⟨lowered, isPrefix⟩, derived, same⟩ := List.mem_map.mp chars
  obtain rfl : lowered = Text.lower word := same
  exact ⟨isPrefix, mem_highlightTerms_iff.mpr ⟨token, inText, noConnector, derived⟩⟩

theorem beginsWord_lower {word : List Char} (nonempty : word ≠ [])
    (wordChars : ∀ c ∈ word, Text.isWordChar c = true) : beginsWord (Text.lower word) = true := by
  obtain ⟨c, rest, rfl⟩ := List.exists_cons_of_ne_nil nonempty
  rw [Text.lower, Text.lowerAfter]
  split
  next =>
    have sigmas : Text.isWordChar 'ς' = true ∧ Text.isWordChar 'σ' = true := by decide +kernel
    split
    · exact sigmas.1
    · exact sigmas.2
  next =>
    cases lowered : Text.lowerChar c with
    | nil =>
      rw [Text.lowerChar] at lowered
      split at lowered <;> cases lowered
    | cons d more => exact Text.isWordChar_lowerChar (wordChars c List.mem_cons_self) lowered

theorem isWorded_of_mem_highlightTerms :
    ∀ term ∈ highlightTerms freeText, term.IsWorded := by
  intro term listed
  obtain ⟨token, -, word, kept, chars⟩ := word_of_mem_highlightTerms listed
  obtain ⟨nonempty, wordChars⟩ := wordChars_of_mem_keptWords kept
  refine ⟨?_, fun c member => ?_⟩
  · rw [chars]
    exact beginsWord_lower nonempty wordChars
  · rw [chars] at member
    exact (Text.mem_lower member).1

theorem areWords_highlightTerms
    (words : ∀ term ∈ highlightTerms freeText, ∀ c ∈ term.chars, Text.isWordChar c = true) :
    AreWords (highlightTerms freeText) :=
  fun term listed c member =>
    ⟨(isWorded_of_mem_highlightTerms term listed).low c member, words term listed c member⟩

end Derived

namespace Highlighter

/-- A text is marked by putting the markers around some segments of it, which are the same for all
markers, and of which each begins and ends where no word goes on. If the terms are words, the segments
are the runs of word characters that a term covers, in whatever order the terms are tried. -/
theorem mark_faithful (freeText text : String) :
    let terms := highlightTerms freeText.toList
    let marked (opening closing : String) := (ofText freeText opening closing).mark text
    ∃ parts : List Stretch,
      (∀ opening closing, marked opening closing =
        String.ofList (parts.flatMap (Stretch.shown opening.toList closing.toList))) ∧
      marked "" "" = text ∧ Stretch.content parts = text.toList ∧
      (∀ front segment back, parts = front ++ .marked segment :: back →
        segment ≠ [] ∧ endsWord false (Stretch.content front) = false ∧
          beginsWord segment = true ∧ beginsWord (Stretch.content back) = false) ∧
      ((∀ term ∈ terms, ∀ c ∈ term.chars, Text.isWordChar c = true) →
        (∀ before run after, text.toList = before ++ run ++ after →
          (IsMarkedAs parts before run after ↔
            IsWordRun false before run after ∧ ∃ term ∈ terms, term.Covers run)) ∧
        ∀ other : List HighlightTerm, (∀ term, term ∈ other ↔ term ∈ terms) →
          ∀ opening closing : String,
            (⟨other, opening.toList, closing.toList⟩ : Highlighter).mark text =
              marked opening closing) := by
  intro terms marked
  obtain ⟨parts, marking⟩ :=
    exists_isMarking isWorded_of_mem_highlightTerms false text.toList
  have shows (opening closing : String) : marked opening closing =
      String.ofList (parts.flatMap (Stretch.shown opening.toList closing.toList)) :=
    marking.mark_eq opening closing
  refine ⟨parts, shows, ?_, marking.content_eq, ?_, fun words => ⟨?_, ?_⟩⟩
  · rw [shows]
    change String.ofList (parts.flatMap (Stretch.shown [] [])) = text
    rw [Stretch.flatMap_shown_nil, marking.content_eq, String.ofList_toList]
  · rintro front segment back rfl
    obtain ⟨nonempty, fresh, ends, term, listed, covers⟩ := marking.of_marked
    exact ⟨nonempty, fresh, covers.begins (isWorded_of_mem_highlightTerms term listed), ends⟩
  · have areWords := areWords_highlightTerms words
    intro before run after split
    exact marking.isMarkedAs_iff areWords split
  · have areWords := areWords_highlightTerms words
    intro other same opening closing
    have again := marking.congr (areWords.firstMatch?_congr same)
    exact (again.mark_eq opening closing).trans (shows opening closing).symm

/-- A word and a prefix, which mark the same in either order. -/
theorem mark_faithful_gear :
    let terms : List HighlightTerm := [⟨"gea".toList, true⟩, ⟨"box".toList, false⟩]
    highlightTerms "gea* box".toList = terms.reverse ∧
      (∀ term ∈ terms, ∀ c ∈ term.chars, Text.isWordChar c = true) ∧
      (ofText "gea* box" "<" ">").mark "Gearbox, BOX" = "<Gearbox>, <BOX>" ∧
      ∃ parts, Stretch.content parts = "Gearbox, BOX".toList ∧
        IsMarkedAs parts "Gearbox, ".toList "BOX".toList [] := by
  have derived : highlightTerms "gea* box".toList =
      [⟨"box".toList, false⟩, ⟨"gea".toList, true⟩] := by
    let tokens := (Text.words "gea* box".toList).filter fun token => !isConnector token
    have found : (tokens.flatMap (HighlightTerm.ofToken [])).eraseDups =
        [⟨"gea".toList, true⟩, ⟨"box".toList, false⟩] := by decide +kernel
    have later : HighlightTerm.precedes ⟨"gea".toList, true⟩ ⟨"box".toList, false⟩ = false := by
      decide
    rw [highlightTerms, found, List.mergeSort]
    simpa [List.MergeSort.Internal.splitInTwo, List.merge] using later
  intro terms
  have words : ∀ term ∈ terms, ∀ c ∈ term.chars, Text.isWordChar c = true := by
    have all : (terms.all fun term => term.chars.all Text.isWordChar) = true := by decide +kernel
    exact fun term listed => List.all_eq_true.mp (List.all_eq_true.mp all term listed)
  have marks : (⟨terms, "<".toList, ">".toList⟩ : Highlighter).mark "Gearbox, BOX" =
      "<Gearbox>, <BOX>" := by decide +kernel
  have same (term : HighlightTerm) : term ∈ terms ↔ term ∈ highlightTerms "gea* box".toList := by
    rw [derived]
    exact List.mem_reverse.symm
  obtain ⟨parts, -, -, content, -, exactly⟩ := mark_faithful "gea* box" "Gearbox, BOX"
  obtain ⟨marked, anyOrder⟩ := exactly fun term listed => words term ((same term).mpr listed)
  refine ⟨derived, words, (anyOrder terms same "<" ">").symm.trans marks, parts, content, ?_⟩
  have wordChars : ∀ c ∈ "BOX".toList, Text.isWordChar c = true :=
    List.all_eq_true.mp (by decide +kernel)
  refine (marked _ _ _ (by decide)).mpr ⟨⟨by decide, wordChars, by decide, by decide⟩, ?_⟩
  have listed : ⟨"box".toList, false⟩ ∈ terms := by decide
  refine ⟨_, (same _).mp listed, "BOX".toList, [], rfl, ?_, by simp, fun _ => rfl⟩
  decide

end Highlighter

end ModelCatalog
