import ModelCatalog.Proofs.Highlight.Terms

/-!
Words that are searched for. They are marked where they stand if lower case takes them letter by letter,
as the comparison with a text does: a dotted capital I becomes two letters, and the small sigma that ends
a word is another letter than the one which a capital sigma is compared as.
-/

namespace ModelCatalog

open TextMatch (keptWords keptWords_append keptWords_word)

/-- Behind the characters of `before`, nearest first, the word holds no dotted capital I, and no capital
sigma that ends a word. -/
structure LowersByLetter (before word : List Char) : Prop where
  undotted : 'İ' ∉ word
  noFinalSigma : ∀ front back, word = front ++ Text.capitalSigma :: back →
    Text.beginsCased (front.reverse ++ before) = true → Text.beginsCased back = true

theorem lowersByLetter_cons_iff (before : List Char) (c : Char) (rest : List Char) :
    LowersByLetter before (c :: rest) ↔
      c ≠ 'İ' ∧ (c = Text.capitalSigma → Text.beginsCased before = true →
        Text.beginsCased rest = true) ∧ LowersByLetter (c :: before) rest := by
  constructor
  · rintro ⟨undotted, noFinalSigma⟩
    rw [List.mem_cons, not_or] at undotted
    refine ⟨fun dotted => undotted.1 dotted.symm, ?_, undotted.2, ?_⟩
    · rintro rfl
      exact noFinalSigma [] rest rfl
    · rintro front back rfl
      simpa using noFinalSigma (c :: front) back rfl
  · rintro ⟨undotted, notFinal, restUndotted, noFinalSigma⟩
    refine ⟨?_, fun front back split => ?_⟩
    · rw [List.mem_cons, not_or]
      exact ⟨fun dotted => undotted dotted.symm, restUndotted⟩
    · cases front with
      | nil =>
        obtain ⟨rfl, rfl⟩ := List.cons.inj split
        exact notFinal rfl
      | cons d front =>
        obtain ⟨rfl, later⟩ := List.cons.inj split
        simpa using noFinalSigma front back later

theorem lowersByLetter_nil (before : List Char) : LowersByLetter before [] :=
  ⟨List.not_mem_nil, fun front back impossible => by simp at impossible⟩

instance LowersByLetter.decidable :
    (before word : List Char) → Decidable (LowersByLetter before word)
  | before, [] => .isTrue (lowersByLetter_nil before)
  | before, c :: rest =>
    have := LowersByLetter.decidable (c :: before) rest
    decidable_of_iff _ (lowersByLetter_cons_iff before c rest).symm

section Letters

theorem sameLetter_lowerChar {c : Char} (undotted : c ≠ 'İ') :
    ∃ d, Text.lowerChar c = [d] ∧ sameLetter c d = true := by
  have notDotted : c.toNat ≠ 0x130 := by
    intro code
    rw [← Char.ofNat_toNat c, code] at undotted
    exact undotted rfl
  have single : Text.lowerChar c = [Char.ofNat (Text.lowercaseShifts.apply c.toNat)] :=
    if_neg notDotted
  refine ⟨_, single, ?_⟩
  have low : Text.IsLow (Char.ofNat (Text.lowercaseShifts.apply c.toNat)) := by
    have stands := Text.lowerChar_standsFor c
    rw [single] at stands
    generalize Char.ofNat (Text.lowercaseShifts.apply c.toNat) = d at stands
    cases stands with
    | same low => exact low
    | letters _ _ all => exact (all d List.mem_cons_self).low
  rw [sameLetter, single, low, beq_self_eq_true, Bool.or_true]

theorem forall₂_lowerAfter {before word : List Char} (byLetter : LowersByLetter before word) :
    List.Forall₂ (fun a b => sameLetter a b = true) word (Text.lowerAfter before word) := by
  induction word generalizing before with
  | nil => exact .nil
  | cons c rest ih =>
    obtain ⟨undotted, notFinal, restByLetter⟩ := (lowersByLetter_cons_iff before c rest).mp byLetter
    rw [Text.lowerAfter]
    split
    next sigma =>
      have inner : ¬(Text.beginsCased before && !Text.beginsCased rest) = true := by
        rw [Bool.and_eq_true, Bool.not_eq_true']
        rintro ⟨cased, ends⟩
        rw [notFinal sigma cased] at ends
        cases ends
      rw [if_neg inner, sigma]
      exact .cons (by decide) (sigma ▸ ih restByLetter)
    next =>
      obtain ⟨d, lowered, same⟩ := sameLetter_lowerChar undotted
      rw [lowered]
      exact .cons same (ih restByLetter)

theorem lowersByLetter_of_forall₂ {before word after front more : List Char}
    (split : word ++ after = front ++ more)
    (same : List.Forall₂ (fun a b => sameLetter a b = true) front (Text.lowerAfter before word)) :
    LowersByLetter before word := by
  induction word generalizing before front with
  | nil => exact lowersByLetter_nil before
  | cons c rest ih =>
    rw [lowersByLetter_cons_iff]
    rw [Text.lowerAfter] at same
    split at same
    next sigma =>
      split at same
      next final =>
        cases same with
        | @cons a _ front _ first _ =>
          obtain ⟨rfl, -⟩ := List.cons.inj split
          rw [sigma] at first
          exact absurd first (by decide)
      next inner =>
        cases same with
        | @cons a _ front _ _ later =>
          obtain ⟨rfl, restSplit⟩ := List.cons.inj split
          refine ⟨by rw [sigma]; decide, fun _ cased => ?_, ih restSplit later⟩
          simpa [cased] using inner
    next notSigma =>
      by_cases dotted : c = 'İ'
      · have lowered : Text.lowerChar c = ['i', Char.ofNat 0x307] := by rw [dotted]; rfl
        rw [lowered] at same
        cases same with
        | @cons a _ front _ first _ =>
          obtain ⟨rfl, -⟩ := List.cons.inj split
          rw [dotted] at first
          exact absurd first (by decide)
      · obtain ⟨d, lowered, -⟩ := sameLetter_lowerChar dotted
        rw [lowered] at same
        cases same with
        | @cons a _ front _ _ later =>
          obtain ⟨rfl, restSplit⟩ := List.cons.inj split
          exact ⟨dotted, fun sigma => absurd sigma notSigma, ih restSplit later⟩

end Letters

theorem LowersByLetter.covers {word : List Char} (byLetter : LowersByLetter [] word)
    (isPrefix : Bool) : (⟨Text.lower word, isPrefix⟩ : HighlightTerm).Covers word :=
  ⟨word, [], (List.append_nil word).symm, forall₂_lowerAfter byLetter, by simp, fun _ => rfl⟩

/-- The term of a word fits where the word stands exactly if it is lowered by letter. -/
theorem HighlightTerm.matchLength?_lower {word after : List Char} (ends : beginsWord after = false)
    (isPrefix : Bool) :
    ((⟨Text.lower word, isPrefix⟩ : HighlightTerm).matchLength? (word ++ after)).isSome = true ↔
      LowersByLetter [] word := by
  constructor
  · intro fits
    obtain ⟨n, found⟩ := Option.isSome_iff_exists.mp fits
    obtain ⟨segment, rest, split, -, ⟨front, tail, rfl, same, -, -⟩, -⟩ :=
      covers_of_matchLength? found
    rw [List.append_assoc] at split
    exact lowersByLetter_of_forall₂ split same
  · intro byLetter
    rw [matchLength?_of_covers (byLetter.covers isPrefix) ends]
    rfl

theorem IsWordRun.mem_keptWords {left word right : List Char} (isRun : IsWordRun false left word right)
    (noConnector : isConnector word = false) : word ∈ keptWords (left ++ word ++ right) := by
  have kept : keptWords word = [word] := by
    rw [keptWords_word isRun.nonempty isRun.wordChars, noConnector]
    rfl
  have before (rest : List Char) : ∃ more, keptWords (left ++ rest) = more ++ keptWords rest := by
    rcases left.eq_nil_or_concat with rfl | ⟨front, mark, rfl⟩
    · exact ⟨[], rfl⟩
    · have notWordChar : Text.isWordChar mark = false := by simpa [endsWord] using isRun.begins
      refine ⟨keptWords front, ?_⟩
      rw [List.concat_eq_append, List.append_assoc, List.singleton_append,
        keptWords_append notWordChar]
  obtain ⟨more, split⟩ := before (word ++ right)
  rw [List.append_assoc, split, List.mem_append]
  right
  cases right with
  | nil =>
    rw [List.append_nil, kept]
    exact List.mem_singleton_self word
  | cons mark rest =>
    rw [keptWords_append isRun.ends, kept]
    exact List.mem_cons_self

namespace Highlighter

/-- A word of a free text that is no connector has a term, which fits where the word stands exactly if
the word is lowered by letter. Then the word is marked wherever it stands by itself, within what is
marked with it; alone, if all terms are words. -/
theorem mark_searched (freeText : String) {token left word right : List Char}
    (inText : token ∈ Text.words freeText.toList) (noConnector : isConnector token = false)
    (split : token = left ++ word ++ right) (isRun : IsWordRun false left word right)
    (wordNoConnector : isConnector word = false) :
    (∃ isPrefix, ⟨Text.lower word, isPrefix⟩ ∈ highlightTerms freeText.toList ∧
      ∀ after, beginsWord after = false →
        (((⟨Text.lower word, isPrefix⟩ : HighlightTerm).matchLength? (word ++ after)).isSome = true ↔
          LowersByLetter [] word)) ∧
    (LowersByLetter [] word → ∀ (text : String) (before after : List Char),
      text.toList = before ++ word ++ after → IsWordRun false before word after →
      ∃ parts : List Stretch,
        (∀ opening closing : String, (ofText freeText opening closing).mark text =
          String.ofList (parts.flatMap (Stretch.shown opening.toList closing.toList))) ∧
        IsMarkedWithin parts before word after ∧
        ((∀ term ∈ highlightTerms freeText.toList, ∀ c ∈ term.chars, Text.isWordChar c = true) →
          IsMarkedAs parts before word after)) := by
  have kept : word ∈ keptWords token := split ▸ isRun.mem_keptWords wordNoConnector
  obtain ⟨isPrefix, listed⟩ := mem_highlightTerms_of_word inText noConnector kept
  refine ⟨⟨isPrefix, listed, fun after ends => HighlightTerm.matchLength?_lower ends isPrefix⟩, ?_⟩
  intro byLetter text before after stands alone
  obtain ⟨parts, marking⟩ :=
    exists_isMarking isWorded_of_mem_highlightTerms false text.toList
  have covers := byLetter.covers isPrefix
  refine ⟨parts, marking.mark_eq, marking.isMarkedWithin stands alone listed covers, fun words => ?_⟩
  exact (marking.isMarkedAs_iff (areWords_highlightTerms words) stands).mpr
    ⟨alone, _, listed, covers⟩

/-- A Greek name with a capital sigma at its start, between a quote and a comma. -/
theorem mark_searched_name :
    let word := "ΣΟΦΙΑ".toList
    let token := ("\"ΣΟΦΙΑ,").toList
    token ∈ Text.words "η \"ΣΟΦΙΑ, AND".toList ∧ isConnector token = false ∧
      token = ['"'] ++ word ++ [','] ∧ IsWordRun false ['"'] word [','] ∧
      isConnector word = false ∧ LowersByLetter [] word ∧
      ∃ parts : List Stretch,
        (ofText "η \"ΣΟΦΙΑ, AND" "<" ">").mark "(ΣΟΦΙΑ)" =
          String.ofList (parts.flatMap (Stretch.shown ['<'] ['>'])) ∧
        IsMarkedWithin parts ['('] word [')'] := by
  intro word token
  have inText : token ∈ Text.words "η \"ΣΟΦΙΑ, AND".toList := by decide +kernel
  have noConnector : isConnector token = false := by decide
  have isRun : IsWordRun false ['"'] word [','] :=
    ⟨by decide, List.all_eq_true.mp (by decide +kernel), by decide +kernel, by decide +kernel⟩
  have wordNoConnector : isConnector word = false := by decide
  have byLetter : LowersByLetter [] word := by decide +kernel
  obtain ⟨-, marks⟩ :=
    mark_searched "η \"ΣΟΦΙΑ, AND" inText noConnector rfl isRun wordNoConnector
  have alone : IsWordRun false ['('] word [')'] :=
    ⟨by decide, isRun.wordChars, by decide +kernel, by decide +kernel⟩
  obtain ⟨parts, shows, within, -⟩ := marks byLetter "(ΣΟΦΙΑ)" ['('] [')'] rfl alone
  exact ⟨inText, noConnector, rfl, isRun, wordNoConnector, byLetter, parts, shows "<" ">", within⟩

/-- A word that ends with a capital sigma is searched for, but is not marked where it stands. -/
theorem mark_misses_final_sigma :
    let word := "ΟΔΟΣ".toList
    word ∈ Text.words "ΟΔΟΣ".toList ∧ isConnector word = false ∧ IsWordRun false [] word [] ∧
      (ofText "ΟΔΟΣ" "<mark>" "</mark>").mark "ΟΔΟΣ" = "ΟΔΟΣ" := by
  intro word
  refine ⟨by decide +kernel, by decide, ?_, by decide +kernel⟩
  exact ⟨by decide, List.all_eq_true.mp (by decide +kernel), by decide, by decide⟩

end Highlighter

end ModelCatalog
