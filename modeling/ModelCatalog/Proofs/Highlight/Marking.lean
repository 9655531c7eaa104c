import Mathlib.Data.List.Forall2
import Mathlib.Data.List.TakeWhile
import ModelCatalog.Highlight
import ModelCatalog.Proofs.Text.WordChars

/-!
What marking does to a text. It goes through the text once and puts markers around segments: each of
them begins where no word goes on, is covered by a term, and ends where no word goes on. So a word is
marked as a whole or not at all.
-/

namespace ModelCatalog

inductive Stretch where
  | plain (c : Char)
  | marked (segment : List Char)
  deriving DecidableEq, Repr

namespace Stretch

def text : Stretch → List Char
  | plain c => [c]
  | marked segment => segment

def shown (opening closing : List Char) : Stretch → List Char
  | plain c => [c]
  | marked segment => opening ++ segment ++ closing

def content (parts : List Stretch) : List Char := parts.flatMap text

theorem flatMap_shown_nil (parts : List Stretch) : parts.flatMap (shown [] []) = content parts := by
  refine List.flatMap_congr fun part _ => ?_
  cases part with
  | plain c => rfl
  | marked segment => rw [shown, List.nil_append, List.append_nil, text]

end Stretch

def endsWord (inWord : Bool) (text : List Char) : Bool :=
  (text.getLast?.map Text.isWordChar).getD inWord

theorem endsWord_append (inWord : Bool) (front back : List Char) :
    endsWord inWord (front ++ back) = endsWord (endsWord inWord front) back := by
  rw [endsWord, List.getLast?_append]
  cases last : back.getLast? with
  | none => rw [endsWord, last]; rfl
  | some c => rw [endsWord, last]; rfl

theorem endsWord_of_wordChars (inWord : Bool) {text : List Char} (nonempty : text ≠ [])
    (wordChars : ∀ c ∈ text, Text.isWordChar c = true) : endsWord inWord text = true := by
  rw [endsWord, List.getLast?_eq_some_getLast nonempty]
  exact wordChars _ (List.getLast_mem nonempty)

theorem beginsWord_of_wordChars {text : List Char} (nonempty : text ≠ [])
    (wordChars : ∀ c ∈ text, Text.isWordChar c = true) (rest : List Char) :
    beginsWord (text ++ rest) = true := by
  obtain ⟨c, more, rfl⟩ := List.exists_cons_of_ne_nil nonempty
  exact wordChars c List.mem_cons_self

namespace HighlightTerm

/-- The segment is the term but for the case of letters; or it begins with the term, which is a prefix,
and word characters are all that follows. -/
def Covers (term : HighlightTerm) (segment : List Char) : Prop :=
  ∃ front tail, segment = front ++ tail ∧
    List.Forall₂ (fun a b => sameLetter a b = true) front term.chars ∧
    (∀ c ∈ tail, Text.isWordChar c = true) ∧ (term.isPrefix = false → tail = [])

theorem takeWhile_eq_nil_of_not_beginsWord {rest : List Char} (ends : beginsWord rest = false) :
    rest.takeWhile Text.isWordChar = [] := by
  cases rest with
  | nil => rfl
  | cons c rest => exact List.takeWhile_cons_of_neg (by simpa [beginsWord] using ends)

theorem not_beginsWord_dropWhile (text : List Char) :
    beginsWord (text.dropWhile Text.isWordChar) = false := by
  cases rest : text.dropWhile Text.isWordChar with
  | nil => rfl
  | cons c more =>
    have head := List.head?_dropWhile_not Text.isWordChar text
    rw [rest] at head
    simpa [beginsWord] using head

theorem front_iff (term : HighlightTerm) (text : List Char) :
    ((text.take term.chars.length).length = term.chars.length ∧
      ((text.take term.chars.length).zip term.chars).all (fun (a, b) => sameLetter a b) = true) ↔
    List.Forall₂ (fun a b => sameLetter a b = true) (text.take term.chars.length) term.chars := by
  rw [List.forall₂_iff_zip, List.all_eq_true]
  constructor
  · rintro ⟨length, same⟩
    exact ⟨length, fun member => same _ member⟩
  · rintro ⟨length, same⟩
    exact ⟨length, fun pair member => same member⟩

theorem covers_of_matchLength? {term : HighlightTerm} {text : List Char} {n : Nat}
    (found : term.matchLength? text = some n) :
    ∃ segment rest, text = segment ++ rest ∧ segment.length = n ∧ term.Covers segment ∧
      beginsWord rest = false := by
  rw [matchLength?] at found
  simp only [front_iff] at found
  split at found
  next same =>
    have split := (List.take_append_drop term.chars.length text).symm
    have count := same.length_eq
    split at found
    next isPrefix =>
      obtain rfl := Option.some.inj found
      have tail := List.takeWhile_append_dropWhile (p := Text.isWordChar)
        (l := text.drop term.chars.length)
      refine ⟨text.take term.chars.length ++
          (text.drop term.chars.length).takeWhile Text.isWordChar,
        (text.drop term.chars.length).dropWhile Text.isWordChar, ?_, ?_, ?_,
        not_beginsWord_dropWhile _⟩
      · rw [List.append_assoc, tail]
        exact split
      · rw [List.length_append, count]
      · exact ⟨_, _, rfl, same, fun c member => List.mem_takeWhile_imp member, by simp [isPrefix]⟩
    next plain =>
      split at found
      next => cases found
      next ends =>
        obtain rfl := Option.some.inj found
        refine ⟨text.take term.chars.length, text.drop term.chars.length, split, count, ?_,
          by simpa using ends⟩
        exact ⟨_, [], (List.append_nil _).symm, same, by simp, fun _ => rfl⟩
  next => cases found

theorem matchLength?_of_covers {term : HighlightTerm} {segment rest : List Char}
    (covers : term.Covers segment) (ends : beginsWord rest = false) :
    term.matchLength? (segment ++ rest) = some segment.length := by
  obtain ⟨front, tail, rfl, same, wordChars, whole⟩ := covers
  have count : front.length = term.chars.length := same.length_eq
  have taken : (front ++ tail ++ rest).take term.chars.length = front := by
    rw [List.append_assoc, ← count, List.take_left]
  have dropped : (front ++ tail ++ rest).drop term.chars.length = tail ++ rest := by
    rw [List.append_assoc, ← count, List.drop_left]
  rw [matchLength?]
  simp only [front_iff]
  rw [taken, dropped, if_pos same]
  split
  next =>
    rw [List.takeWhile_append_of_pos wordChars, takeWhile_eq_nil_of_not_beginsWord ends,
      List.append_nil, List.length_append, count]
  next plain =>
    obtain rfl := whole (by simpa using plain)
    rw [List.nil_append, if_neg (by simp [ends]), List.append_nil, count]

structure IsWorded (term : HighlightTerm) : Prop where
  begins : beginsWord term.chars = true
  low : ∀ c ∈ term.chars, Text.IsLow c

theorem isWordChar_of_sameLetter {c d : Char} (same : sameLetter c d = true) (low : Text.IsLow d)
    (wordChar : Text.isWordChar d = true) : Text.isWordChar c = true := by
  by_cases isLow : Text.IsLow c
  · rw [sameLetter, isLow, low] at same
    obtain rfl : c = d := by simpa using same
    exact wordChar
  · exact Text.isWordChar_of_not_isLow isLow

theorem Covers.begins {term : HighlightTerm} {segment : List Char} (covers : term.Covers segment)
    (worded : term.IsWorded) : beginsWord segment = true := by
  obtain ⟨front, tail, rfl, same, -, -⟩ := covers
  obtain ⟨begins, low⟩ := worded
  generalize term.chars = chars at same begins low
  cases same with
  | nil => cases begins
  | @cons c d _ _ equal _ =>
    exact isWordChar_of_sameLetter equal (low d List.mem_cons_self) begins

end HighlightTerm

def firstMatch? (terms : List HighlightTerm) (text : List Char) : Option Nat :=
  terms.findSome? fun term => term.matchLength? text

theorem firstMatch?_covers {terms : List HighlightTerm} {text : List Char} {n : Nat}
    (found : firstMatch? terms text = some n) :
    ∃ segment rest, text = segment ++ rest ∧ segment.length = n ∧ beginsWord rest = false ∧
      ∃ term ∈ terms, term.Covers segment := by
  obtain ⟨term, listed, fits⟩ := List.exists_of_findSome?_eq_some found
  obtain ⟨segment, rest, split, length, covers, ends⟩ := HighlightTerm.covers_of_matchLength? fits
  exact ⟨segment, rest, split, length, ends, term, listed, covers⟩

section Marking

variable {terms : List HighlightTerm}

/-- How a text is gone through, where the flag tells that a word goes on: a character is passed, or a
segment is marked that the first of the terms that fits covers. -/
inductive IsMarking (terms : List HighlightTerm) : Bool → List Char → List Stretch → Prop where
  | nil {inWord : Bool} : IsMarking terms inWord [] []
  | plain {inWord : Bool} {c : Char} {rest : List Char} {parts : List Stretch} :
    inWord = true ∨ firstMatch? terms (c :: rest) = none →
      IsMarking terms (endsWord inWord [c]) rest parts →
      IsMarking terms inWord (c :: rest) (.plain c :: parts)
  | marked {segment rest : List Char} {parts : List Stretch} :
    segment ≠ [] → firstMatch? terms (segment ++ rest) = some segment.length →
      IsMarking terms (endsWord false segment) rest parts →
      IsMarking terms false (segment ++ rest) (.marked segment :: parts)

theorem exists_isMarking (worded : ∀ term ∈ terms, term.IsWorded) (inWord : Bool)
    (text : List Char) :
    ∃ parts, IsMarking terms inWord text parts := by
  -- A term holds a character, so that less of the text is left behind a segment that it covers.
  induction length : text.length using Nat.strongRecOn generalizing inWord text with
  | ind n ih =>
    cases text with
    | nil => exact ⟨[], .nil⟩
    | cons c rest =>
      have passed (skipped : inWord = true ∨ firstMatch? terms (c :: rest) = none) :
          ∃ parts, IsMarking terms inWord (c :: rest) parts := by
        obtain ⟨parts, marking⟩ := ih rest.length (by rw [← length]; simp) _ rest rfl
        exact ⟨_, .plain skipped marking⟩
      cases inWord with
      | true => exact passed (.inl rfl)
      | false =>
        cases found : firstMatch? terms (c :: rest) with
        | none => exact passed (.inr found)
        | some count =>
          obtain ⟨segment, after, split, rfl, -, term, listed, covers⟩ := firstMatch?_covers found
          have nonempty : segment ≠ [] := by
            rintro rfl
            cases covers.begins (worded term listed)
          have shorter : after.length < n := by
            have some := List.length_pos_iff.mpr nonempty
            rw [← length, split, List.length_append]
            omega
          obtain ⟨parts, marking⟩ := ih after.length shorter (endsWord false segment) after rfl
          rw [split] at found ⊢
          exact ⟨_, .marked nonempty found marking⟩

theorem IsMarking.markFrom_eq {highlighter : Highlighter} {inWord : Bool} {text : List Char}
    {parts : List Stretch} (marking : IsMarking highlighter.terms inWord text parts) :
    highlighter.markFrom inWord text =
      parts.flatMap (Stretch.shown highlighter.opening highlighter.closing) := by
  induction marking with
  | nil => rw [Highlighter.markFrom, List.flatMap_nil]
  | @plain inWord c rest parts skipped _ ih =>
    have none : (if inWord = true then none else highlighter.matchLength? (c :: rest)) = none := by
      rcases skipped with within | unfit
      · rw [if_pos within]
      · split
        · rfl
        · exact unfit
    rw [Highlighter.markFrom, none, List.flatMap_cons, ← ih]
    rfl
  | @marked segment rest parts nonempty found _ ih =>
    obtain ⟨c, more, rfl⟩ := List.exists_cons_of_ne_nil nonempty
    have count : (if false = true then none else highlighter.matchLength? (c :: (more ++ rest))) =
        some (more.length + 1) := found
    have last : ((c :: more).getLast?.any Text.isWordChar) = endsWord false (c :: more) := by
      rw [endsWord]
      cases (c :: more).getLast? <;> rfl
    rw [List.cons_append, Highlighter.markFrom, count, List.flatMap_cons, ← ih]
    simp only [Nat.add_sub_cancel, List.take_left, List.drop_left, last]
    rfl

theorem IsMarking.mark_eq {text : String} {parts : List Stretch}
    (marking : IsMarking terms false text.toList parts) (opening closing : String) :
    (⟨terms, opening.toList, closing.toList⟩ : Highlighter).mark text =
      String.ofList (parts.flatMap (Stretch.shown opening.toList closing.toList)) := by
  let highlighter : Highlighter := ⟨terms, opening.toList, closing.toList⟩
  have same : IsMarking highlighter.terms false text.toList parts := marking
  exact congrArg String.ofList same.markFrom_eq

theorem IsMarking.content_eq {inWord : Bool} {text : List Char} {parts : List Stretch}
    (marking : IsMarking terms inWord text parts) : Stretch.content parts = text := by
  induction marking with
  | nil => rfl
  | plain _ _ ih => exact congrArg (_ :: ·) ih
  | marked _ _ _ ih => exact congrArg (_ ++ ·) ih

theorem IsMarking.behind {inWord : Bool} {text : List Char} {front back : List Stretch}
    (marking : IsMarking terms inWord text (front ++ back)) :
    IsMarking terms (endsWord inWord (Stretch.content front)) (Stretch.content back) back := by
  induction front generalizing inWord text with
  | nil =>
    have whole := marking.content_eq
    rw [List.nil_append] at marking whole
    rwa [whole]
  | cons part front ih =>
    cases marking with
    | plain _ later =>
      have more := ih later
      rwa [← endsWord_append] at more
    | marked _ _ later =>
      have more := ih later
      rwa [← endsWord_append] at more

theorem IsMarking.of_marked {inWord : Bool} {text : List Char} {front back : List Stretch}
    {segment : List Char} (marking : IsMarking terms inWord text (front ++ .marked segment :: back)) :
    segment ≠ [] ∧ endsWord inWord (Stretch.content front) = false ∧
      beginsWord (Stretch.content back) = false ∧ ∃ term ∈ terms, term.Covers segment := by
  have behind := marking.behind
  have rest : Stretch.content (.marked segment :: back) = segment ++ Stretch.content back := rfl
  rw [rest] at behind
  generalize endsWord inWord (Stretch.content front) = within at behind
  generalize text_eq : segment ++ Stretch.content back = text at behind
  cases behind with
  | marked nonempty found later =>
    have content := later.content_eq
    subst content
    obtain ⟨covered, after, split, length, ends, covers⟩ := firstMatch?_covers found
    obtain ⟨rfl, rfl⟩ := List.append_inj split length.symm
    exact ⟨nonempty, rfl, ends, covers⟩

end Marking

/-- The word characters between the two texts are all that stand there in a row. -/
structure IsWordRun (inWord : Bool) (before run after : List Char) : Prop where
  nonempty : run ≠ []
  wordChars : ∀ c ∈ run, Text.isWordChar c = true
  begins : endsWord inWord before = false
  ends : beginsWord after = false

def IsMarkedWithin (parts : List Stretch) (before word after : List Char) : Prop :=
  ∃ front left right back, parts = front ++ .marked (left ++ word ++ right) :: back ∧
    Stretch.content front ++ left = before ∧ right ++ Stretch.content back = after

theorem IsMarkedWithin.cons {parts : List Stretch} {before word after : List Char}
    (within : IsMarkedWithin parts before word after) (part : Stretch) :
    IsMarkedWithin (part :: parts) (part.text ++ before) word after := by
  obtain ⟨front, left, right, back, rfl, rfl, rfl⟩ := within
  exact ⟨part :: front, left, right, back, rfl, List.append_assoc .., rfl⟩

section Runs

variable {terms : List HighlightTerm}

theorem IsMarking.isMarkedWithin {inWord : Bool} {text : List Char} {parts : List Stretch}
    (marking : IsMarking terms inWord text parts) {before run after : List Char}
    (split : text = before ++ run ++ after) (isRun : IsWordRun inWord before run after)
    {term : HighlightTerm} (listed : term ∈ terms) (covers : term.Covers run) :
    IsMarkedWithin parts before run after := by
  have fits : firstMatch? terms (run ++ after) ≠ none := by
    intro none
    have unfit := List.findSome?_eq_none_iff.mp none term listed
    rw [HighlightTerm.matchLength?_of_covers covers isRun.ends] at unfit
    cases unfit
  have starts {rest : List Char} (suffix : rest <:+ run) (some : rest ≠ []) (more : List Char) :
      beginsWord (rest ++ more) = true :=
    beginsWord_of_wordChars some (fun c member => isRun.wordChars c (suffix.subset member)) more
  induction marking generalizing before with
  | nil =>
    have none := List.append_eq_nil_iff.mp (List.append_eq_nil_iff.mp split.symm).1
    exact absurd none.2 isRun.nonempty
  | @plain inWord c rest parts skipped marking ih =>
    cases before with
    | nil =>
      rw [List.nil_append] at split
      rcases skipped with within | unfit
      · have fresh := isRun.begins
        rw [within] at fresh
        cases fresh
      · rw [split] at unfit
        exact absurd unfit fits
    | cons d before =>
      obtain ⟨rfl, later⟩ := List.cons.inj split
      have begins := isRun.begins
      rw [← List.singleton_append, endsWord_append] at begins
      exact (ih later ⟨isRun.nonempty, isRun.wordChars, begins, isRun.ends⟩).cons (.plain c)
  | @marked segment rest parts nonempty found marking ih =>
    obtain ⟨covered, remaining, same, length, ends, -⟩ := firstMatch?_covers found
    obtain ⟨rfl, rfl⟩ := List.append_inj same length.symm
    rw [List.append_assoc] at split
    rcases List.append_eq_append_iff.mp split with ⟨gap, rfl, rfl⟩ | ⟨gap, rfl, parted⟩
    · have begins := isRun.begins
      rw [endsWord_append] at begins
      rw [← List.append_assoc] at ih
      exact (ih rfl ⟨isRun.nonempty, isRun.wordChars, begins, isRun.ends⟩).cons (.marked segment)
    · rcases List.append_eq_append_iff.mp parted with ⟨right, rfl, rfl⟩ | ⟨later, rfl, rfl⟩
      · refine ⟨[], before, right, parts, by simp, rfl, ?_⟩
        rw [marking.content_eq]
      · by_cases whole : later = []
        · subst whole
          refine ⟨[], before, [], parts, by simp, rfl, ?_⟩
          rw [marking.content_eq]
          rfl
        · rw [starts (List.suffix_append gap later) whole after] at ends
          cases ends

end Runs

def IsMarkedAs (parts : List Stretch) (before run after : List Char) : Prop :=
  ∃ front back, parts = front ++ .marked run :: back ∧ Stretch.content front = before ∧
    Stretch.content back = after

def AreWords (terms : List HighlightTerm) : Prop :=
  ∀ term ∈ terms, ∀ c ∈ term.chars, Text.IsLow c ∧ Text.isWordChar c = true

theorem exists_sameLetter {front chars : List Char}
    (same : List.Forall₂ (fun a b => sameLetter a b = true) front chars) {c : Char}
    (member : c ∈ front) : ∃ d ∈ chars, sameLetter c d = true := by
  induction same with
  | nil => cases member
  | @cons a b _ _ equal _ ih =>
    rcases List.mem_cons.mp member with rfl | later
    · exact ⟨b, List.mem_cons_self, equal⟩
    · obtain ⟨d, inRest, equal⟩ := ih later
      exact ⟨d, List.mem_cons_of_mem b inRest, equal⟩

section Words

variable {terms : List HighlightTerm} (areWords : AreWords terms)
include areWords

theorem AreWords.wordChars {term : HighlightTerm} (listed : term ∈ terms) {segment : List Char}
    (covers : term.Covers segment) : ∀ c ∈ segment, Text.isWordChar c = true := by
  obtain ⟨front, tail, rfl, same, tailChars, -⟩ := covers
  intro c member
  rcases List.mem_append.mp member with early | late
  · obtain ⟨d, inTerm, equal⟩ := exists_sameLetter same early
    obtain ⟨low, wordChar⟩ := areWords term listed d inTerm
    exact HighlightTerm.isWordChar_of_sameLetter equal low wordChar
  · exact tailChars c late

/-- Terms that are words mark the runs that one of them covers, and nothing else. -/
theorem IsMarking.isMarkedAs_iff {inWord : Bool} {text : List Char} {parts : List Stretch}
    (marking : IsMarking terms inWord text parts) {before run after : List Char}
    (split : text = before ++ run ++ after) :
    IsMarkedAs parts before run after ↔
      IsWordRun inWord before run after ∧ ∃ term ∈ terms, term.Covers run := by
  constructor
  · rintro ⟨front, back, rfl, rfl, rfl⟩
    obtain ⟨nonempty, begins, ends, term, listed, covers⟩ := marking.of_marked
    exact ⟨⟨nonempty, areWords.wordChars listed covers, begins, ends⟩, term, listed, covers⟩
  · rintro ⟨isRun, term, listed, covers⟩
    obtain ⟨front, left, right, back, rfl, rfl, rfl⟩ :=
      marking.isMarkedWithin split isRun listed covers
    obtain ⟨-, -, -, wider, among, coversAll⟩ := marking.of_marked
    have wordChars := areWords.wordChars among coversAll
    have noLeft : left = [] := by
      by_contra some
      have begins := isRun.begins
      rw [endsWord_append, endsWord_of_wordChars _ some fun c member => wordChars c (by simp [member])]
        at begins
      cases begins
    have noRight : right = [] := by
      by_contra some
      have ends := isRun.ends
      rw [beginsWord_of_wordChars some fun c member => wordChars c (by simp [member])] at ends
      cases ends
    subst noLeft noRight
    exact ⟨front, back, by simp, by simp, rfl⟩

theorem AreWords.firstMatch?_eq_some_iff (text : List Char) (n : Nat) :
    firstMatch? terms text = some n ↔
      ∃ run rest, text = run ++ rest ∧ run.length = n ∧ beginsWord rest = false ∧
        ∃ term ∈ terms, term.Covers run := by
  have start {run rest : List Char} {term : HighlightTerm} (listed : term ∈ terms)
      (covers : term.Covers run) (ends : beginsWord rest = false) :
      (run ++ rest).takeWhile Text.isWordChar = run := by
    rw [List.takeWhile_append_of_pos (areWords.wordChars listed covers),
      HighlightTerm.takeWhile_eq_nil_of_not_beginsWord ends, List.append_nil]
  constructor
  · exact firstMatch?_covers
  · rintro ⟨run, rest, rfl, rfl, ends, term, listed, covers⟩
    cases found : firstMatch? terms (run ++ rest) with
    | none =>
      have unfit := List.findSome?_eq_none_iff.mp found term listed
      rw [HighlightTerm.matchLength?_of_covers covers ends] at unfit
      cases unfit
    | some count =>
      obtain ⟨other, after, same, rfl, otherEnds, among, otherListed, otherCovers⟩ :=
        firstMatch?_covers found
      have first := start listed covers ends
      rw [same, start otherListed otherCovers otherEnds] at first
      rw [first]

theorem AreWords.firstMatch?_congr {other : List HighlightTerm}
    (same : ∀ term, term ∈ other ↔ term ∈ terms) (text : List Char) :
    firstMatch? other text = firstMatch? terms text := by
  have otherWords : AreWords other := fun term listed => areWords term ((same term).mp listed)
  apply Option.ext
  intro n
  rw [otherWords.firstMatch?_eq_some_iff, areWords.firstMatch?_eq_some_iff]
  simp only [same]

end Words

theorem IsMarking.congr {terms other : List HighlightTerm} {inWord : Bool} {text : List Char}
    {parts : List Stretch} (marking : IsMarking terms inWord text parts)
    (same : ∀ text, firstMatch? other text = firstMatch? terms text) :
    IsMarking other inWord text parts := by
  induction marking with
  | nil => exact .nil
  | plain skipped _ ih => exact .plain (by rwa [same]) ih
  | marked nonempty found _ ih => exact .marked nonempty (by rwa [same]) ih

end ModelCatalog
