import ModelCatalog.Proofs.Text.Ends
import ModelCatalog.Proofs.TextMatch.Lexing

/-!
How an index reads what a text compiles to. Its pieces are its lexemes, but a connector in capitals with
a star behind it is malformed, and a string with a NUL character in it is cut off there: with either of
them nothing can be read.
-/

namespace ModelCatalog

namespace TextMatch

open Text (HasNoNul untilNul)

section Pieces

theorem hasNoNul_quoted (text : List Char) : HasNoNul (quoted text) ↔ HasNoNul text := by
  simp [quoted]

theorem hasNoNul_doubleQuotes (text : List Char) : HasNoNul (doubleQuotes text) ↔ HasNoNul text := by
  induction text with
  | nil => rfl
  | cons c rest ih =>
    rw [doubleQuotes, List.flatMap_cons, Text.hasNoNul_append, Text.hasNoNul_cons, ← ih]
    refine and_congr ?_ Iff.rfl
    split
    next quote => simp [quote]
    next => simp

theorem hasNoNul_renderTerm (text : List Char) : HasNoNul (renderTerm text) ↔ HasNoNul text := by
  rw [renderTerm]
  split
  · exact Iff.rfl
  · rw [hasNoNul_quoted, hasNoNul_doubleQuotes]

def AreWithoutNul (list : List Piece) : Prop := ∀ piece ∈ list, HasNoNul piece.render

@[simp] theorem areWithoutNul_nil : AreWithoutNul [] := fun _ none => nomatch none

@[simp] theorem areWithoutNul_cons (piece : Piece) (rest : List Piece) :
    AreWithoutNul (piece :: rest) ↔ HasNoNul piece.render ∧ AreWithoutNul rest :=
  List.forall_mem_cons

@[simp] theorem areWithoutNul_append (list rest : List Piece) :
    AreWithoutNul (list ++ rest) ↔ AreWithoutNul list ∧ AreWithoutNul rest :=
  List.forall_mem_append

@[simp] theorem areWithoutNul_wordPiece (buffer : List Char) :
    AreWithoutNul (Pending.wordPiece buffer) ↔ HasNoNul buffer := by
  rw [Pending.wordPiece]
  split
  next empty => simp [List.isEmpty_iff.mp empty]
  next =>
    split
    next connector found =>
      have known : isConnector buffer.reverse = true := by simp [isConnector, found]
      have noNul : HasNoNul buffer :=
        (Text.hasNoNul_reverse buffer).mp
          (Text.hasNoNul_of_all (isWordChar_of_isConnector known) (by decide))
      have spelled : HasNoNul connector.text := by cases connector <;> decide
      simp [Piece.render, noNul, spelled]
    next => simp [Piece.render, hasNoNul_renderTerm]

@[simp] theorem areWithoutNul_phrasePiece (buffer : List Char) :
    AreWithoutNul (Pending.phrasePiece buffer) ↔ HasNoNul buffer := by
  rw [Pending.phrasePiece]
  split
  next empty => simp [List.isEmpty_iff.mp empty]
  next => simp [Piece.render, hasNoNul_quoted]

theorem areWithoutNul_piecesFrom (pending : Pending) (text : List Char) :
    AreWithoutNul (piecesFrom pending text) ↔ HasNoNul pending.buffer ∧ HasNoNul text := by
  fun_induction piecesFrom pending text with
  | case1 buffer => simp [Pending.buffer]
  | case2 buffer => simp [Pending.buffer]
  | case3 buffer rest ih => simp [Pending.buffer, ih]
  | case4 buffer rest _ ih => simp [Pending.buffer, Piece.render, ih]
  | case5 buffer rest _ _ ih => simp [Pending.buffer, Piece.render, ih]
  | case6 buffer c rest _ _ _ blank ih =>
    simp [Pending.buffer, Text.toNat_ne_zero blank (by decide), ih]
  | case7 buffer c rest _ _ _ _ ih =>
    rw [ih, Pending.buffer, Pending.buffer, Text.hasNoNul_cons, Text.hasNoNul_cons, and_assoc,
      and_left_comm]
  | case8 buffer rest ih => simp [Pending.buffer, ih]
  | case9 buffer c rest _ ih =>
    rw [ih, Pending.buffer, Pending.buffer, Text.hasNoNul_cons, Text.hasNoNul_cons, and_assoc,
      and_left_comm]

theorem areWithoutNul_pieces (text : List Char) : AreWithoutNul (pieces text) ↔ HasNoNul text := by
  rw [pieces, areWithoutNul_piecesFrom]
  exact and_iff_right Text.hasNoNul_nil

theorem areWithoutNul_joined {list : List Piece} (without : AreWithoutNul list) :
    AreWithoutNul (joined list) := by
  intro piece member
  rcases mem_joined member with listed | rfl
  · exact without piece listed
  · decide

theorem hasNoNul_spelled {list : List Piece} (without : AreWithoutNul list) :
    HasNoNul (spelled list) := by
  induction list with
  | nil => exact Text.hasNoNul_nil
  | cons piece rest ih =>
    obtain ⟨first, others⟩ := (areWithoutNul_cons piece rest).mp without
    by_cases alone : rest = []
    · subst alone
      rwa [spelled, List.map_singleton, List.intercalate_singleton]
    · simp [spelled_cons piece alone, first, ih others]

end Pieces

section Reading

theorem lex_spelled {list : List Piece} (proper : ∀ piece ∈ list, piece.IsProper)
    (plain : ∀ piece ∈ list, ¬piece.IsStarredConnector) (without : AreWithoutNul list) :
    lex (spelled list) = .ok (list.map Piece.lexeme) := by
  rw [lex, scan, Text.untilNul_eq (hasNoNul_spelled without), scanFrom_spelled [] proper plain]
  rfl

theorem scanFrom_unterminated (read : List Lexeme) {word : List Char} (free : '"' ∉ word)
    (buffer : List Char) :
    scanFrom read (.string buffer) word = ⟨read.reverse, some .unterminatedString⟩ := by
  induction word generalizing buffer with
  | nil => rw [scanFrom]
  | cons c word ih =>
    have other : c ≠ '"' := fun same => free (same ▸ List.mem_cons_self)
    rw [scanFrom, if_neg other, ih fun inside => free (List.mem_cons_of_mem c inside)]

theorem scanFrom_quoted_of_nul (read : List Lexeme) {word : List Char} (free : '"' ∉ word)
    (nul : ¬HasNoNul word) (rest : List Char) :
    scanFrom read .between (untilNul (quoted word ++ rest)) =
      ⟨read.reverse, some .unterminatedString⟩ := by
  have shape : quoted word ++ rest = ['"'] ++ (word ++ '"' :: rest) := by simp [quoted]
  have mark : HasNoNul ['"'] := by decide
  have opened : scanFrom read .between ('"' :: untilNul word) =
      scanFrom read (.string []) (untilNul word) := by
    rw [scanFrom]
    rfl
  have stillFree : '"' ∉ untilNul word :=
    fun inside => free ((List.takeWhile_prefix _).subset inside)
  rw [shape, Text.untilNul_append mark, Text.untilNul_append_of_nul nul, List.singleton_append,
    opened, scanFrom_unterminated read stillFree]

theorem scanFrom_of_nul (read : List Lexeme) {piece : Piece} (proper : piece.IsProper)
    (nul : ¬HasNoNul piece.render) (rest : List Char) :
    scanFrom read .between (untilNul (piece.render ++ rest)) =
      ⟨read.reverse, some .unterminatedString⟩ := by
  cases piece with
  | term text =>
    have isTerm : IsTerm text := proper
    rw [Piece.render, hasNoNul_renderTerm] at nul
    have notBare : ¬isBareword text = true := by
      intro bare
      obtain ⟨body, -, wordChars, -, text_eq⟩ := isBareword_cases bare
      have noNul : HasNoNul body := Text.hasNoNul_of_all wordChars (by decide)
      rcases text_eq with rfl | rfl
      · exact nul noNul
      · exact nul (by simp [noNul])
    rw [render_term isTerm, if_neg notBare]
    exact scanFrom_quoted_of_nul read isTerm.noQuote nul rest
  | phrase text =>
    rw [Piece.render, hasNoNul_quoted] at nul
    exact scanFrom_quoted_of_nul read proper.2 nul rest
  | connector connector => exact absurd (by cases connector <;> decide) nul
  | opening => exact absurd (by decide) nul
  | closing => exact absurd (by decide) nul

theorem exists_spelled_append (piece : Piece) (rest : List Piece) :
    ∃ tail, spelled (piece :: rest) = piece.render ++ tail := by
  by_cases alone : rest = []
  · subst alone
    exact ⟨[], by rw [spelled, List.map_singleton, List.intercalate_singleton, List.append_nil]⟩
  · exact ⟨_, spelled_cons piece alone⟩

theorem untilNul_spelled_cons {piece : Piece} {rest : List Piece} (noNul : HasNoNul piece.render)
    (nonempty : rest ≠ []) : untilNul (spelled (piece :: rest)) =
      piece.render ++ ' ' :: untilNul (spelled rest) := by
  have blank : HasNoNul [' '] := by decide
  rw [spelled_cons piece nonempty, Text.untilNul_append noNul]
  exact congrArg _ (Text.untilNul_append blank _)

theorem scanFrom_of_starredConnector (read : List Lexeme) {piece : Piece} (noNul : HasNoNul piece.render)
    (isStarred : piece.IsStarredConnector) (rest : List Char) :
    ∃ lexemes, scanFrom read .between (untilNul (piece.render ++ rest)) =
      ⟨lexemes, some .malformed⟩ := by
  obtain ⟨connector, rfl⟩ := isStarred
  have bare : (Piece.term (connector.text ++ ['*'])).render = connector.text ++ ['*'] := by
    cases connector <;> decide
  rw [Text.untilNul_append noNul, bare, List.append_assoc, List.singleton_append,
    scanFrom_starredConnector]
  exact ⟨_, rfl⟩

/-- One starred connector or one NUL makes the whole unreadable, wherever it stands. -/
theorem scanFrom_unreadable (read : List Lexeme) {list : List Piece}
    (proper : ∀ piece ∈ list, piece.IsProper)
    (unreadable : ∃ piece ∈ list, piece.IsStarredConnector ∨ ¬HasNoNul piece.render) :
    ∃ lexemes error, scanFrom read .between (untilNul (spelled list)) = ⟨lexemes, some error⟩ := by
  -- Pieces before the first unreadable one are read; that one ends the scan.
  induction list generalizing read with
  | nil =>
    obtain ⟨piece, impossible, -⟩ := unreadable
    cases impossible
  | cons piece rest ih =>
    obtain ⟨tail, shape⟩ := exists_spelled_append piece rest
    have properPiece := proper piece List.mem_cons_self
    by_cases noNul : HasNoNul piece.render
    · by_cases here : piece.IsStarredConnector
      · rw [shape]
        obtain ⟨lexemes, scanned⟩ := scanFrom_of_starredConnector read noNul here tail
        exact ⟨lexemes, _, scanned⟩
      · obtain ⟨other, listed, cause⟩ := unreadable
        have later : other ∈ rest := by
          refine (List.mem_cons.mp listed).resolve_left ?_
          rintro rfl
          exact cause.elim here (absurd noNul)
        rw [untilNul_spelled_cons noNul (List.ne_nil_of_mem later),
          (spells_render properPiece here).beforeBlank]
        exact ih _ (fun other inRest => proper other (List.mem_cons_of_mem piece inRest))
          ⟨other, later, cause⟩
    · rw [shape, scanFrom_of_nul read properPiece noNul]
      exact ⟨_, _, rfl⟩

end Reading

def IsUnstarred (text : String) : Prop := ∀ piece ∈ pieces text.toList, ¬piece.IsStarredConnector

instance (text : String) : Decidable (IsUnstarred text) :=
  inferInstanceAs (Decidable (∀ piece ∈ pieces text.toList, ¬piece.IsStarredConnector))

section Texts

variable {text : String}

theorem lex_compile (unstarred : IsUnstarred text) (noNul : HasNoNul text.toList) :
    lex (compile text).toList = .ok ((joined (pieces text.toList)).map Piece.lexeme) := by
  rw [toList_compile]
  refine lex_spelled (fun piece => isProper_of_mem_joined) ?_
    (areWithoutNul_joined ((areWithoutNul_pieces text.toList).mpr noNul))
  intro piece member
  rcases mem_joined member with listed | rfl
  · exact unstarred piece listed
  · rintro ⟨connector, impossible⟩
    cases impossible

/-- A starred connector or a NUL in the text leaves nothing that can be read. -/
theorem lex_compile_error (unreadable : ¬(IsUnstarred text ∧ HasNoNul text.toList)) :
    ∃ error, lex (compile text).toList = .error error := by
  have cause : ∃ piece ∈ pieces text.toList, piece.IsStarredConnector ∨ ¬HasNoNul piece.render := by
    by_contra none
    simp only [not_exists, not_and, not_or, not_not] at none
    refine unreadable ⟨fun piece listed => (none piece listed).1, ?_⟩
    exact (areWithoutNul_pieces text.toList).mp fun piece listed => (none piece listed).2
  obtain ⟨piece, listed, cause⟩ := cause
  obtain ⟨lexemes, error, read⟩ := scanFrom_unreadable [] (fun piece => isProper_of_mem_joined)
    ⟨piece, mem_joined_of_mem listed, cause⟩
  refine ⟨error, ?_⟩
  rw [lex, scan, toList_compile, read]

theorem lex_fallback (text : String) :
    lex (fallback text).toList = .ok ((joined (keptPhrases text)).map Piece.lexeme) := by
  rw [toList_fallback_spelled]
  refine lex_spelled (fun piece => isProper_of_mem_keptPhrases) ?_ (areWithoutNul_joined ?_)
  · rintro piece member ⟨connector, rfl⟩
    rcases mem_joined member with listed | impossible
    · simp [keptPhrases] at listed
    · cases impossible
  · intro piece listed
    obtain ⟨word, kept, rfl⟩ := List.mem_map.mp listed
    rw [Piece.render, hasNoNul_quoted]
    exact Text.hasNoNul_of_all (wordChars_of_mem_keptWords kept).2 (by decide)

end Texts

end TextMatch

end ModelCatalog
