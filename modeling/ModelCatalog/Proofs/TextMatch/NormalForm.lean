import ModelCatalog.Proofs.Query.Tokens
import ModelCatalog.Proofs.Text.WordChars
import ModelCatalog.Proofs.TextMatch.Spelling
import ModelCatalog.TextMatch.Lexeme

/-!
Match expressions in normal form. Compiling an expression, or falling back from it, gives what the
text itself gives; and between the blanks of an expression nothing stands but connectors, parentheses,
barewords and strings.
-/

namespace ModelCatalog.TextMatch

/-! The words that a text is searched for in the end. -/

section Words

def keptWords (text : List Char) : List (List Char) :=
  (plainWords text).filter fun word => !isConnector word

theorem toList_fallback (text : String) :
    (fallback text).toList = " AND ".toList.intercalate ((keptWords text.toList).map quoted) :=
  String.toList_ofList

theorem wordChars_of_mem_keptWords {text word : List Char} (kept : word ∈ keptWords text) :
    word ≠ [] ∧ ∀ c ∈ word, Text.isWordChar c = true := by
  obtain ⟨piece, nonempty⟩ := List.mem_filter.mp (List.mem_filter.mp kept).1
  refine ⟨by simpa using nonempty, fun c inside => ?_⟩
  simpa using Text.not_mem_splitOnP _ text word piece c inside

theorem quote_not_mem_keptWords {text word : List Char} (kept : word ∈ keptWords text) :
    '"' ∉ word := by
  intro inside
  have wordChar := (wordChars_of_mem_keptWords kept).2 _ inside
  have notWordChar : Text.isWordChar '"' = false := by decide
  simp [notWordChar] at wordChar

theorem keptWords_append {mark : Char} (notWordChar : Text.isWordChar mark = false)
    (before after : List Char) :
    keptWords (before ++ mark :: after) = keptWords before ++ keptWords after := by
  have splits : (!Text.isWordChar mark) = true := by rw [notWordChar]; rfl
  rw [keptWords, plainWords, List.splitOnP_append_cons before after splits, List.filter_append,
    List.filter_append]
  rfl

theorem keptWords_cons {mark : Char} (notWordChar : Text.isWordChar mark = false)
    (after : List Char) : keptWords (mark :: after) = keptWords after :=
  keptWords_append notWordChar [] after

theorem keptWords_concat {mark : Char} (notWordChar : Text.isWordChar mark = false)
    (before : List Char) : keptWords (before ++ [mark]) = keptWords before := by
  rw [keptWords_append notWordChar]
  exact List.append_nil _

theorem keptWords_word {word : List Char} (nonempty : word ≠ [])
    (wordChars : ∀ c ∈ word, Text.isWordChar c = true) :
    keptWords word = if isConnector word then [] else [word] := by
  have alone : plainWords word = [word] := by
    rw [plainWords, List.splitOnP_eq_singleton fun c member => by simp [wordChars c member]]
    simp [nonempty]
  rw [keptWords, alone]
  cases connector : isConnector word <;> simp [connector]

theorem keptWords_quoted (text : List Char) : keptWords (quoted text) = keptWords text := by
  rw [quoted, List.cons_append, keptWords_cons (by decide), keptWords_concat (by decide)]

def Piece.words (piece : Piece) : List (List Char) := keptWords piece.render

theorem words_connector (connector : Connector) : (Piece.connector connector).words = [] := by
  cases connector <;> decide

theorem words_term {text : List Char} (isTerm : IsTerm text) :
    (Piece.term text).words = keptWords text := by
  rw [Piece.words, render_term isTerm]
  split
  · rfl
  · exact keptWords_quoted text

theorem words_phrase (text : List Char) : (Piece.phrase text).words = keptWords text :=
  keptWords_quoted text

theorem keptWords_spelled (list : List Piece) : keptWords (spelled list) = list.flatMap Piece.words := by
  induction list with
  | nil => rfl
  | cons piece rest ih =>
    cases rest with
    | nil =>
      rw [spelled, List.map_singleton, List.intercalate_singleton, List.flatMap_singleton]
      rfl
    | cons next rest =>
      rw [spelled_cons piece (List.cons_ne_nil next rest), keptWords_append (by decide), ih,
        List.flatMap_cons]
      rfl

theorem flatMap_wordPiece {buffer : List Char} (termChars : ∀ c ∈ buffer, IsTermChar c) :
    (Pending.wordPiece buffer).flatMap Piece.words = keptWords buffer.reverse := by
  rw [Pending.wordPiece]
  split
  next empty =>
    rw [List.isEmpty_iff.mp empty]
    rfl
  next pending =>
    have nonempty : buffer.reverse ≠ [] := by simpa using pending
    split
    next connector known =>
      have isConnector : isConnector buffer.reverse = true := by simp [isConnector, known]
      rw [List.flatMap_singleton, words_connector,
        keptWords_word nonempty (isWordChar_of_isConnector isConnector), isConnector]
      rfl
    next none =>
      have isTerm : IsTerm buffer.reverse :=
        ⟨nonempty, by simp [isConnector, none], fun c inside => termChars c (List.mem_reverse.mp inside)⟩
      rw [List.flatMap_singleton, words_term isTerm]

theorem flatMap_phrasePiece (buffer : List Char) :
    (Pending.phrasePiece buffer).flatMap Piece.words = keptWords buffer.reverse := by
  rw [Pending.phrasePiece]
  split
  next empty =>
    rw [List.isEmpty_iff.mp empty]
    rfl
  next => rw [List.flatMap_singleton, words_phrase]

def Pending.buffer : Pending → List Char
  | word buffer => buffer
  | phrase buffer => buffer

theorem Ends.words {c : Char} {marks : List Piece} {next : Pending} (ends : Ends c marks next) :
    Text.isWordChar c = false ∧ marks.flatMap Piece.words = [] ∧ next.buffer = [] := by
  cases ends with
  | quote => exact ⟨by decide, rfl, rfl⟩
  | opening => exact ⟨by decide, by decide, rfl⟩
  | closing => exact ⟨by decide, by decide, rfl⟩
  | blank blank => exact ⟨Text.not_isWordChar_of_isBlank blank, rfl, rfl⟩

theorem flatMap_piecesFrom {pending : Pending} (sound : pending.IsSound) (text : List Char) :
    (piecesFrom pending text).flatMap Piece.words = keptWords (pending.buffer.reverse ++ text) := by
  induction text generalizing pending with
  | nil =>
    rw [List.append_nil]
    cases sound with
    | word termChars => exact flatMap_wordPiece termChars
    | @phrase buffer _ => exact flatMap_phrasePiece buffer
  | cons c rest ih =>
    cases sound with
    | @word buffer termChars =>
      rcases piecesFrom_word_cons buffer c rest with
        ⟨isTermChar, goesOn⟩ | ⟨marks, next, ends, parts⟩
      · rw [goesOn, ih (.word (List.forall_mem_cons.mpr ⟨isTermChar, termChars⟩))]
        simp [Pending.buffer]
      · obtain ⟨notWordChar, noWords, empty⟩ := ends.words
        rw [parts, List.flatMap_append, List.flatMap_append, noWords, ih ends.isSound, empty,
          flatMap_wordPiece termChars, Pending.buffer, keptWords_append notWordChar]
        rfl
    | @phrase buffer noQuote =>
      rw [piecesFrom]
      split
      next quote =>
        rw [List.flatMap_append, ih isSound_fresh, flatMap_phrasePiece, Pending.buffer,
          keptWords_append (quote ▸ by decide)]
        rfl
      next other =>
        have stillNone : '"' ∉ c :: buffer := by
          simpa [List.mem_cons, noQuote] using fun same => other same.symm
        rw [ih (.phrase stillNone)]
        simp [Pending.buffer]

theorem flatMap_pieces (text : List Char) : (pieces text).flatMap Piece.words = keptWords text :=
  flatMap_piecesFrom isSound_fresh text

theorem flatMap_joinedAfter (implicit : Bool) (before : Piece) (list : List Piece) :
    (joinedAfter implicit before list).flatMap Piece.words = list.flatMap Piece.words := by
  induction list generalizing before with
  | nil => rfl
  | cons piece rest ih =>
    have joint : (if implicit && isJoint before piece then [Piece.connector .and] else []).flatMap
        Piece.words = [] := by
      split
      · exact words_connector .and
      · rfl
    rw [joinedAfter, List.flatMap_append, joint, List.flatMap_cons, ih]
    rfl

theorem flatMap_joined (list : List Piece) :
    (joined list).flatMap Piece.words = list.flatMap Piece.words := by
  cases list with
  | nil => rfl
  | cons piece rest => rw [joined, List.flatMap_cons, flatMap_joinedAfter, List.flatMap_cons]

theorem keptWords_compile (text : String) :
    keptWords (compile text).toList = keptWords text.toList := by
  rw [toList_compile, keptWords_spelled, flatMap_joined, flatMap_pieces]

end Words

section Fallback

def keptPhrases (text : String) : List Piece := (keptWords text.toList).map .phrase

theorem isOperand_of_mem_keptPhrases {text : String} {piece : Piece}
    (member : piece ∈ keptPhrases text) : piece.IsOperand := by
  obtain ⟨word, -, rfl⟩ := List.mem_map.mp member
  exact .phrase word

theorem isProper_of_mem_keptPhrases {text : String} {piece : Piece}
    (member : piece ∈ joined (keptPhrases text)) : piece.IsProper := by
  rcases mem_joined member with listed | rfl
  · obtain ⟨word, kept, rfl⟩ := List.mem_map.mp listed
    exact ⟨(wordChars_of_mem_keptWords kept).1, quote_not_mem_keptWords kept⟩
  · trivial

variable (text : String)

theorem toList_fallback_spelled : (fallback text).toList = spelled (joined (keptPhrases text)) := by
  rw [toList_fallback, joined_operands fun piece => isOperand_of_mem_keptPhrases, spelled_chained,
    keptPhrases, List.map_map]
  rfl

theorem pieces_fallback : pieces (fallback text).toList = joined (keptPhrases text) := by
  have settled : (keptPhrases text).map Piece.settled = keptPhrases text := by
    rw [keptPhrases, List.map_map]
    rfl
  rw [toList_fallback_spelled, pieces_spelled fun piece => isProper_of_mem_keptPhrases,
    ← joined_settled, settled]

theorem keptWords_fallback : keptWords (fallback text).toList = keptWords text.toList := by
  have alone {words : List (List Char)} (kept : ∀ word ∈ words, word ∈ keptWords text.toList) :
      (words.map Piece.phrase).flatMap Piece.words = words := by
    induction words with
    | nil => rfl
    | cons word rest ih =>
      have listed := kept word List.mem_cons_self
      obtain ⟨nonempty, wordChars⟩ := wordChars_of_mem_keptWords listed
      have noConnector : isConnector word = false := by
        simpa using (List.mem_filter.mp listed).2
      rw [List.map_cons, List.flatMap_cons, words_phrase, keptWords_word nonempty wordChars,
        noConnector, ih fun other later => kept other (List.mem_cons_of_mem word later)]
      rfl
  rw [toList_fallback_spelled, keptWords_spelled, flatMap_joined]
  exact alone fun word kept => kept

theorem compile_fallback : compile (fallback text) = fallback text := by
  rw [← String.toList_inj, toList_compile, pieces_fallback, joined_joined, toList_fallback_spelled]

theorem fallback_congr {text other : String}
    (same : keptWords text.toList = keptWords other.toList) : fallback text = fallback other := by
  rw [← String.toList_inj, toList_fallback, toList_fallback, same]

theorem fallback_compile : fallback (compile text) = fallback text :=
  fallback_congr (keptWords_compile text)

end Fallback

theorem compile_compile (text : String) : compile (compile text) = compile text := by
  have render : (joined (pieces text.toList)).map (Piece.render ∘ Piece.settled) =
      (joined (pieces text.toList)).map Piece.render :=
    List.map_congr_left fun piece member => render_settled (isProper_of_mem_joined member)
  rw [← String.toList_inj, toList_compile, pieces_compile, joined_settled, joined_joined,
    toList_compile, spelled, List.map_map, render]
  rfl

/-! What stands between the blanks. -/

section Parts

/-- What may stand between two blanks of a match expression: a connector, a parenthesis, a bareword,
which may have a star behind it, or a string that is closed. -/
inductive IsPart : List Char → Prop where
  | connector (connector : Connector) : IsPart connector.text
  | opening : IsPart ['(']
  | closing : IsPart [')']
  | bareword {body : List Char} :
    body ≠ [] → (∀ c ∈ body, isExpressionWordChar c = true) → IsPart body
  | starred {body : List Char} :
    body ≠ [] → (∀ c ∈ body, isExpressionWordChar c = true) → IsPart (body ++ ['*'])
  | string {text : List Char} : '"' ∉ text → IsPart (quoted text)

theorem isBareChar_eq (c : Char) : isBareChar c = isExpressionWordChar c := by
  by_cases ascii : c.toNat < 128
  · exact Text.forall_ascii (fun c => isBareChar c = isExpressionWordChar c) (by decide) ascii
  · simp [isBareChar, isExpressionWordChar, ascii]

theorem isBareword_cases {text : List Char} (bare : isBareword text = true) :
    ∃ body, body ≠ [] ∧ (∀ c ∈ body, isExpressionWordChar c = true) ∧ withoutStar text = body ∧
      (text = body ∨ text = body ++ ['*']) := by
  rw [isBareword, Bool.and_eq_true, List.all_eq_true] at bare
  refine ⟨withoutStar text, by simpa using bare.1, ?_, rfl, ?_⟩
  · exact fun c member => isBareChar_eq c ▸ bare.2 c member
  · rw [withoutStar]
    split
    next body turned =>
      right
      rw [← List.reverse_cons, ← turned, List.reverse_reverse]
    next => exact .inl rfl

theorem isPart_render {piece : Piece} (proper : piece.IsProper) : IsPart piece.render := by
  cases piece with
  | term text =>
    rw [render_term proper]
    split
    next bare =>
      obtain ⟨body, nonempty, wordChars, -, rfl | rfl⟩ := isBareword_cases bare
      · exact .bareword nonempty wordChars
      · exact .starred nonempty wordChars
    next => exact .string proper.noQuote
  | phrase text => exact .string proper.2
  | connector connector => exact .connector connector
  | opening => exact .opening
  | closing => exact .closing

theorem quotedAfter?_term {text : List Char} (termChars : ∀ c ∈ text, IsTermChar c) :
    Query.quotedAfter? false text = some false := by
  induction text with
  | nil => rfl
  | cons c rest ih =>
    have first := termChars c List.mem_cons_self
    rw [Query.quotedAfter?, if_neg first.notQuote, if_neg (by simp [first.visible])]
    exact ih fun d later => termChars d (List.mem_cons_of_mem c later)

theorem quotedAfter?_quoted {text : List Char} (noQuote : '"' ∉ text) :
    Query.quotedAfter? false (quoted text) = some false :=
  Query.quotedAfter?_quotes noQuote

theorem isClosed_render {piece : Piece} (proper : piece.IsProper) :
    Query.IsClosed piece.render where
  nonempty := render_ne_nil piece
  closed := by
    cases piece with
    | term text =>
      rw [render_term proper]
      split
      · exact quotedAfter?_term proper.termChars
      · exact quotedAfter?_quoted proper.noQuote
    | phrase text => exact quotedAfter?_quoted proper.2
    | connector connector => cases connector <;> decide
    | opening => decide
    | closing => decide

end Parts

/-- Match expressions are in normal form: to compile one again changes nothing, nor to fall back again
or to compile what was fallen back to, and the words to fall back to are those of the text. An
expression is made of parts with blanks between them, of which only strings hold marks or blanks. -/
theorem compile_settles (text : String) :
    compile (compile text) = compile text ∧
    fallback (fallback text) = fallback text ∧
    compile (fallback text) = fallback text ∧
    fallback (compile text) = fallback text ∧
    ∃ parts, (compile text).toList = [' '].intercalate parts ∧
      Query.tokens (compile text).toList = parts ∧ ∀ part ∈ parts, IsPart part := by
  refine ⟨compile_compile text, fallback_congr (keptWords_fallback text), compile_fallback text,
    fallback_compile text, (joined (pieces text.toList)).map Piece.render,
    toList_compile text, ?_, ?_⟩
  · rw [toList_compile, spelled]
    apply Query.tokens_intercalate
    apply Query.areTokens_closed
    intro part member
    obtain ⟨piece, listed, rfl⟩ := List.mem_map.mp member
    exact isClosed_render (isProper_of_mem_joined listed)
  · intro part member
    obtain ⟨piece, listed, rfl⟩ := List.mem_map.mp member
    exact isPart_render (isProper_of_mem_joined listed)

end ModelCatalog.TextMatch
