import ModelCatalog.Proofs.TextMatch.NormalForm

/-!
How an index reads what pieces spell. Each piece is one lexeme, except that a connector in capitals
with a star behind it, which is spelled like a bareword, cannot be read at all.
-/

namespace ModelCatalog.TextMatch

namespace Piece

def lexeme : Piece → Lexeme
  | term text =>
    if text = nearText then .near
    else if isBareword text then .phrase (withoutStar text) (text.getLast? == some '*')
    else .phrase text false
  | phrase text => .phrase text false
  | connector word => .connector word
  | opening => .opening
  | closing => .closing

/-- A connector as the index spells it, with a star behind it. -/
def IsStarredConnector (piece : Piece) : Prop :=
  ∃ connector : Connector, piece = .term (connector.text ++ ['*'])

end Piece

instance (piece : Piece) : Decidable piece.IsStarredConnector :=
  decidable_of_iff (∃ word ∈ [Connector.and, .or, .not], piece = .term (word.text ++ ['*']))
    ⟨fun ⟨word, _, same⟩ => ⟨word, same⟩, fun ⟨word, same⟩ => ⟨word, by cases word <;> simp, same⟩⟩

section Words

theorem scanFrom_string (read : List Lexeme) {word : List Char} (free : '"' ∉ word)
    (buffer rest : List Char) :
    scanFrom read (.string buffer) (word ++ '"' :: rest) =
      scanFrom read (.quote (word.reverse ++ buffer)) rest := by
  induction word generalizing buffer with
  | nil => simp [scanFrom]
  | cons c word ih =>
    have other : c ≠ '"' := fun same => free (same ▸ List.mem_cons_self)
    have restFree : '"' ∉ word := fun inside => free (List.mem_cons_of_mem c inside)
    rw [List.cons_append, scanFrom, if_neg other, ih restFree]
    simp

theorem scanFrom_quoted (read : List Lexeme) {word : List Char} (free : '"' ∉ word)
    (rest : List Char) :
    scanFrom read .between (quoted word ++ rest) = scanFrom read (.quote word.reverse) rest := by
  have opened : scanFrom read .between ('"' :: (word ++ '"' :: rest)) =
      scanFrom read (.string []) (word ++ '"' :: rest) := by
    rw [scanFrom]
    rfl
  have shape : quoted word ++ rest = '"' :: (word ++ '"' :: rest) := by simp [quoted]
  rw [shape, opened, scanFrom_string read free, List.append_nil]

/-- The text is read as this one lexeme, whether a blank or nothing comes after it. -/
structure Spells (text : List Char) (lexeme : Lexeme) : Prop where
  beforeBlank : ∀ read rest, scanFrom read .between (text ++ ' ' :: rest) =
    scanFrom (lexeme :: read) .between rest
  atEnd : ∀ read, scanFrom read .between text = ⟨read.reverse ++ [lexeme], none⟩

theorem spells_quoted {word : List Char} (free : '"' ∉ word) :
    Spells (quoted word) (.phrase word false) where
  beforeBlank read rest := by
    rw [scanFrom_quoted read free]
    simp only [scanFrom, Reading.close, List.reverse_reverse]
    rfl
  atEnd read := by
    rw [← List.append_nil (quoted word), scanFrom_quoted read free, scanFrom]
    · simp [Reading.close]
    · simp

theorem scanFrom_bareword (read : List Lexeme) {word : List Char}
    (wordChars : ∀ c ∈ word, isExpressionWordChar c = true) (buffer rest : List Char) :
    scanFrom read (.word buffer) (word ++ rest) =
      scanFrom read (.word (word.reverse ++ buffer)) rest := by
  induction word generalizing buffer with
  | nil => rfl
  | cons c word ih =>
    rw [List.cons_append, scanFrom, if_pos (wordChars c List.mem_cons_self),
      ih fun d later => wordChars d (List.mem_cons_of_mem c later)]
    simp

theorem ne_of_isExpressionWordChar {c mark : Char} (wordChar : isExpressionWordChar c = true)
    (notWordChar : isExpressionWordChar mark = false) : c ≠ mark := by
  rintro rfl
  rw [wordChar] at notWordChar
  cases notWordChar

theorem scanFrom_word (read : List Lexeme) {word : List Char} (nonempty : word ≠ [])
    (wordChars : ∀ c ∈ word, isExpressionWordChar c = true) (rest : List Char) :
    scanFrom read .between (word ++ rest) = scanFrom read (.word word.reverse) rest := by
  obtain ⟨c, more, rfl⟩ := List.exists_cons_of_ne_nil nonempty
  have wordChar := wordChars c List.mem_cons_self
  have notMark {mark : Char} (notWordChar : isExpressionWordChar mark = false) : c ≠ mark :=
    ne_of_isExpressionWordChar wordChar notWordChar
  have visible : isExpressionSpace c = false := by
    have space : c ≠ ' ' := notMark (by decide)
    have tab : c ≠ '\t' := notMark (by decide)
    have feed : c ≠ '\n' := notMark (by decide)
    have carriage : c ≠ '\r' := notMark (by decide)
    simp [isExpressionSpace, space, tab, feed, carriage]
  have begins : lexOutside read c = .ok (read, .word [c]) := by
    rw [lexOutside, visible, if_neg (by simp), if_neg (notMark (by decide)),
      if_neg (notMark (by decide)), if_neg (notMark (by decide)),
      if_neg (notMark (by decide)), if_pos wordChar]
  have later := scanFrom_bareword read (fun d member => wordChars d
    (List.mem_cons_of_mem c member)) [c] rest
  rw [List.cons_append, scanFrom, begins, List.reverse_cons]
  exact later

theorem wordLexeme_eq {word : List Char} (other : ∀ connector : Connector, word ≠ connector.text) :
    wordLexeme word = if word = nearText then .near else .phrase word false := by
  rw [wordLexeme, if_neg (other .and), if_neg (other .or), if_neg (other .not)]

theorem ne_text_of_not_isConnector {word : List Char} (noConnector : isConnector word = false)
    (connector : Connector) : word ≠ connector.text := by
  rintro rfl
  rw [isConnector, Connector.ofWord?_text] at noConnector
  cases noConnector

theorem spells_word {word : List Char} (nonempty : word ≠ [])
    (wordChars : ∀ c ∈ word, isExpressionWordChar c = true) {lexeme : Lexeme}
    (same : wordLexeme word = lexeme) : Spells word lexeme where
  beforeBlank read rest := by
    have closed : Reading.close read (.word word.reverse) = lexeme :: read := by
      rw [Reading.close, List.reverse_reverse, same]
    rw [scanFrom_word read nonempty wordChars, scanFrom, if_neg (by decide), closed]
    rfl
  atEnd read := by
    rw [← List.append_nil word, scanFrom_word read nonempty wordChars, scanFrom, Reading.close,
      List.reverse_reverse, same]
    · simp
    · simp

/-- A star behind a word turns its lexeme into a prefix, or is an error. -/
theorem scanFrom_starred (read : List Lexeme) {word : List Char} (nonempty : word ≠ [])
    (wordChars : ∀ c ∈ word, isExpressionWordChar c = true) (rest : List Char) :
    scanFrom read .between (word ++ '*' :: rest) =
      match starred (wordLexeme word :: read) with
      | some read => scanFrom read .between rest
      | none => ⟨(wordLexeme word :: read).reverse, some .malformed⟩ := by
  have closed : Reading.close read (.word word.reverse) = wordLexeme word :: read := by
    rw [Reading.close, List.reverse_reverse]
  have star (read : List Lexeme) : lexOutside read '*' =
      match starred read with
      | some read => .ok (read, .between)
      | none => .error .malformed := rfl
  rw [scanFrom_word read nonempty wordChars, scanFrom, if_neg (by decide)]
  simp only [closed, star]
  cases starred (wordLexeme word :: read) <;> rfl

theorem spells_starred {word : List Char} (nonempty : word ≠ [])
    (wordChars : ∀ c ∈ word, isExpressionWordChar c = true)
    (other : ∀ connector : Connector, word ≠ connector.text) :
    Spells (word ++ ['*']) (.phrase word true) := by
  have turned (read : List Lexeme) :
      starred (wordLexeme word :: read) = some (.phrase word true :: read) := by
    rw [wordLexeme_eq other]
    split
    next same => rw [same, starred]
    next => rfl
  constructor
  · intro read rest
    rw [List.append_assoc, List.singleton_append, scanFrom_starred read nonempty wordChars, turned]
    rfl
  · intro read
    rw [scanFrom_starred read nonempty wordChars, turned]
    simp [scanFrom, Reading.close]

theorem wordLexeme_text (connector : Connector) :
    wordLexeme connector.text = .connector connector := by
  cases connector <;> rfl

theorem text_wordChars (connector : Connector) :
    ∀ c ∈ connector.text, isExpressionWordChar c = true :=
  List.all_eq_true.mp (by cases connector <;> decide)

theorem text_ne_nil (connector : Connector) : connector.text ≠ [] := by
  cases connector <;> decide

theorem scanFrom_starredConnector (read : List Lexeme) (connector : Connector) (rest : List Char) :
    scanFrom read .between (connector.text ++ '*' :: rest) =
      ⟨(.connector connector :: read).reverse, some .malformed⟩ := by
  rw [scanFrom_starred read (text_ne_nil connector) (text_wordChars connector), wordLexeme_text]
  rfl

end Words

theorem spells_term {text : List Char} (isTerm : IsTerm text)
    (plain : ¬(Piece.term text).IsStarredConnector) :
    Spells (Piece.term text).render (Piece.term text).lexeme := by
  have noConnector := ne_text_of_not_isConnector isTerm.noConnector
  rw [render_term isTerm, Piece.lexeme]
  by_cases near : text = nearText
  · have wordChars : ∀ c ∈ text, isExpressionWordChar c = true := by
      rw [near]
      exact List.all_eq_true.mp (by decide)
    rw [if_pos near, if_pos (by rw [near]; decide)]
    apply spells_word isTerm.nonempty wordChars
    rw [wordLexeme_eq noConnector, if_pos near]
  · rw [if_neg near]
    split
    next bare =>
      obtain ⟨body, nonempty, wordChars, body_eq, rfl | rfl⟩ := isBareword_cases bare
      · have noStar : text.getLast? ≠ some '*' := by
          intro last
          exact absurd (wordChars '*' (List.mem_of_getLast? last)) (by decide)
        rw [body_eq, beq_eq_false_iff_ne.mpr noStar]
        apply spells_word nonempty wordChars
        rw [wordLexeme_eq noConnector, if_neg near]
      · rw [body_eq, List.getLast?_concat]
        apply spells_starred nonempty wordChars
        rintro connector rfl
        exact plain ⟨connector, rfl⟩
    next => exact spells_quoted isTerm.noQuote

theorem spells_render {piece : Piece} (proper : piece.IsProper) (plain : ¬piece.IsStarredConnector) :
    Spells piece.render piece.lexeme := by
  cases piece with
  | term text => exact spells_term proper plain
  | phrase text => exact spells_quoted proper.2
  | connector connector =>
    exact spells_word (text_ne_nil connector) (text_wordChars connector) (wordLexeme_text connector)
  | opening => exact ⟨fun read rest => rfl, fun read => by rw [← List.reverse_cons]; rfl⟩
  | closing => exact ⟨fun read rest => rfl, fun read => by rw [← List.reverse_cons]; rfl⟩

theorem scanFrom_spelled (read : List Lexeme) {list : List Piece}
    (proper : ∀ piece ∈ list, piece.IsProper)
    (plain : ∀ piece ∈ list, ¬piece.IsStarredConnector) :
    scanFrom read .between (spelled list) = ⟨read.reverse ++ list.map Piece.lexeme, none⟩ := by
  induction list generalizing read with
  | nil => simp [spelled, scanFrom, Reading.close]
  | cons piece rest ih =>
    have first := spells_render (proper piece List.mem_cons_self) (plain piece List.mem_cons_self)
    by_cases alone : rest = []
    · subst alone
      rw [spelled, List.map_singleton, List.intercalate_singleton, first.atEnd]
      rfl
    · rw [spelled_cons piece alone, first.beforeBlank,
        ih _ (fun other later => proper other (List.mem_cons_of_mem piece later))
          fun other later => plain other (List.mem_cons_of_mem piece later)]
      simp

end ModelCatalog.TextMatch
