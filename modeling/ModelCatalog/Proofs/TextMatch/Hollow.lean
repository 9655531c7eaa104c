import Mathlib.Data.List.TakeWhile
import ModelCatalog.TextMatch.Compile

/-!
Texts that compile to nothing. They are not only the empty text and blanks: empty quotes are dropped
as well.
-/

namespace ModelCatalog.TextMatch

/-- The text is made of blanks and empty quotes; the last quote may stay open. -/
def isHollow : List Char → Bool
  | [] => true
  | ['"'] => true
  | '"' :: '"' :: rest => isHollow rest
  | c :: rest => Text.isBlank c && isHollow rest

theorem wordPiece_ne_nil {buffer : List Char} (pending : buffer ≠ []) :
    Pending.wordPiece buffer ≠ [] := by
  rw [Pending.wordPiece, if_neg (by simpa using pending)]
  split <;> simp

theorem phrasePiece_ne_nil {buffer : List Char} (pending : buffer ≠ []) :
    Pending.phrasePiece buffer ≠ [] := by
  rw [Pending.phrasePiece, if_neg (by simpa using pending)]
  simp

theorem piecesFrom_word_ne_nil {buffer : List Char} (pending : buffer ≠ []) (text : List Char) :
    piecesFrom (.word buffer) text ≠ [] := by
  induction text generalizing buffer with
  | nil => exact wordPiece_ne_nil pending
  | cons c rest ih =>
    have piece := wordPiece_ne_nil pending
    rw [piecesFrom]
    split
    · simp [piece]
    split
    · simp
    split
    · simp
    split
    · simp [piece]
    · exact ih (List.cons_ne_nil c buffer)

theorem piecesFrom_phrase_ne_nil {buffer : List Char} (pending : buffer ≠ []) (text : List Char) :
    piecesFrom (.phrase buffer) text ≠ [] := by
  induction text generalizing buffer with
  | nil => exact phrasePiece_ne_nil pending
  | cons c rest ih =>
    have piece := phrasePiece_ne_nil pending
    rw [piecesFrom]
    split
    · simp [piece]
    · exact ih (List.cons_ne_nil c buffer)

theorem piecesFrom_eq_nil_iff (text : List Char) :
    piecesFrom (.word []) text = [] ↔ isHollow text = true := by
  induction text using isHollow.induct with
  | case1 => simp [piecesFrom, Pending.wordPiece, isHollow]
  | case2 => simp [piecesFrom, Pending.wordPiece, Pending.phrasePiece, isHollow]
  | case3 rest ih =>
    rw [isHollow, ← ih]
    simp [piecesFrom, Pending.wordPiece, Pending.phrasePiece]
  | case4 c rest notOpen notEmpty ih =>
    rw [isHollow, Bool.and_eq_true, ← ih]
    · rw [piecesFrom]
      split
      next quote =>
        -- Something stands between the quotes, so that a phrase is pending.
        subst quote
        cases rest with
        | nil => exact absurd rfl (notOpen rfl)
        | cons d rest =>
          have notQuote : d ≠ '"' := fun same => notEmpty rest rfl (same ▸ rfl)
          have phrase := piecesFrom_phrase_ne_nil (List.cons_ne_nil d []) rest
          simp [piecesFrom, notQuote, phrase, show Text.isBlank '"' = false by decide]
      split
      next opening => simp [opening, show Text.isBlank '(' = false by decide]
      split
      next closing => simp [closing, show Text.isBlank ')' = false by decide]
      split
      next blank => simp [blank, Pending.wordPiece]
      next visible =>
        have word := piecesFrom_word_ne_nil (List.cons_ne_nil c []) rest
        simp [word, visible]
    · exact notOpen
    · exact notEmpty

theorem pieces_eq_nil_iff (text : List Char) : pieces text = [] ↔ isHollow text = true :=
  piecesFrom_eq_nil_iff text

theorem renderTerm_ne_nil (term : List Char) : renderTerm term ≠ [] := by
  rw [renderTerm]
  split
  next bare =>
    intro empty
    subst empty
    exact absurd bare (by decide)
  next => simp [quoted]

theorem render_ne_nil (piece : Piece) : piece.render ≠ [] := by
  cases piece with
  | term text => exact renderTerm_ne_nil text
  | phrase text => simp [Piece.render, quoted]
  | connector word => cases word <;> simp [Piece.render, Connector.text]
  | opening => simp [Piece.render]
  | closing => simp [Piece.render]

/-- A text compiles to nothing exactly if it is hollow. -/
theorem compile_eq_empty_iff (text : String) : compile text = "" ↔ isHollow text.toList = true := by
  rw [← pieces_eq_nil_iff, compile]
  cases pieces text.toList with
  | nil => simp [lexemes]
  | cons piece rest =>
    have rendered := render_ne_nil piece
    simp only [reduceCtorEq, iff_false, lexemes]
    intro empty
    have none := congrArg String.toList empty
    rw [String.toList_ofList] at none
    generalize lexemesAfter (!(piece :: rest).any Piece.isConnector) piece rest = more at none
    cases more with
    | nil => simp [rendered] at none
    | cons next more => simp at none

theorem isHollow_of_blank {text : List Char} (blank : ∀ c ∈ text, Text.isBlank c = true) :
    isHollow text = true := by
  induction text with
  | nil => rfl
  | cons c rest ih =>
    have first := blank c List.mem_cons_self
    have notQuote : c ≠ '"' := by
      intro quote
      subst quote
      exact absurd first (by decide)
    rw [isHollow, first, ih fun d member => blank d (List.mem_cons_of_mem c member)]
    · rfl
    · exact fun same => absurd same notQuote
    · exact fun _ same => absurd same notQuote

theorem compile_of_trimmed {text : String} (blank : (trimmed text).isEmpty = true) :
    compile text = "" := by
  have none : Text.trim text.toList = [] := by simpa [trimmed] using blank
  have afterStart : ∀ c ∈ text.toList.dropWhile Text.isBlank, Text.isBlank c = true := by
    simpa [Text.trim, Text.trimEnd, Text.trimStart, List.dropWhile_eq_nil_iff] using none
  rw [compile_eq_empty_iff]
  apply isHollow_of_blank
  intro c member
  rw [← List.takeWhile_append_dropWhile (p := Text.isBlank) (l := text.toList),
    List.mem_append] at member
  rcases member with start | later
  · exact List.mem_takeWhile_imp start
  · exact afterStart c later

end ModelCatalog.TextMatch
