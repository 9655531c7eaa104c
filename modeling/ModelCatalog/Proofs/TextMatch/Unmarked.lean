import ModelCatalog.Proofs.Query.NormalForm
import ModelCatalog.Proofs.TextMatch.Grouping

/-!
Free texts without quotes and parentheses. Their pieces are their tokens, of which a connector stands
only between two that are none, so that they are a sentence with the connectors as well as without.
-/

namespace ModelCatalog.TextMatch

structure IsUnmarked (text : String) : Prop where
  noQuote : '"' ∉ text.toList
  noOpening : '(' ∉ text.toList
  noClosing : ')' ∉ text.toList

instance (text : String) : Decidable (IsUnmarked text) :=
  decidable_of_iff ('"' ∉ text.toList ∧ '(' ∉ text.toList ∧ ')' ∉ text.toList)
    ⟨fun ⟨noQuote, noOpening, noClosing⟩ => ⟨noQuote, noOpening, noClosing⟩,
    fun unmarked => ⟨unmarked.noQuote, unmarked.noOpening, unmarked.noClosing⟩⟩

def Piece.ofWord (word : List Char) : Piece :=
  match Connector.ofWord? word with
  | some found => .connector found
  | none => .term word

theorem wordPiece_eq (buffer : List Char) :
    Pending.wordPiece buffer = (Query.finish buffer).map Piece.ofWord := by
  rw [Pending.wordPiece, Query.finish]
  split
  next => rfl
  next =>
    rw [List.map_singleton, Piece.ofWord]
    cases Connector.ofWord? buffer.reverse <;> rfl

theorem piecesFrom_eq_tokens {text : List Char} (noQuote : '"' ∉ text) (noOpening : '(' ∉ text)
    (noClosing : ')' ∉ text) (buffer : List Char) :
    piecesFrom (.word buffer) text =
      (Query.tokensFrom false buffer text).map Piece.ofWord := by
  induction text generalizing buffer with
  | nil => exact wordPiece_eq buffer
  | cons c rest ih =>
    have other {mark : Char} (absent : mark ∉ c :: rest) : c ≠ mark ∧ mark ∉ rest :=
      ⟨fun same => absent (same ▸ List.mem_cons_self),
        fun later => absent (List.mem_cons_of_mem c later)⟩
    obtain ⟨notQuote, restNoQuote⟩ := other noQuote
    obtain ⟨notOpening, restNoOpening⟩ := other noOpening
    obtain ⟨notClosing, restNoClosing⟩ := other noClosing
    have later := ih restNoQuote restNoOpening restNoClosing
    rw [piecesFrom, if_neg notQuote, if_neg notOpening, if_neg notClosing, Query.tokensFrom,
      if_neg notQuote]
    by_cases blank : Text.isBlank c = true
    · rw [if_pos blank, if_pos (by simp [blank]), List.map_append, later, wordPiece_eq]
    · rw [if_neg blank, if_neg (by simp [blank]), later]

theorem pieces_unmarked {query : String} (unmarked : IsUnmarked (Query.parse query).freeText) :
    pieces (Query.parse query).freeText.toList =
      (Query.textTokens false (Query.tokens query.toList)).map Piece.ofWord := by
  rw [← Query.tokens_freeText]
  exact piecesFrom_eq_tokens unmarked.noQuote unmarked.noOpening unmarked.noClosing []

section Leading

open Query (Role role beginsPlain textTokens)

theorem ofWord_of_plain {token : List Char} (plain : role token = .plain) :
    Piece.ofWord token = .term token := by
  have noConnector := (Query.isPlain_iff.mp (beq_iff_eq.mpr plain)).2
  rw [isConnector, Option.isSome_eq_false_iff, Option.isNone_iff_eq_none] at noConnector
  rw [Piece.ofWord, noConnector]

theorem ofWord_of_connector {token : List Char} (connector : role token = .connector) :
    ∃ word, Piece.ofWord token = .connector word := by
  have isConnector := (Query.role_eq_connector.mp connector).2
  obtain ⟨word, read⟩ := Option.isSome_iff_exists.mp isConnector
  exact ⟨word, by rw [Piece.ofWord, read]⟩

theorem textTokens_ne_nil {tokens : List (List Char)} (plain : beginsPlain tokens = true)
    (afterPlain : Bool) : textTokens afterPlain tokens ≠ [] := by
  intro none
  have begins := Query.beginsPlain_textTokens plain afterPlain
  rw [none] at begins
  cases begins

/-- The invariant of the tokens that are kept: a phrase stands last wherever the token before was plain,
so that a connector finds one before it, and leaves a plain token to come. -/
theorem textTokens_lead (afterPlain : Bool) (ending : Ending) (tokens : List (List Char))
    (incomplete : ending ≠ .complete) (behind : afterPlain = true → ending = .phrases) :
    ((textTokens afterPlain tokens).map (Piece.lexeme ∘ Piece.ofWord)).foldlM Place.next?
        ⟨0, ending⟩ =
      some ⟨0, if textTokens afterPlain tokens = [] then ending else .phrases⟩ := by
  induction tokens generalizing afterPlain ending with
  | nil => rfl
  | cons token rest ih =>
    have dropped := ih false ending incomplete (by simp)
    rw [textTokens]
    cases found : role token with
    | predicate _ => exact dropped
    | connector =>
      simp only
      split
      next between =>
        obtain ⟨left, right⟩ := (Bool.and_eq_true ..).mp between
        obtain ⟨word, read⟩ := ofWord_of_connector found
        have more := textTokens_ne_nil right false
        have goesOn := ih false .missing (by decide) (by simp)
        rw [if_neg more] at goesOn
        rw [if_neg (List.cons_ne_nil _ _), behind left, List.map_cons, Function.comp_apply, read,
          List.foldlM_cons]
        exact goesOn
      next => exact dropped
    | plain =>
      have goesOn := ih true .phrases (by decide) fun _ => rfl
      rw [ite_self] at goesOn
      simp only
      rw [if_neg (List.cons_ne_nil _ _), List.map_cons, Function.comp_apply, ofWord_of_plain found,
        List.foldlM_cons]
      have isPhrase := (Piece.IsOperand.term token).isPhrase_lexeme
      rw [Place.next?_of_isPhrase isPhrase, if_neg incomplete]
      exact goesOn

end Leading

theorem isSentence_unmarked {query : String} (unmarked : IsUnmarked (Query.parse query).freeText)
    (nonempty : pieces (Query.parse query).freeText.toList ≠ []) :
    IsSentence ((joined (pieces (Query.parse query).freeText.toList)).map Piece.lexeme) := by
  have split := pieces_unmarked unmarked
  by_cases explicit : (pieces (Query.parse query).freeText.toList).any Piece.isConnector = true
  · rw [joined_of_connector explicit, isSentence_iff, split, List.map_map]
    have leads := textTokens_lead false .missing (Query.tokens query.toList) (by decide) (by simp)
    have kept : Query.textTokens false (Query.tokens query.toList) ≠ [] := by
      rwa [split, ne_eq, List.map_eq_nil_iff] at nonempty
    rw [if_neg kept] at leads
    rw [leads]
    rfl
  · have operands : ∀ piece ∈ pieces (Query.parse query).freeText.toList, piece.IsOperand := by
      intro piece member
      have noConnector : piece.isConnector = false := by
        simp only [List.any_eq_true, not_exists, not_and] at explicit
        simpa using explicit piece member
      rw [split] at member
      obtain ⟨token, -, rfl⟩ := List.mem_map.mp member
      rw [Piece.ofWord] at noConnector ⊢
      cases read : Connector.ofWord? token with
      | some found =>
        rw [read] at noConnector
        cases noConnector
      | none => exact .term token
    exact ((isGrouped_operands operands).isConjunction nonempty).isSentence

end ModelCatalog.TextMatch
