import Mathlib.Algebra.Ring.Parity
import ModelCatalog.Proofs.Query.Tokens

/-!
What tokens keep of a query: every character but the blanks outside quotes, in order. Joined by blanks
they are the tokens of the joined text.
-/

namespace ModelCatalog.Query

open Text (visible)

/-- Without a free blank in it, a text opens or closes a quote if it holds an odd number of them. -/
theorem odd_quotes_iff {quoted after : Bool} {text : List Char}
    (whole : quotedAfter? quoted text = some after) : Odd (text.count '"') ↔ after = !quoted := by
  induction text generalizing quoted with
  | nil =>
    obtain rfl := Option.some.inj whole
    simp
  | cons c rest ih =>
    rw [quotedAfter?] at whole
    split at whole
    next quote =>
      rw [quote, List.count_cons_self, Nat.odd_add_one, ih whole]
      cases quoted <;> cases after <;> decide
    next other =>
      rw [List.count_cons_of_ne other]
      split at whole
      next => cases whole
      next => exact ih whole

theorem even_quotes_iff {after : Bool} {text : List Char}
    (whole : quotedAfter? false text = some after) : Even (text.count '"') ↔ after = false := by
  rw [← Nat.not_odd_iff_even, odd_quotes_iff whole]
  cases after <;> decide

theorem ne_quote_of_isBlank {c : Char} (blank : Text.isBlank c = true) : c ≠ '"' := by
  rintro rfl
  exact absurd blank (by decide)

theorem flatten_finish (buffer : List Char) : (finish buffer).flatten = buffer.reverse := by
  rw [finish]
  split
  next empty =>
    obtain rfl := List.isEmpty_iff.mp empty
    rfl
  next => exact List.flatten_singleton

theorem visible_tokensFrom (quoted : Bool) (buffer text : List Char) :
    visible (tokensFrom quoted buffer text).flatten = visible buffer.reverse ++ visible text := by
  induction text generalizing quoted buffer with
  | nil =>
    have pending : visible (tokensFrom quoted buffer []).flatten = visible buffer.reverse := by
      cases quoted with
      | false => exact congrArg visible (flatten_finish buffer)
      | true =>
        change visible (Text.words buffer.reverse).flatten = _
        rw [Text.flatten_words, Text.visible_visible]
    rw [pending]
    exact (List.append_nil _).symm
  | cons c rest ih =>
    have longer : visible (c :: buffer).reverse ++ visible rest =
        visible buffer.reverse ++ visible (c :: rest) := by
      rw [List.reverse_cons, Text.visible_append, List.append_assoc, ← Text.visible_append]
      rfl
    rw [tokensFrom]
    split
    next => rw [ih, longer]
    next =>
      split
      next ends =>
        have blank : Text.isBlank c = true := ((Bool.and_eq_true ..).mp ends).1
        have lost : visible (c :: rest) = visible rest :=
          List.filter_cons_of_neg (by simp [blank])
        rw [List.flatten_append, Text.visible_append, flatten_finish, ih, lost]
        rfl
      next => rw [ih, longer]

theorem visible_tokens (text : List Char) : visible (tokens text).flatten = visible text :=
  visible_tokensFrom false [] text

/-- A token has its quotes closed, or it has no blanks. -/
theorem AreTokens.isClosed_or_isWord {list : List (List Char)} (tokens : AreTokens list)
    {token : List Char} (member : token ∈ list) : IsClosed token ∨ Text.IsWord token := by
  induction tokens with
  | nil => cases member
  | closed isClosed _ ih =>
    rcases List.mem_cons.mp member with rfl | later
    · exact .inl isClosed
    · exact ih later
  | opened isWord _ inner =>
    rcases List.mem_cons.mp member with rfl | later
    · exact .inr isWord
    · exact .inr (inner token later).toIsWord

theorem IsClosed.quotes_around {token front back : List Char} {blank : Char}
    (isClosed : IsClosed token) (split : token = front ++ blank :: back)
    (isBlank : Text.isBlank blank = true) : Odd (front.count '"') ∧ '"' ∈ back := by
  have whole := isClosed.closed
  rw [split, quotedAfter?_append, Option.bind_eq_some_iff] at whole
  obtain ⟨quoted, before, behind⟩ := whole
  rw [quotedAfter?, if_neg (ne_quote_of_isBlank isBlank), isBlank] at behind
  cases quoted with
  | false => cases behind
  | true =>
    obtain ⟨pairs, odd⟩ := (odd_quotes_iff behind).mpr rfl
    exact ⟨(odd_quotes_iff before).mpr rfl, List.count_pos_iff.mp (by omega)⟩

theorem map_toList_tokenize (query : String) :
    (tokenize query).map String.toList = tokens query.toList := by
  rw [tokenize, List.map_map]
  exact List.map_id'' (fun _ => String.toList_ofList) _

/-- Tokenizing loses nothing but the blanks outside quotes: a token keeps its blanks between a quote
that opens and the next one. Joined by blanks, the tokens are the tokens of the joined text. -/
theorem tokenize_conserves (query : String) :
    (∀ token ∈ tokenize query, token ≠ "") ∧
    visible (String.join (tokenize query)).toList = visible query.toList ∧
    (∀ token ∈ tokenize query, ∀ front blank back, token.toList = front ++ blank :: back →
      Text.isBlank blank = true → Odd (front.count '"') ∧ '"' ∈ back) ∧
    tokenize (" ".intercalate (tokenize query)) = tokenize query := by
  have areTokens := areTokens_tokens query.toList
  have formed : ∀ token ∈ tokenize query, IsClosed token.toList ∨ Text.IsWord token.toList := by
    intro token listed
    apply areTokens.isClosed_or_isWord
    rw [← map_toList_tokenize]
    exact List.mem_map_of_mem listed
  refine ⟨?_, ?_, ?_, ?_⟩
  · rintro token listed rfl
    rcases formed "" listed with isClosed | isWord
    · exact isClosed.nonempty rfl
    · exact isWord.nonempty rfl
  · rw [String.toList_join, List.flatMap_def, map_toList_tokenize, visible_tokens]
  · intro token listed front blank back split isBlank
    rcases formed token listed with isClosed | isWord
    · exact isClosed.quotes_around split isBlank
    · have seen := isWord.visible blank (by simp [split])
      rw [isBlank] at seen
      cases seen
  · have joined : (" ".intercalate (tokenize query)).toList =
        [' '].intercalate (tokens query.toList) := by
      rw [String.toList_intercalate, map_toList_tokenize]
      rfl
    rw [tokenize, joined, tokens_intercalate areTokens]
    rfl

end ModelCatalog.Query
