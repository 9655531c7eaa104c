import ModelCatalog.Proofs.Text.Words
import ModelCatalog.Query.Parsed

/-!
What a query is split into, and that it can be put together again: tokens of a query, or some of
them, are the tokens of the text that they make joined by blanks.
-/

namespace ModelCatalog.Query

open Text (IsWord words)

/-- Whether a quote is open after the text, which is nothing if a blank ends the token before. -/
def quotedAfter? (quoted : Bool) : List Char → Option Bool
  | [] => some quoted
  | c :: rest =>
    if c = '"' then quotedAfter? (!quoted) rest
    else if Text.isBlank c && !quoted then none
    else quotedAfter? quoted rest

theorem quotedAfter?_append (quoted : Bool) (text more : List Char) :
    quotedAfter? quoted (text ++ more) =
      (quotedAfter? quoted text).bind fun after => quotedAfter? after more := by
  induction text generalizing quoted with
  | nil => rfl
  | cons c rest ih =>
    rw [List.cons_append, quotedAfter?, quotedAfter?]
    split
    next => exact ih _
    next =>
      split
      · rfl
      · exact ih _

/-- No blank ends a word, and a quote before it turns all its quotes around. -/
theorem quotedAfter?_not {word : List Char} (visible : ∀ c ∈ word, Text.isBlank c = false)
    (quoted : Bool) : quotedAfter? (!quoted) word = (quotedAfter? quoted word).map not := by
  induction word generalizing quoted with
  | nil => rfl
  | cons c rest ih =>
    have restVisible : ∀ d ∈ rest, Text.isBlank d = false :=
      fun d later => visible d (List.mem_cons_of_mem c later)
    rw [quotedAfter?, quotedAfter?, visible c List.mem_cons_self]
    split
    · exact ih restVisible _
    · exact ih restVisible _

theorem quotedAfter?_quotes {text : List Char} (noQuote : '"' ∉ text) :
    quotedAfter? false ('"' :: text ++ ['"']) = some false := by
  have inside : quotedAfter? true text = some true := by
    induction text with
    | nil => rfl
    | cons c rest ih =>
      have other : c ≠ '"' := fun same => noQuote (same ▸ List.mem_cons_self)
      rw [quotedAfter?, if_neg other, if_neg (by simp)]
      exact ih fun later => noQuote (List.mem_cons_of_mem c later)
  rw [List.cons_append, quotedAfter?, if_pos rfl, quotedAfter?_append]
  rw [show (!false) = true from rfl, inside]
  rfl

theorem tokensFrom_append {quoted after : Bool} {text : List Char}
    (whole : quotedAfter? quoted text = some after) (buffer rest : List Char) :
    tokensFrom quoted buffer (text ++ rest) = tokensFrom after (text.reverse ++ buffer) rest := by
  induction text generalizing quoted buffer with
  | nil =>
    obtain rfl := Option.some.inj whole
    rfl
  | cons c text ih =>
    rw [quotedAfter?] at whole
    rw [List.cons_append, tokensFrom, List.reverse_cons, List.append_assoc, List.singleton_append]
    split
    next quote =>
      rw [if_pos quote] at whole
      exact ih whole _
    next other =>
      rw [if_neg other] at whole
      split
      next ends =>
        rw [if_pos ends] at whole
        cases whole
      next goesOn =>
        rw [if_neg goesOn] at whole
        exact ih whole _

theorem tokens_of_quotedAfter {text : List Char} {quoted : Bool}
    (whole : quotedAfter? false text = some quoted) :
    tokens text = if quoted then words text else finish text.reverse := by
  have pending := tokensFrom_append whole [] []
  rw [List.append_nil, List.append_nil] at pending
  rw [tokens, pending, tokensFrom, List.reverse_reverse]

structure IsClosed (token : List Char) : Prop where
  nonempty : token ≠ []
  closed : quotedAfter? false token = some false

structure IsInner (word : List Char) : Prop extends IsWord word where
  stillOpen : quotedAfter? true word = some true

theorem IsInner.isClosed {word : List Char} (inner : IsInner word) : IsClosed word where
  nonempty := inner.nonempty
  closed := by
    have turned := quotedAfter?_not inner.visible true
    rw [inner.stillOpen] at turned
    exact turned

/-- The lists of tokens that a query can have. At the end there may be the words after a quote that
stays open, the first one with the quote. -/
inductive AreTokens : List (List Char) → Prop where
  | nil : AreTokens []
  | closed {token : List Char} {rest : List (List Char)} :
    IsClosed token → AreTokens rest → AreTokens (token :: rest)
  | opened {first : List Char} {rest : List (List Char)} :
    IsWord first → quotedAfter? false first = some true → (∀ word ∈ rest, IsInner word) →
      AreTokens (first :: rest)

theorem splitOnP_open {quoted : Bool} {text : List Char}
    (opens : quotedAfter? quoted text = some true) :
    ∃ first others, text.splitOnP Text.isBlank = first :: others ∧
      quotedAfter? quoted first = some true ∧
      ∀ other ∈ others, quotedAfter? true other = some true := by
  induction text generalizing quoted with
  | nil => exact ⟨[], [], by simp, opens, by simp⟩
  | cons c rest ih =>
    rw [quotedAfter?] at opens
    rw [List.splitOnP_cons_eq_if_modifyHead]
    by_cases quote : c = '"'
    · rw [if_pos quote] at opens
      obtain ⟨first, others, parts, firstOpen, othersOpen⟩ := ih opens
      have visible : Text.isBlank c = false := by rw [quote]; decide
      refine ⟨c :: first, others, by simp [parts, visible], ?_, othersOpen⟩
      rw [quotedAfter?, if_pos quote, firstOpen]
    · rw [if_neg quote] at opens
      by_cases blank : Text.isBlank c = true
      · cases quoted with
        | false => simp [blank] at opens
        | true =>
          obtain ⟨first, others, parts, firstOpen, othersOpen⟩ := ih (by simpa using opens)
          refine ⟨[], first :: others, by simp [parts, blank], rfl, ?_⟩
          simpa [firstOpen] using othersOpen
      · have visible : Text.isBlank c = false := by simpa using blank
        obtain ⟨first, others, parts, firstOpen, othersOpen⟩ := ih (by simpa [visible] using opens)
        refine ⟨c :: first, others, by simp [parts, visible], ?_, othersOpen⟩
        rw [quotedAfter?, if_neg quote, visible, firstOpen]
        simp

theorem areTokens_words {text : List Char} (opens : quotedAfter? false text = some true) :
    AreTokens (words text) := by
  obtain ⟨first, others, parts, firstOpen, othersOpen⟩ := splitOnP_open opens
  have nonempty : first ≠ [] := by
    intro empty
    rw [empty] at firstOpen
    cases firstOpen
  have split : words text = first :: others.filter fun piece => !piece.isEmpty := by
    rw [words, parts, List.filter_cons_of_pos (by simpa using nonempty)]
  have isWord : ∀ word ∈ words text, IsWord word := fun word => Text.isWord_of_mem_words
  rw [split] at isWord ⊢
  apply AreTokens.opened (isWord first List.mem_cons_self) firstOpen
  intro word later
  exact ⟨isWord word (List.mem_cons_of_mem first later),
    othersOpen word (List.mem_filter.mp later).1⟩

theorem areTokens_finish {buffer : List Char} {rest : List (List Char)}
    (closed : quotedAfter? false buffer.reverse = some false) (more : AreTokens rest) :
    AreTokens (finish buffer ++ rest) := by
  rw [finish]
  split
  next => exact more
  next pending =>
    have nonempty : buffer.reverse ≠ [] := by simpa using pending
    exact .closed ⟨nonempty, closed⟩ more

/-- The invariant of the scan: `quoted` is what the pending characters leave open. -/
theorem areTokens_tokensFrom {quoted : Bool} {buffer : List Char}
    (pending : quotedAfter? false buffer.reverse = some quoted) (text : List Char) :
    AreTokens (tokensFrom quoted buffer text) := by
  induction text generalizing quoted buffer with
  | nil =>
    cases quoted with
    | true => exact areTokens_words pending
    | false => simpa [tokensFrom] using areTokens_finish pending .nil
  | cons c rest ih =>
    have longer : quotedAfter? false (c :: buffer).reverse = quotedAfter? quoted [c] := by
      rw [List.reverse_cons, quotedAfter?_append, pending, Option.bind_some]
    rw [tokensFrom]
    rw [quotedAfter?] at longer
    split
    next quote =>
      rw [if_pos quote] at longer
      exact ih longer
    next other =>
      rw [if_neg other] at longer
      split
      next ends =>
        have closed : quoted = false := by
          rw [Bool.and_eq_true] at ends
          simpa using ends.2
        rw [closed] at pending
        exact areTokens_finish pending (ih rfl)
      next goesOn =>
        rw [if_neg goesOn] at longer
        exact ih longer

theorem areTokens_tokens (query : List Char) : AreTokens (tokens query) :=
  areTokens_tokensFrom rfl query

theorem areTokens_closed {list : List (List Char)} (closed : ∀ token ∈ list, IsClosed token) :
    AreTokens list := by
  induction list with
  | nil => exact .nil
  | cons token rest ih =>
    exact .closed (closed token List.mem_cons_self)
      (ih fun other later => closed other (List.mem_cons_of_mem token later))

theorem areTokens_inner {words : List (List Char)} (inner : ∀ word ∈ words, IsInner word) :
    AreTokens words :=
  areTokens_closed fun word member => (inner word member).isClosed

/-- Tokens may be left out. The words after an open quote hold their own quotes in pairs, so that
they stand without the first one as well. -/
theorem AreTokens.sublist {list kept : List (List Char)} (tokens : AreTokens list)
    (sublist : kept.Sublist list) : AreTokens kept := by
  induction tokens generalizing kept with
  | nil =>
    obtain rfl := List.sublist_nil.mp sublist
    exact .nil
  | closed token _ ih =>
    cases sublist with
    | cons _ rest => exact ih rest
    | cons_cons _ rest => exact .closed token (ih rest)
  | opened first opens inner =>
    cases sublist with
    | cons _ rest => exact areTokens_inner fun word member => inner word (rest.subset member)
    | cons_cons _ rest =>
      exact .opened first opens fun word member => inner word (rest.subset member)

theorem quotedAfter?_intercalate {first : List Char} {rest : List (List Char)} {quoted : Bool}
    (opens : quotedAfter? quoted first = some true) (inner : ∀ word ∈ rest, IsInner word) :
    quotedAfter? quoted ([' '].intercalate (first :: rest)) = some true := by
  induction rest generalizing first quoted with
  | nil => rwa [List.intercalate_singleton]
  | cons next rest ih =>
    have nextOpen := (inner next List.mem_cons_self).stillOpen
    have restOpen := ih nextOpen fun word later => inner word (List.mem_cons_of_mem next later)
    rw [List.intercalate_cons_cons, quotedAfter?_append, quotedAfter?_append, opens]
    exact restOpen

theorem tokens_intercalate {list : List (List Char)} (areTokens : AreTokens list) :
    tokens ([' '].intercalate list) = list := by
  induction areTokens with
  | nil => rfl
  | @closed token rest isClosed _ ih =>
    have finished : finish token.reverse = [token] := by simp [finish, isClosed.nonempty]
    cases rest with
    | nil =>
      rw [List.intercalate_singleton, tokens_of_quotedAfter isClosed.closed, if_neg (by simp),
        finished]
    | cons next rest =>
      rw [List.intercalate_cons_cons, List.append_assoc, tokens, tokensFrom_append isClosed.closed,
        List.append_nil, List.singleton_append, tokensFrom, if_neg (by decide), if_pos (by decide),
        finished]
      exact congrArg _ ih
  | @opened first rest isWord opens inner =>
    have all : ∀ word ∈ first :: rest, IsWord word := by
      intro word member
      rcases List.mem_cons.mp member with rfl | later
      · exact isWord
      · exact (inner word later).toIsWord
    rw [tokens_of_quotedAfter (quotedAfter?_intercalate opens inner), if_pos rfl,
      Text.words_intercalate all]

/-- A word after a blank is a token of its own, also after a quote that stays open. -/
theorem tokensFrom_word {word : List Char} (inner : IsInner word) (quoted : Bool)
    (buffer text : List Char) :
    tokensFrom quoted buffer (text ++ ' ' :: word) = tokensFrom quoted buffer text ++ [word] := by
  induction text generalizing quoted buffer with
  | nil =>
    cases quoted with
    | false =>
      have alone := tokens_of_quotedAfter inner.isClosed.closed
      have finished : finish word.reverse = [word] := by simp [finish, inner.nonempty]
      rw [tokens, finished] at alone
      exact congrArg (finish buffer ++ ·) alone
    | true =>
      have pending := tokensFrom_append inner.stillOpen (' ' :: buffer) []
      rw [List.append_nil] at pending
      change tokensFrom true (' ' :: buffer) word = words buffer.reverse ++ [word]
      rw [pending, tokensFrom, if_pos rfl, List.reverse_append, List.reverse_reverse,
        List.reverse_cons, List.append_assoc, List.singleton_append,
        Text.words_append_blank (by decide), Text.words_of_isWord inner.toIsWord]
  | cons c rest ih =>
    rw [List.cons_append, tokensFrom, tokensFrom]
    split
    next => exact ih _ _
    next =>
      split
      next => rw [ih, List.append_assoc]
      next => exact ih _ _

end ModelCatalog.Query
