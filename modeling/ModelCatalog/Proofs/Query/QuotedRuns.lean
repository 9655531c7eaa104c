import Mathlib.Data.List.Induction
import ModelCatalog.Proofs.Query.Conserving

/-!
Quoted runs. From a quote that opens to the one that closes it, all stays in one token, blanks
included, unless no blank parts it from a later quote that is never closed: there the whole pending
token is split at its blanks.
-/

namespace ModelCatalog.Query

open Text (visible words IsWord)

section FreeBlanks

theorem tokensFrom_append_blank {quoted : Bool} {before : List Char} {blank : Char}
    (closed : Odd (before.count '"') ↔ quoted = true) (isBlank : Text.isBlank blank = true)
    (buffer after : List Char) :
    tokensFrom quoted buffer (before ++ blank :: after) =
      tokensFrom quoted buffer before ++ tokens after := by
  induction before generalizing quoted buffer with
  | nil =>
    have outside : quoted = false := by simpa using closed
    have ends : tokensFrom false buffer (blank :: after) = finish buffer ++ tokens after := by
      rw [tokensFrom, if_neg (ne_quote_of_isBlank isBlank), isBlank]
      rfl
    rw [outside]
    exact ends
  | cons c rest ih =>
    rw [List.cons_append, tokensFrom, tokensFrom]
    split
    next quote =>
      rw [quote, List.count_cons_self, Nat.odd_add_one] at closed
      apply ih
      cases quoted <;> simp_all
    next other =>
      rw [List.count_cons_of_ne other] at closed
      split
      next ends =>
        have outside : quoted = false := by simpa using ((Bool.and_eq_true ..).mp ends).2
        rw [outside] at closed
        rw [ih closed, List.append_assoc]
      next => exact ih closed _

theorem tokens_append_blank {before : List Char} {blank : Char} (paired : Even (before.count '"'))
    (isBlank : Text.isBlank blank = true) (after : List Char) :
    tokens (before ++ blank :: after) = tokens before ++ tokens after := by
  apply tokensFrom_append_blank _ isBlank
  simpa using paired

theorem exists_first_free_blank {quoted : Bool} {text : List Char}
    (parted : quotedAfter? quoted text = none) :
    ∃ before blank after, text = before ++ blank :: after ∧ Text.isBlank blank = true ∧
      quotedAfter? quoted before = some false := by
  induction text generalizing quoted with
  | nil => cases parted
  | cons c rest ih =>
    rw [quotedAfter?] at parted
    split at parted
    next quote =>
      obtain ⟨before, blank, after, rfl, isBlank, closed⟩ := ih parted
      refine ⟨c :: before, blank, after, rfl, isBlank, ?_⟩
      rwa [quotedAfter?, if_pos quote]
    next other =>
      split at parted
      next ends =>
        obtain ⟨blank, outside⟩ := (Bool.and_eq_true ..).mp ends
        have closed : quoted = false := by simpa using outside
        exact ⟨[], c, rest, rfl, blank, congrArg some closed⟩
      next goesOn =>
        obtain ⟨before, blank, after, rfl, isBlank, closed⟩ := ih parted
        refine ⟨c :: before, blank, after, rfl, isBlank, ?_⟩
        rwa [quotedAfter?, if_neg other, if_neg goesOn]

theorem exists_pending (text : List Char) :
    ∃ before pending quoted, text = before ++ pending ∧ Even (before.count '"') ∧
      quotedAfter? false pending = some quoted ∧
      ∀ rest, tokens (before ++ rest) = tokens before ++ tokens rest := by
  induction text using List.reverseRecOn with
  | nil => exact ⟨[], [], false, rfl, Even.zero, rfl, fun _ => rfl⟩
  | append_singleton text c ih =>
    obtain ⟨before, pending, quoted, rfl, paired, whole, splits⟩ := ih
    have longer : quotedAfter? false (pending ++ [c]) = quotedAfter? quoted [c] := by
      rw [quotedAfter?_append, whole, Option.bind_some]
    by_cases free : Text.isBlank c = true ∧ quoted = false
    · obtain ⟨isBlank, rfl⟩ := free
      have pairedPending : Even (pending.count '"') := (even_quotes_iff whole).mpr rfl
      have pairedAll : Even ((before ++ pending).count '"') := by
        rw [List.count_append]
        exact paired.add pairedPending
      refine ⟨before ++ pending ++ [c], [], false, (List.append_nil _).symm, ?_, rfl, fun rest => ?_⟩
      · rwa [List.count_append, List.count_cons_of_ne (ne_quote_of_isBlank isBlank), List.count_nil]
      · rw [List.append_assoc _ [c], List.singleton_append, tokens_append_blank pairedAll isBlank,
          tokens_append_blank pairedAll isBlank]
        exact congrArg (· ++ tokens rest) (List.append_nil _).symm
    · have goesOn : ∃ after, quotedAfter? quoted [c] = some after := by
        rw [quotedAfter?]
        split
        next => exact ⟨_, rfl⟩
        next =>
          rw [if_neg (by simpa using free)]
          exact ⟨_, rfl⟩
      obtain ⟨after, next⟩ := goesOn
      exact ⟨before, pending ++ [c], after, by simp, paired, longer.trans next, splits⟩

end FreeBlanks

/-- The run between `front` and `back` lies in one token of the text, behind the tokens of what stands
before that. -/
def LiesInToken (front run back : List Char) : Prop :=
  ∃ before left right behind listed later, front = before ++ left ∧ back = right ++ behind ∧
    tokens (front ++ run ++ back) = listed ++ (left ++ run ++ right) :: later ∧
    visible listed.flatten = visible before

section Runs

variable {front run back : List Char}

theorem LiesInToken.behind {before pending : List Char} (lies : LiesInToken pending run back)
    (splits : ∀ rest, tokens (before ++ rest) = tokens before ++ tokens rest) :
    LiesInToken (before ++ pending) run back := by
  obtain ⟨skipped, left, right, behind, listed, later, rfl, rfl, made, same⟩ := lies
  refine ⟨before ++ skipped, left, right, behind, tokens before ++ listed, later, ?_, rfl, ?_, ?_⟩
  · exact (List.append_assoc ..).symm
  · have parted : before ++ (skipped ++ left) ++ run ++ (right ++ behind) =
        before ++ (skipped ++ left ++ run ++ (right ++ behind)) := by
      simp only [List.append_assoc]
    rw [parted, splits, made]
    exact (List.append_assoc ..).symm
  · rw [List.flatten_append, Text.visible_append, visible_tokens, same, Text.visible_append]

theorem liesInToken_of_parted (closed : quotedAfter? false (front ++ run) = some false)
    (nonempty : run ≠ []) (parted : quotedAfter? false back = none) :
    LiesInToken front run back := by
  obtain ⟨right, blank, behind, rfl, isBlank, closedRight⟩ := exists_first_free_blank parted
  have whole : quotedAfter? false (front ++ run ++ right) = some false := by
    rw [quotedAfter?_append, closed]
    exact closedRight
  have paired : Even ((front ++ run ++ right).count '"') := (even_quotes_iff whole).mpr rfl
  have alone : tokens (front ++ run ++ right) = [front ++ run ++ right] := by
    rw [tokens_of_quotedAfter whole, finish]
    simp [nonempty]
  refine ⟨[], front, right, blank :: behind, [], tokens behind, rfl, rfl, ?_, rfl⟩
  rw [← List.append_assoc, tokens_append_blank paired isBlank, alone]
  rfl

theorem liesInToken_of_closed (closed : quotedAfter? false (front ++ run) = some false)
    (nonempty : run ≠ []) (closedBack : quotedAfter? false back = some false) :
    LiesInToken front run back := by
  have whole : quotedAfter? false (front ++ run ++ back) = some false := by
    rw [quotedAfter?_append, closed]
    exact closedBack
  refine ⟨[], front, back, [], [], [], rfl, (List.append_nil back).symm, ?_, rfl⟩
  rw [tokens_of_quotedAfter whole, finish]
  simp [nonempty]

theorem liesInToken_of_isWord (isWord : IsWord run)
    (opened : quotedAfter? false (front ++ run ++ back) = some true) :
    LiesInToken front run back := by
  obtain ⟨before, left, right, behind, listed, later, split, rest, made, same⟩ :=
    Text.exists_words_around isWord front back
  refine ⟨before, left, right, behind, listed, later, split, rest, ?_, same⟩
  rw [tokens_of_quotedAfter opened, if_pos rfl, made]

theorem not_liesInToken {before pending : List Char} {blank : Char} (inRun : blank ∈ run)
    (isBlank : Text.isBlank blank = true) (shown : visible run ≠ [])
    (split : tokens (before ++ pending ++ run ++ back) =
      tokens before ++ words (pending ++ run ++ back)) :
    ¬LiesInToken (before ++ pending) run back := by
  rintro ⟨skipped, left, right, behind, listed, later, place, rfl, made, same⟩
  have noWord : left ++ run ++ right ∉ words (pending ++ run ++ (right ++ behind)) := by
    intro isListed
    have seen := (Text.isWord_of_mem_words isListed).visible blank (by simp [inRun])
    rw [isBlank] at seen
    cases seen
  -- The token cannot be one of those before the pending one: the run would be counted among them.
  have noEarlier (more : List (List Char)) :
      tokens before ≠ listed ++ (left ++ run ++ right) :: more := by
    intro earlier
    have counted := congrArg (fun list => (visible (List.flatten list)).length) earlier
    have placed := congrArg (fun text => (visible text).length) place
    have some := List.length_pos_iff.mpr shown
    simp only [visible_tokens, List.flatten_append, List.flatten_cons, Text.visible_append, same,
      List.length_append] at counted placed
    omega
  rw [split] at made
  rcases List.append_eq_append_iff.mp made with ⟨more, -, rest⟩ | ⟨more, earlier, rest⟩
  · exact noWord (rest ▸ by simp)
  · cases more with
    | nil => exact noWord (by rw [← List.nil_append (words _), ← rest]; exact List.mem_cons_self)
    | cons token more =>
      obtain ⟨rfl, -⟩ := List.cons.inj rest
      exact noEarlier more earlier

end Runs

/-- A quote and the one that closes it stay in one token with all that is between them, exactly if no
blank is, or if no quote is left open to which the text goes on without a blank outside quotes. -/
theorem liesInToken_quotes_iff {front inner back : List Char} (paired : Even (front.count '"'))
    (noQuote : '"' ∉ inner) :
    LiesInToken front ('"' :: inner ++ ['"']) back ↔
      (∀ c ∈ inner, Text.isBlank c = false) ∨ quotedAfter? false back ≠ some true := by
  obtain ⟨before, pending, quoted, rfl, pairedBefore, whole, splits⟩ := exists_pending front
  have pairedPending : Even (pending.count '"') := by
    rw [List.count_append] at paired
    exact (Nat.even_add.mp paired).mp pairedBefore
  obtain rfl := (even_quotes_iff whole).mp pairedPending
  have visibleQuote : Text.isBlank '"' = false := by decide
  have closed : quotedAfter? false (pending ++ ('"' :: inner ++ ['"'])) = some false := by
    rw [quotedAfter?_append, whole]
    exact quotedAfter?_quotes noQuote
  have goesOn (after : Option Bool) (found : quotedAfter? false back = after) :
      quotedAfter? false (pending ++ ('"' :: inner ++ ['"']) ++ back) = after := by
    rw [quotedAfter?_append, closed]
    exact found
  constructor
  · intro lies
    by_contra neither
    obtain ⟨someBlank, opened⟩ := not_or.mp neither
    simp only [not_forall, Bool.not_eq_false] at someBlank
    obtain ⟨blank, inInner, isBlank⟩ := someBlank
    have inRun : blank ∈ '"' :: inner ++ ['"'] := by simp [inInner]
    refine not_liesInToken inRun isBlank ?_ ?_ lies
    · simp [visible, visibleQuote]
    · rw [List.append_assoc before, List.append_assoc before, splits,
        tokens_of_quotedAfter (goesOn _ (not_not.mp opened)), if_pos rfl]
  · intro either
    apply LiesInToken.behind _ splits
    cases found : quotedAfter? false back with
    | none => exact liesInToken_of_parted closed (by simp) found
    | some opened =>
      cases opened with
      | false => exact liesInToken_of_closed closed (by simp) found
      | true =>
        have seen := either.resolve_right fun closes => closes found
        have isWord : IsWord ('"' :: inner ++ ['"']) := by
          refine ⟨by simp, fun c member => ?_⟩
          rw [List.cons_append, List.mem_cons, List.mem_append, List.mem_singleton] at member
          rcases member with rfl | inInner | rfl
          · exact visibleQuote
          · exact seen c inInner
          · exact visibleQuote
        exact liesInToken_of_isWord isWord (goesOn _ found)

/-- A phrase glued to a predicate, before a quote that stays open behind a blank. -/
theorem liesInToken_quotes_predicate :
    let front := "bolt tag=".toList
    let inner := "spur gear".toList
    let back := ",hex \"open".toList
    Even (front.count '"') ∧ '"' ∉ inner ∧ quotedAfter? false back ≠ some true ∧
      LiesInToken front ('"' :: inner ++ ['"']) back := by
  intro front inner back
  have paired : Even (front.count '"') := by decide
  have noQuote : '"' ∉ inner := by decide
  have parted : quotedAfter? false back ≠ some true := by decide
  exact ⟨paired, noQuote, parted, (liesInToken_quotes_iff paired noQuote).mpr (.inr parted)⟩

/-- A phrase is cut in two, for a quote that is never closed stands right behind it. -/
theorem quotes_cut_in_two :
    let inner := "a b".toList
    let back := "c\" d".toList
    tokenize (String.ofList ('"' :: inner ++ ['"'] ++ back)) = ["\"a", "b\"c\"", "d"] ∧
      '"' ∉ inner ∧ ¬LiesInToken [] ('"' :: inner ++ ['"']) back := by
  intro inner back
  have cut : tokens ('"' :: inner ++ ['"'] ++ back) =
      ["\"a".toList, "b\"c\"".toList, "d".toList] := by decide
  refine ⟨by rw [tokenize, String.toList_ofList, cut]; rfl, by decide, ?_⟩
  rintro ⟨before, left, right, behind, listed, later, -, -, made, -⟩
  rw [List.nil_append, cut] at made
  have isListed : left ++ ('"' :: inner ++ ['"']) ++ right ∈
      ["\"a".toList, "b\"c\"".toList, "d".toList] := by
    rw [made]
    simp
  have inToken : ' ' ∈ left ++ ('"' :: inner ++ ['"']) ++ right := by simp [inner]
  have noBlank : ∀ token ∈ ["\"a".toList, "b\"c\"".toList, "d".toList], ' ' ∉ token := by decide
  exact noBlank _ isListed inToken

end ModelCatalog.Query
