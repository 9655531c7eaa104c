import ModelCatalog.Proofs.Query.Tokens
import ModelCatalog.Query.Parsed

/-!
The free text of a query is a query in normal form: it has the tokens that were kept, no predicate is
among them, and every connector stands between two plain words.
-/

namespace ModelCatalog.Query

theorem role_eq_connector {token : List Char} :
    role token = .connector ↔
      Predicate.ofToken? token = none ∧ isConnector token = true := by
  rw [role]
  split
  next read => simp [read]
  next none =>
    split
    next connector => simp [none, connector]
    next word => simp [word]

def isPlain (token : List Char) : Bool := role token == .plain

theorem isPlain_iff {token : List Char} :
    isPlain token = true ↔ Predicate.ofToken? token = none ∧ isConnector token = false := by
  rw [isPlain, beq_iff_eq, role]
  split
  next read => simp [read]
  next none =>
    split
    next connector => simp [connector]
    next word => simp [none, word]

theorem textTokens_sublist (afterPlain : Bool) (tokens : List (List Char)) :
    (textTokens afterPlain tokens).Sublist tokens := by
  induction tokens generalizing afterPlain with
  | nil => exact .slnil
  | cons token rest ih =>
    rw [textTokens]
    split
    · exact (ih _).cons token
    · split
      · exact (ih _).cons_cons token
      · exact (ih _).cons token
    · exact (ih _).cons_cons token

theorem ofToken?_of_mem_textTokens {afterPlain : Bool} {tokens : List (List Char)}
    {token : List Char} (kept : token ∈ textTokens afterPlain tokens) :
    Predicate.ofToken? token = none := by
  induction tokens generalizing afterPlain with
  | nil => cases kept
  | cons first rest ih =>
    rw [textTokens] at kept
    split at kept
    next => exact ih kept
    next connector =>
      split at kept
      · rcases List.mem_cons.mp kept with rfl | later
        · exact (role_eq_connector.mp connector).1
        · exact ih later
      · exact ih kept
    next plain =>
      rcases List.mem_cons.mp kept with rfl | later
      · exact (isPlain_iff.mp (beq_iff_eq.mpr plain)).1
      · exact ih later

theorem filter_isPlain_textTokens (afterPlain : Bool) (tokens : List (List Char)) :
    (textTokens afterPlain tokens).filter isPlain = tokens.filter isPlain := by
  induction tokens generalizing afterPlain with
  | nil => rfl
  | cons token rest ih =>
    rw [textTokens]
    split
    next predicate => simp [isPlain, predicate, ih]
    next connector => split <;> simp [isPlain, connector, ih]
    next plain => simp [isPlain, plain, ih]

theorem beginsPlain_textTokens {tokens : List (List Char)} (plain : beginsPlain tokens = true)
    (afterPlain : Bool) : beginsPlain (textTokens afterPlain tokens) = true := by
  cases tokens with
  | nil => cases plain
  | cons token rest =>
    have first : role token = .plain := by simpa [beginsPlain] using plain
    rw [textTokens, first]
    exact plain

theorem textTokens_textTokens {afterPlain again : Bool} (tokens : List (List Char))
    (noLess : afterPlain = true → again = true) :
    textTokens again (textTokens afterPlain tokens) = textTokens afterPlain tokens := by
  induction tokens generalizing afterPlain again with
  | nil => rfl
  | cons token rest ih =>
    rw [textTokens]
    split
    next => exact ih (by simp)
    next connector =>
      split
      next between =>
        obtain ⟨left, right⟩ := (Bool.and_eq_true ..).mp between
        rw [textTokens, connector, noLess left, beginsPlain_textTokens right, ih (by simp)]
        rfl
      next => exact ih (by simp)
    next plain =>
      rw [textTokens, plain]
      exact congrArg _ (ih id)

/-- There is a plain word on both sides, where the left one may be the token before `front`. -/
def StandsBetween (afterPlain : Bool) (front back : List (List Char)) : Prop :=
  ((front = [] ∧ afterPlain = true) ∨
    ∃ before left, front = before ++ [left] ∧ isPlain left = true) ∧
  ∃ right after, back = right :: after ∧ isPlain right = true

theorem StandsBetween.of_dropped {front back : List (List Char)}
    (between : StandsBetween false front back) (afterPlain : Bool) :
    StandsBetween afterPlain front back := by
  obtain ⟨left, right⟩ := between
  exact ⟨left.imp_left fun impossible => by simp at impossible, right⟩

theorem StandsBetween.of_kept {again : Bool} {front back : List (List Char)} {first : List Char}
    (between : StandsBetween again front back) (plain : again = true → isPlain first = true)
    (afterPlain : Bool) : StandsBetween afterPlain (first :: front) back := by
  obtain ⟨⟨none, afterFirst⟩ | ⟨before, left, split, leftPlain⟩, right⟩ := between
  · exact ⟨.inr ⟨[], first, by rw [none, List.nil_append], plain afterFirst⟩, right⟩
  · exact ⟨.inr ⟨first :: before, left, by rw [split, List.cons_append], leftPlain⟩, right⟩

theorem standsBetween_textTokens {afterPlain : Bool} {tokens front back : List (List Char)}
    {token : List Char} (kept : textTokens afterPlain tokens = front ++ token :: back)
    (connector : isConnector token = true) : StandsBetween afterPlain front back := by
  induction tokens generalizing afterPlain front with
  | nil => simp [textTokens] at kept
  | cons first rest ih =>
    rw [textTokens] at kept
    split at kept
    next => exact (ih kept).of_dropped afterPlain
    next =>
      split at kept
      next between =>
        obtain ⟨left, right⟩ := (Bool.and_eq_true ..).mp between
        cases front with
        | nil =>
          obtain ⟨rfl, rfl⟩ := List.cons.inj kept
          refine ⟨.inl ⟨rfl, left⟩, ?_⟩
          have begins := beginsPlain_textTokens right false
          cases more : textTokens false rest with
          | nil => simp [more, beginsPlain] at begins
          | cons next after => exact ⟨next, after, rfl, by rwa [more] at begins⟩
        | cons _ front =>
          obtain ⟨rfl, later⟩ := List.cons.inj kept
          exact (ih later).of_kept (by simp) afterPlain
      next => exact (ih kept).of_dropped afterPlain
    next role =>
      have plain : isPlain first = true := beq_iff_eq.mpr role
      cases front with
      | nil =>
        obtain ⟨rfl, rfl⟩ := List.cons.inj kept
        simp [isPlain_iff, connector] at plain
      | cons _ front =>
        obtain ⟨rfl, later⟩ := List.cons.inj kept
        exact (ih later).of_kept (fun _ => plain) afterPlain

theorem tokens_freeText (query : String) :
    tokens (parse query).freeText.toList = textTokens false (tokens query.toList) := by
  have areTokens := (areTokens_tokens query.toList).sublist (textTokens_sublist false _)
  change tokens (String.ofList _).toList = _
  rw [String.toList_ofList, tokens_intercalate areTokens]

/-- The free text of a query is a query of its own, which is only text. Its tokens are those that were
kept, every plain word among them; none is a predicate, and each connector stands between two plain
words, so that all of it is kept again. -/
theorem parse_freeText (query : String) :
    parse (parse query).freeText = ⟨(parse query).freeText, {}⟩ ∧
    let kept := textTokens false (tokens query.toList)
    tokenize (parse query).freeText = kept.map String.ofList ∧
    kept.filter isPlain = (tokens query.toList).filter isPlain ∧
    (∀ token ∈ kept, Predicate.ofToken? token = none) ∧
    ∀ front token back, kept = front ++ token :: back → isConnector token = true →
      ∃ before left right after, front = before ++ [left] ∧ back = right :: after ∧
        isPlain left = true ∧ isPlain right = true := by
  have noPredicate : ∀ token ∈ textTokens false (tokens query.toList),
      Predicate.ofToken? token = none := fun token => ofToken?_of_mem_textTokens
  refine ⟨?_, ?_, filter_isPlain_textTokens false _, noPredicate, ?_⟩
  · have none : predicates (textTokens false (tokens query.toList)) = [] := by
      rw [predicates, List.filterMap_eq_nil_iff]
      exact noPredicate
    have again := textTokens_textTokens (tokens query.toList) (id : false = true → false = true)
    rw [parse, tokens_freeText, none]
    change ParsedQuery.mk (String.ofList ([' '].intercalate (textTokens false _))) {} = _
    rw [again]
    rfl
  · rw [tokenize, tokens_freeText]
  · intro front token back split connector
    obtain ⟨left, right, after, rest, rightPlain⟩ := standsBetween_textTokens split connector
    rcases left with ⟨_, impossible⟩ | ⟨before, left, first, leftPlain⟩
    · cases impossible
    · exact ⟨before, left, right, after, first, rest, leftPlain, rightPlain⟩

example : (parse "or gear AND \"a  b\" or inproject tag=\"c d").freeText = "gear AND \"a  b\" d" := by
  decide +kernel

end ModelCatalog.Query
