import ModelCatalog.Engine.Search

/-!
What sessions do to the state of their backend. A relation that holds across each statement holds
across every session made of them, also one that fails halfway.
-/

namespace ModelCatalog

variable {σ α β : Type}

theorem run_bind {ε : Type} (first : ExceptT ε (StateM σ) α) (next : α → ExceptT ε (StateM σ) β)
    (state : σ) : (first >>= next).run state =
      match first.run state with
      | (.ok value, after) => (next value).run after
      | (.error error, after) => (.error error, after) := by
  change (ExceptT.bindCont next (first.run state).1 (first.run state).2) = _
  cases first.run state with
  | mk result after => cases result <;> rfl

theorem run_tryCatch (session : Session σ α) (handler : SearchError → Session σ α) (state : σ) :
    (tryCatch session handler : Session σ α).run state =
      match session.run state with
      | (.ok value, after) => (.ok value, after)
      | (.error error, after) => (handler error).run after := by
  simp only [tryCatch, tryCatchThe, MonadExceptOf.tryCatch, ExceptT.tryCatch, ExceptT.mk,
    ExceptT.run, bind, StateT.bind]
  cases session state with
  | mk result after => cases result <;> rfl

/-- A relation that composes along a run. -/
structure Composes (R : σ → σ → Prop) : Prop where
  refl : ∀ state, R state state
  trans : ∀ {first second third}, R first second → R second third → R first third

def Moves (R : σ → σ → Prop) (session : Session σ α) : Prop :=
  ∀ state, R state (session.run state).2

section Composing

variable {R : σ → σ → Prop} (composes : Composes R)
include composes

theorem moves_pure (value : α) : Moves R (pure value : Session σ α) := composes.refl

theorem moves_throw (error : SearchError) : Moves R (throw error : Session σ α) := composes.refl

theorem moves_bind {first : Session σ α} {next : α → Session σ β} (moves : Moves R first)
    (movesNext : ∀ value, Moves R (next value)) : Moves R (first >>= next) := by
  intro state
  have start := moves state
  rw [run_bind]
  cases result : first.run state with
  | mk outcome after =>
    rw [result] at start
    cases outcome with
    | ok value => exact composes.trans start (movesNext value after)
    | error error => exact start

theorem moves_tryCatch {session : Session σ α} {handler : SearchError → Session σ α}
    (moves : Moves R session) (movesHandler : ∀ error, Moves R (handler error)) :
    Moves R (tryCatch session handler) := by
  intro state
  have start := moves state
  rw [run_tryCatch]
  cases result : session.run state with
  | mk outcome after =>
    rw [result] at start
    cases outcome with
    | ok value => exact start
    | error error => exact composes.trans start (movesHandler error after)

end Composing

namespace Engine

section Searches

variable (engine : Engine σ) (query : String) (filters : Option FilterSet) (limit : Option UInt64)
  (offset : UInt64)

def mergedFilters (query : String) (filters : Option FilterSet) : FilterSet :=
  (filters.getD {}).mergedWith (Query.parse query).filters

def AsksNothing (query : String) (filters : Option FilterSet) : Prop :=
  (Query.parse query).freeText = "" ∧ (mergedFilters query filters).isEmpty = true

instance (query : String) (filters : Option FilterSet) : Decidable (AsksNothing query filters) :=
  inferInstanceAs (Decidable (_ ∧ _))

def planOf : SearchPlan :=
  .ofQuery (Query.parse query) (filters.getD {}) (engine.config.clampLimit limit) offset engine.now

def degradedPlan : SearchPlan :=
  { engine.planOf query filters limit offset with
    expression := TextMatch.fallback (Query.parse query).freeText }

/-- The plans that a search may ask a backend for. -/
def Asks (plan : SearchPlan) : Prop :=
  plan = engine.planOf query filters limit offset ∨
    (TextMatch.fallback (Query.parse query).freeText ≠ "" ∧
      plan = engine.degradedPlan query filters limit offset)

def resultOf (found : Found) : SearchResult :=
  let freeText := (Query.parse query).freeText
  let highlighter := Highlighter.ofText freeText engine.config.highlightOpen
    engine.config.highlightClose
  { items := found.items.map (SearchItem.highlighted highlighter)
    totalCount := found.totalCount, query, freeText, filters := mergedFilters query filters,
    elapsedMicroseconds := 0, limit := engine.config.clampLimit limit, offset,
    warnings := found.warnings }

def conclude (found : Found) : Session σ SearchResult := do
  if engine.config.recordHistory then
    tryCatch (engine.recordSearch query (filters.getD {}) found.totalCount) fun _ => pure ()
  return engine.resultOf query filters limit offset found

theorem search_nothing (nothing : AsksNothing query filters) (state : σ) :
    (engine.search query filters limit offset).run state =
      (.ok (.empty query (mergedFilters query filters) (engine.config.clampLimit limit) offset),
        state) := by
  obtain ⟨noText, noFilters⟩ := nothing
  rw [mergedFilters] at noFilters
  unfold search
  simp only [noText, noFilters]
  rfl

theorem search_something (something : ¬AsksNothing query filters) :
    engine.search query filters limit offset =
      runSearch engine.backend (Query.parse query) (engine.planOf query filters limit offset) >>=
        engine.conclude query filters limit offset := by
  have asked : ¬((Query.parse query).freeText.isEmpty &&
      ((filters.getD {}).mergedWith (Query.parse query).filters).isEmpty) = true := by
    simpa [AsksNothing, mergedFilters] using something
  unfold search
  simp only [asked]
  rfl

theorem conclude_value (found : Found) (state : σ) :
    ((engine.conclude query filters limit offset found).run state).1 =
      .ok (engine.resultOf query filters limit offset found) := by
  unfold conclude
  split
  next =>
    rw [run_bind, run_tryCatch]
    cases (engine.recordSearch query (filters.getD {}) found.totalCount).run state with
    | mk outcome after => cases outcome <;> rfl
  next => rfl

theorem search_value (something : ¬AsksNothing query filters) (state : σ) :
    ((engine.search query filters limit offset).run state).1 =
      ((runSearch engine.backend (Query.parse query)
        (engine.planOf query filters limit offset)).run state).1.map
          (engine.resultOf query filters limit offset) := by
  rw [search_something engine query filters limit offset something, run_bind]
  cases (runSearch engine.backend (Query.parse query)
      (engine.planOf query filters limit offset)).run state with
  | mk outcome after =>
    cases outcome with
    | error error => rfl
    | ok found => exact conclude_value engine query filters limit offset found after

end Searches

section Moving

variable {R : σ → σ → Prop} (composes : Composes R)
include composes

theorem runPlan_moves {backend : Backend σ} {plan : SearchPlan}
    (count : Moves R (backend.query (.countFound plan)))
    (page : Moves R (backend.query (.foundPage plan))) : Moves R (runPlan backend plan) := by
  apply moves_bind composes count
  intro counted
  apply moves_bind composes page
  intro records
  exact moves_pure composes _

theorem runDegraded_moves {backend : Backend σ} {freeText : String} {plan : SearchPlan}
    (moves : TextMatch.fallback freeText ≠ "" →
      Moves R (runPlan backend { plan with expression := TextMatch.fallback freeText })) :
    Moves R (runDegraded backend freeText plan) := by
  unfold runDegraded
  simp only
  split
  next => exact moves_pure composes _
  next worded =>
    apply moves_bind composes (moves (by simpa using worded))
    intro found
    exact moves_pure composes _

theorem runSearch_moves {backend : Backend σ} {parsed : ParsedQuery} {plan : SearchPlan}
    (moves : Moves R (runPlan backend plan))
    (degraded : Moves R (runDegraded backend parsed.freeText plan)) :
    Moves R (runSearch backend parsed plan) := by
  apply moves_tryCatch composes moves
  intro error
  split
  next => exact degraded
  next => exact moves_throw composes error

theorem conclude_moves {engine : Engine σ} {query : String} {filters : Option FilterSet}
    {limit : Option UInt64} {offset : UInt64}
    (record : ∀ own total, Moves R (engine.recordSearch query own total)) (found : Found) :
    Moves R (engine.conclude query filters limit offset found) := by
  unfold conclude
  split
  next =>
    apply moves_bind composes
    · exact moves_tryCatch composes (record _ _) (fun _ => moves_pure composes _)
    · exact fun _ => moves_pure composes _
  next => exact moves_pure composes _

theorem search_moves {engine : Engine σ} {query : String} {filters : Option FilterSet}
    {limit : Option UInt64} {offset : UInt64}
    (plans : ∀ plan, engine.Asks query filters limit offset plan →
      Moves R (runPlan engine.backend plan))
    (record : ∀ own total, Moves R (engine.recordSearch query own total)) :
    Moves R (engine.search query filters limit offset) := by
  by_cases nothing : AsksNothing query filters
  · intro state
    rw [search_nothing engine query filters limit offset nothing]
    exact composes.refl state
  · rw [search_something engine query filters limit offset nothing]
    apply moves_bind composes
    · apply runSearch_moves composes (plans _ (Or.inl rfl))
      apply runDegraded_moves composes
      intro worded
      exact plans _ (Or.inr ⟨worded, rfl⟩)
    · exact conclude_moves composes record

end Moving

end Engine

end ModelCatalog
