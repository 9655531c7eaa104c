import ModelCatalog.Proofs.Engine.Sessions

/-!
Sessions side by side. Two states of a backend that cannot be told apart by its statements cannot be
told apart by any session made of them.
-/

namespace ModelCatalog

variable {σ α β : Type}

def Agrees (R : σ → σ → Prop) (session : Session σ α) : Prop :=
  ∀ state other, R state other → (session.run other).1 = (session.run state).1 ∧
    R (session.run state).2 (session.run other).2

section Composing

variable {R : σ → σ → Prop}

theorem agrees_pure (value : α) : Agrees R (pure value : Session σ α) :=
  fun _ _ related => ⟨rfl, related⟩

theorem agrees_throw (error : SearchError) : Agrees R (throw error : Session σ α) :=
  fun _ _ related => ⟨rfl, related⟩

theorem agrees_result (result : Except SearchError α) :
    Agrees R (ExceptT.mk (pure result) : Session σ α) :=
  fun _ _ related => ⟨rfl, related⟩

theorem agrees_bind {first : Session σ α} {next : α → Session σ β} (agrees : Agrees R first)
    (agreesNext : ∀ value, Agrees R (next value)) : Agrees R (first >>= next) := by
  intro state other related
  obtain ⟨value, after⟩ := agrees state other related
  rw [run_bind, run_bind]
  cases ran : first.run state with
  | mk outcome left =>
    cases ranOther : first.run other with
    | mk outcome' right =>
      rw [ran, ranOther] at value after
      change outcome' = outcome at value
      subst value
      cases outcome' with
      | ok value => exact agreesNext value left right after
      | error error => exact ⟨rfl, after⟩

theorem agrees_tryCatch {session : Session σ α} {handler : SearchError → Session σ α}
    (agrees : Agrees R session) (agreesHandler : ∀ error, Agrees R (handler error)) :
    Agrees R (tryCatch session handler) := by
  intro state other related
  obtain ⟨value, after⟩ := agrees state other related
  rw [run_tryCatch, run_tryCatch]
  cases ran : session.run state with
  | mk outcome left =>
    cases ranOther : session.run other with
    | mk outcome' right =>
      rw [ran, ranOther] at value after
      change outcome' = outcome at value
      subst value
      cases outcome' with
      | ok value => exact ⟨rfl, after⟩
      | error error => exact agreesHandler error left right after

end Composing

namespace Engine

variable {R : σ → σ → Prop}

/-! Searches whose questions agree. -/

theorem runPlan_agrees {backend : Backend σ} {plan : SearchPlan}
    (count : Agrees R (backend.query (.countFound plan)))
    (page : Agrees R (backend.query (.foundPage plan))) : Agrees R (runPlan backend plan) := by
  apply agrees_bind count
  intro counted
  apply agrees_bind page
  intro records
  exact agrees_pure _

theorem runSearch_agrees {backend : Backend σ} (plans : ∀ plan, Agrees R (runPlan backend plan))
    (parsed : ParsedQuery) (plan : SearchPlan) : Agrees R (runSearch backend parsed plan) := by
  apply agrees_tryCatch (plans plan)
  intro error
  split
  next =>
    unfold runDegraded
    simp only
    split
    next => exact agrees_pure _
    next =>
      apply agrees_bind (plans _)
      intro found
      exact agrees_pure _
  next => exact agrees_throw error

theorem search_agrees {engine : Engine σ} (plans : ∀ plan, Agrees R (runPlan engine.backend plan))
    (record : ∀ query own total, Agrees R (engine.recordSearch query own total)) (query : String)
    (filters : Option FilterSet) (limit : Option UInt64) (offset : UInt64) :
    Agrees R (engine.search query filters limit offset) := by
  by_cases nothing : AsksNothing query filters
  · intro state other related
    rw [search_nothing engine query filters limit offset nothing,
      search_nothing engine query filters limit offset nothing]
    exact ⟨rfl, related⟩
  · rw [search_something engine query filters limit offset nothing]
    apply agrees_bind (runSearch_agrees plans _ _)
    intro found
    unfold conclude
    split
    next =>
      apply agrees_bind
      · exact agrees_tryCatch (record _ _ _) fun _ => agrees_pure _
      · exact fun _ => agrees_pure _
    next => exact agrees_pure _

/-! Engines over backends all of whose statements agree. -/

section Statements

variable {engine : Engine σ} (query : ∀ question, Agrees R (engine.backend.query question))
include query

theorem savedSearch_agrees (name : String) : Agrees R (engine.savedSearch name) := by
  apply agrees_bind (query _)
  intro records
  split
  next => exact agrees_throw _
  next => exact agrees_result _

variable (execute : ∀ change, Agrees R (engine.backend.execute change))
include execute

theorem recordsSearch_agrees (text : String) (filters : Option FilterSet) (limit : Option UInt64)
    (offset : UInt64) : Agrees R (engine.search text filters limit offset) :=
  search_agrees (fun _ => runPlan_agrees (query _) (query _))
    (fun _ _ _ => agrees_bind (execute _) fun _ => agrees_pure _) text filters limit offset

theorem runSaved_agrees (name : String) (limit : Option UInt64) (offset : UInt64) :
    Agrees R (engine.runSaved name limit offset) :=
  agrees_bind (savedSearch_agrees query name) fun saved =>
    recordsSearch_agrees query execute saved.query (some saved.filters) limit offset

theorem saveSearch_agrees (name text : String) (filters : FilterSet) :
    Agrees R (engine.saveSearch name text filters) := by
  apply agrees_bind
  · exact agrees_bind (execute _) fun _ => agrees_pure _
  · intro _
    apply agrees_bind (query _)
    intro records
    split
    next => exact agrees_pure _
    next => exact agrees_throw _

omit query in
theorem deleteSavedSearch_agrees (id : Int64) : Agrees R (engine.deleteSavedSearch id) :=
  agrees_bind (execute _) fun _ => agrees_pure _

end Statements

end Engine

end ModelCatalog
