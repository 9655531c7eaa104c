import ModelCatalog.Proofs.Engine.Sessions
import ModelCatalog.Proofs.Filter.Conditions
import ModelCatalog.Proofs.TextMatch.Hollow

/-!
Which statements a search sends. The calls are logged beside the state of the backend; a search for
nothing logs none, and the one search that lists the whole catalog is the one for empty quotes.
-/

namespace ModelCatalog

/-! Plans without restrictions. -/

namespace SearchPlan

/-- The statement for the page has no WHERE clause. -/
def IsUnrestricted (plan : SearchPlan) : Prop := plan.select.filter? = none

theorem isUnrestricted_iff (plan : SearchPlan) :
    plan.IsUnrestricted ↔ plan.expression = "" ∧ plan.filters.isEmpty = true := by
  have all (fragments : List Sql.Fragment) :
      Sql.Fragment.all? fragments = none ↔ fragments = [] := by
    cases fragments <;> simp [Sql.Fragment.all?]
  rw [IsUnrestricted, select, all, clauses, List.append_eq_nil_iff, List.map_eq_nil_iff,
    conditions, FilterSet.conditions_eq_nil_iff]
  apply and_congr_left
  intro _
  by_cases hasText : plan.hasText = true
  · have worded : plan.expression ≠ "" := plan.hasText_iff.mp hasText
    simp [hasText, worded]
  · have none : plan.expression = "" := Classical.not_not.mp (mt plan.hasText_iff.mpr hasText)
    simp [hasText, none]

end SearchPlan

/-! The log. -/

inductive BackendCall where
  | query (question : Question)
  | execute (change : Change)
  | rebuild

namespace Backend

variable {σ : Type}

def logged (backend : Backend σ) : Backend (σ × List BackendCall) where
  query question := fun (state, calls) =>
    let (result, after) := (backend.query question).run state
    (result, after, calls ++ [.query question])
  execute change := fun (state, calls) =>
    let (result, after) := (backend.execute change).run state
    (result, after, calls ++ [.execute change])
  rebuild := fun (state, calls) =>
    let (result, after) := backend.rebuild.run state
    (result, after, calls ++ [.rebuild])

end Backend

def Engine.logged {σ : Type} (engine : Engine σ) : Engine (σ × List BackendCall) :=
  { engine with backend := engine.backend.logged }

def BackendCall.AsksFor (call : BackendCall) (plan : SearchPlan) : Prop :=
  call = .query (.countFound plan) ∨ call = .query (.foundPage plan)

section Logging

variable {σ α β : Type}

def GrowsBy (P : BackendCall → Prop) (before after : σ × List BackendCall) : Prop :=
  ∃ more, after.2 = before.2 ++ more ∧ ∀ call ∈ more, P call

theorem growsBy_composes (P : BackendCall → Prop) :
    Composes (GrowsBy P : σ × List BackendCall → σ × List BackendCall → Prop) := by
  refine ⟨fun state => ⟨[], by simp, by simp⟩, ?_⟩
  intro first second third grows grows'
  obtain ⟨more, grown, all⟩ := grows
  obtain ⟨more', grown', all'⟩ := grows'
  refine ⟨more ++ more', by rw [grown', grown, List.append_assoc], ?_⟩
  intro call member
  rcases List.mem_append.mp member with early | late
  · exact all call early
  · exact all' call late

theorem query_growsBy {P : BackendCall → Prop} (backend : Backend σ) {question : Question}
    (allowed : P (.query question)) : Moves (GrowsBy P) (backend.logged.query question) :=
  fun _ => ⟨[.query question], rfl, by simpa using allowed⟩

theorem execute_growsBy {P : BackendCall → Prop} (backend : Backend σ) {change : Change}
    (allowed : P (.execute change)) : Moves (GrowsBy P) (backend.logged.execute change) :=
  fun _ => ⟨[.execute change], rfl, by simpa using allowed⟩

def StartsWith (call : BackendCall) (session : Session (σ × List BackendCall) α) : Prop :=
  ∀ state, ∃ more, (session.run state).2.2 = state.2 ++ call :: more

theorem startsWith_bind {call : BackendCall} {first : Session (σ × List BackendCall) α}
    {next : α → Session (σ × List BackendCall) β} (starts : StartsWith call first)
    (grows : ∀ value, Moves (GrowsBy fun _ => True) (next value)) :
    StartsWith call (first >>= next) := by
  intro state
  obtain ⟨more, begun⟩ := starts state
  rw [run_bind]
  cases result : first.run state with
  | mk outcome after =>
    rw [result] at begun
    change after.2 = _ at begun
    cases outcome with
    | error error => exact ⟨more, begun⟩
    | ok value =>
      obtain ⟨later, grown, _⟩ := grows value after
      exact ⟨more ++ later, by simp only [grown, begun, List.append_assoc, List.cons_append]⟩

theorem startsWith_tryCatch {call : BackendCall} {session : Session (σ × List BackendCall) α}
    {handler : SearchError → Session (σ × List BackendCall) α} (starts : StartsWith call session)
    (grows : ∀ error, Moves (GrowsBy fun _ => True) (handler error)) :
    StartsWith call (tryCatch session handler) := by
  intro state
  obtain ⟨more, begun⟩ := starts state
  rw [run_tryCatch]
  cases result : session.run state with
  | mk outcome after =>
    rw [result] at begun
    change after.2 = _ at begun
    cases outcome with
    | ok value => exact ⟨more, begun⟩
    | error error =>
      obtain ⟨later, grown, _⟩ := grows error after
      exact ⟨more ++ later, by simp only [grown, begun, List.append_assoc, List.cons_append]⟩

end Logging

namespace Engine

variable {σ : Type} (engine : Engine σ) (query : String) (filters : Option FilterSet)
  (limit : Option UInt64) (offset : UInt64)

theorem search_grows : Moves (GrowsBy fun call => ∀ plan, call.AsksFor plan →
      engine.Asks query filters limit offset plan)
    (engine.logged.search query filters limit offset) := by
  apply search_moves (growsBy_composes _)
  · intro plan asked
    apply runPlan_moves (growsBy_composes _)
    · apply query_growsBy
      intro other asksFor
      rcases asksFor with same | same <;> cases same
      exact asked
    · apply query_growsBy
      intro other asksFor
      rcases asksFor with same | same <;> cases same
      exact asked
  · intro own total
    apply moves_bind (growsBy_composes _)
    · apply execute_growsBy
      intro other asksFor
      rcases asksFor with same | same <;> cases same
    · exact fun _ => moves_pure (growsBy_composes _) _

theorem search_starts (something : ¬AsksNothing query filters) :
    StartsWith (.query (.countFound (engine.planOf query filters limit offset)))
      (engine.logged.search query filters limit offset) := by
  have composes := growsBy_composes (σ := σ) fun _ => True
  have plans (plan : SearchPlan) :
      Moves (GrowsBy fun _ => True) (runPlan engine.logged.backend plan) :=
    runPlan_moves composes (query_growsBy _ trivial) (query_growsBy _ trivial)
  have record (own : FilterSet) (total : UInt64) :
      Moves (GrowsBy fun _ => True) (engine.logged.recordSearch query own total) :=
    moves_bind composes (execute_growsBy _ trivial) fun _ => moves_pure composes _
  rw [search_something engine.logged query filters limit offset something]
  apply startsWith_bind _ (conclude_moves composes record)
  apply startsWith_tryCatch
  · apply startsWith_bind fun _ => ⟨[], rfl⟩
    intro counted
    exact moves_bind composes (query_growsBy _ trivial) fun _ => moves_pure composes _
  · intro error
    split
    next => exact runDegraded_moves composes fun _ => plans _
    next => exact moves_throw composes error

def callsOf (state : σ) : List BackendCall :=
  ((engine.logged.search query filters limit offset).run (state, [])).2.2

/-- A search for nothing sends nothing. Any other search sends a statement without a WHERE clause
exactly if it has no filters and its free text is made of blanks and empty quotes. -/
theorem search_calls (state : σ) :
    (engine.callsOf query filters limit offset state = [] ↔ AsksNothing query filters) ∧
      (engine.callsOf query filters limit offset state = [] →
        (engine.search query filters limit offset).run state =
          (.ok (.empty query (mergedFilters query filters) (engine.config.clampLimit limit) offset),
            state)) ∧
      ((∃ plan : SearchPlan, (∃ call ∈ engine.callsOf query filters limit offset state,
          call.AsksFor plan) ∧ plan.IsUnrestricted) ↔
        (Query.parse query).freeText ≠ "" ∧
          TextMatch.isHollow (Query.parse query).freeText.toList = true ∧
          (mergedFilters query filters).isEmpty = true) := by
  have hollow := TextMatch.compile_eq_empty_iff (Query.parse query).freeText
  have planned : (engine.planOf query filters limit offset).IsUnrestricted ↔
      TextMatch.compile (Query.parse query).freeText = "" ∧
        (mergedFilters query filters).isEmpty = true :=
    SearchPlan.isUnrestricted_iff _
  by_cases nothing : AsksNothing query filters
  · have none : engine.callsOf query filters limit offset state = [] := by
      have run := search_nothing engine.logged query filters limit offset nothing (state, [])
      exact congrArg (fun outcome => outcome.2.2) run
    refine ⟨⟨fun _ => nothing, fun _ => none⟩, ?_, ?_⟩
    · exact fun _ => search_nothing engine query filters limit offset nothing state
    · constructor
      · intro unrestricted
        obtain ⟨plan, ⟨call, sent, _⟩, _⟩ := unrestricted
        rw [none] at sent
        cases sent
      · intro hollowText
        obtain ⟨worded, _⟩ := hollowText
        exact absurd nothing.1 worded
  · obtain ⟨more, begun⟩ := search_starts engine query filters limit offset nothing (state, [])
    obtain ⟨all, grown, allowed⟩ := search_grows engine query filters limit offset (state, [])
    rw [List.nil_append] at begun grown
    change engine.callsOf query filters limit offset state = _ at begun grown
    rw [← grown] at allowed
    have some : engine.callsOf query filters limit offset state ≠ [] := by simp [begun]
    refine ⟨⟨fun none => absurd none some, fun both => absurd both nothing⟩, ?_, ?_⟩
    · exact fun none => absurd none some
    · constructor
      · intro some
        obtain ⟨plan, ⟨call, sent, asks⟩, unrestricted⟩ := some
        rcases allowed call sent plan asks with rfl | ⟨worded, rfl⟩
        · obtain ⟨compiled, noFilters⟩ := planned.mp unrestricted
          exact ⟨fun noText => nothing ⟨noText, noFilters⟩, hollow.mp compiled, noFilters⟩
        · exact absurd ((SearchPlan.isUnrestricted_iff _).mp unrestricted).1 worded
      · intro hollowText
        obtain ⟨_, isHollow, noFilters⟩ := hollowText
        refine ⟨_, ⟨.query (.countFound (engine.planOf query filters limit offset)), ?_, Or.inl rfl⟩,
          planned.mpr ⟨hollow.mpr isHollow, noFilters⟩⟩
        simp [begun]

/-- Empty quotes are free text, but compile to nothing: the page that is asked for is the page of
all models. -/
theorem search_empty_quotes :
    let backend : Backend Unit :=
      { query := fun _ => pure [], execute := fun _ => pure 0, rebuild := pure () }
    let engine : Engine Unit := ⟨backend, {}, ⟨1700000000, 0⟩⟩
    let plan := engine.planOf "\"\"" none none 0
    .query (.foundPage plan) ∈ ((engine.logged.search "\"\"" none none 0).run ((), [])).2.2 ∧
      plan.IsUnrestricted := by
  intro backend engine plan
  exact ⟨.tail _ (.head _), rfl⟩

end Engine

end ModelCatalog
