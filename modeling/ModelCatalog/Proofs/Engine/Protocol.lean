import ModelCatalog.Proofs.Engine.Sessions

/-!
What a search exchanges with its backend. It asks for one plan, and for a second one if the store
rejects the text of the first; if that has a result, the search may be recorded, which changes nothing
about the result.
-/

namespace ModelCatalog

variable {σ α β : Type}

inductive Exchange where
  | query (question : Question) (answer : Except SearchError (List Sql.Record))
  | execute (change : Change) (answer : Except SearchError Nat)
  | rebuild (answer : Except SearchError Unit)

def Exchange.IsQuery (exchange : Exchange) : Prop :=
  ∃ question answer, exchange = .query question answer

def Backend.traced (backend : Backend σ) : Backend (σ × List Exchange) where
  query question := fun (state, trace) =>
    let (answer, after) := (backend.query question).run state
    (answer, after, trace ++ [.query question answer])
  execute change := fun (state, trace) =>
    let (answer, after) := (backend.execute change).run state
    (answer, after, trace ++ [.execute change answer])
  rebuild := fun (state, trace) =>
    let (answer, after) := backend.rebuild.run state
    (answer, after, trace ++ [.rebuild answer])

def Engine.traced (engine : Engine σ) : Engine (σ × List Exchange) :=
  { engine with backend := engine.backend.traced }

abbrev Protocol (α : Type) := List Exchange → Except SearchError α → Prop

namespace Protocol

def one (exchange : Except SearchError α → Exchange) : Protocol α :=
  fun trace answer => trace = [exchange answer]

inductive Bind (first : Protocol α) (next : α → Protocol β) : Protocol β where
  | stops {trace : List Exchange} {error : SearchError} :
    first trace (.error error) → Bind first next trace (.error error)
  | goesOn {trace more : List Exchange} {value : α} {outcome : Except SearchError β} :
    first trace (.ok value) → next value more outcome → Bind first next (trace ++ more) outcome

inductive Catch (first : Protocol α) (handler : SearchError → Protocol α) : Protocol α where
  | done {trace : List Exchange} {value : α} :
    first trace (.ok value) → Catch first handler trace (.ok value)
  | handled {trace more : List Exchange} {error : SearchError} {outcome : Except SearchError α} :
    first trace (.error error) → handler error more outcome →
      Catch first handler (trace ++ more) outcome

end Protocol

/-- The traced session does what the session does, and its exchanges follow the protocol. -/
def Follows (protocol : Protocol α) (traced : Session (σ × List Exchange) α)
    (session : Session σ α) : Prop :=
  ∀ state trace, ∃ more,
    traced.run (state, trace) =
      ((session.run state).1, (session.run state).2, trace ++ more) ∧
    protocol more (session.run state).1

section Following

theorem Follows.weaken {protocol weaker : Protocol α} {traced : Session (σ × List Exchange) α}
    {session : Session σ α} (follows : Follows protocol traced session)
    (weakens : ∀ trace outcome, protocol trace outcome → weaker trace outcome) :
    Follows weaker traced session := by
  intro state trace
  obtain ⟨more, same, followed⟩ := follows state trace
  exact ⟨more, same, weakens _ _ followed⟩

theorem follows_pure (value : α) :
    Follows (fun trace outcome => trace = [] ∧ outcome = .ok value)
      (pure value : Session (σ × List Exchange) α) (pure value) :=
  fun state trace => ⟨[], by rw [List.append_nil]; rfl, rfl, rfl⟩

theorem follows_throw (error : SearchError) :
    Follows (fun trace outcome => trace = [] ∧ outcome = .error error)
      (throw error : Session (σ × List Exchange) α) (throw error) :=
  fun state trace => ⟨[], by rw [List.append_nil]; rfl, rfl, rfl⟩

theorem follows_query (backend : Backend σ) (question : Question) :
    Follows (.one (.query question)) (backend.traced.query question) (backend.query question) :=
  fun _ _ => ⟨_, rfl, rfl⟩

theorem follows_execute (backend : Backend σ) (change : Change) :
    Follows (.one (.execute change)) (backend.traced.execute change) (backend.execute change) :=
  fun _ _ => ⟨_, rfl, rfl⟩

theorem follows_bind {protocol : Protocol α} {protocols : α → Protocol β}
    {tracedFirst : Session (σ × List Exchange) α} {first : Session σ α}
    {tracedNext : α → Session (σ × List Exchange) β} {next : α → Session σ β}
    (follows : Follows protocol tracedFirst first)
    (followsNext : ∀ value, Follows (protocols value) (tracedNext value) (next value)) :
    Follows (protocol.Bind protocols) (tracedFirst >>= tracedNext) (first >>= next) := by
  intro state trace
  obtain ⟨more, same, followed⟩ := follows state trace
  rw [run_bind, run_bind, same]
  cases result : first.run state with
  | mk outcome after =>
    rw [result] at followed
    cases outcome with
    | error error => exact ⟨more, rfl, .stops followed⟩
    | ok value =>
      obtain ⟨later, sameNext, followedNext⟩ := followsNext value after (trace ++ more)
      exact ⟨more ++ later, by rw [← List.append_assoc]; exact sameNext,
        .goesOn followed followedNext⟩

theorem follows_tryCatch {protocol : Protocol α} {protocols : SearchError → Protocol α}
    {traced : Session (σ × List Exchange) α} {session : Session σ α}
    {tracedHandler : SearchError → Session (σ × List Exchange) α}
    {handler : SearchError → Session σ α} (follows : Follows protocol traced session)
    (followsHandler : ∀ error, Follows (protocols error) (tracedHandler error) (handler error)) :
    Follows (protocol.Catch protocols) (tryCatch traced tracedHandler)
      (tryCatch session handler) := by
  intro state trace
  obtain ⟨more, same, followed⟩ := follows state trace
  rw [run_tryCatch, run_tryCatch, same]
  cases result : session.run state with
  | mk outcome after =>
    rw [result] at followed
    cases outcome with
    | ok value => exact ⟨more, rfl, .done followed⟩
    | error error =>
      obtain ⟨later, sameHandler, followedHandler⟩ := followsHandler error after (trace ++ more)
      exact ⟨more ++ later, by rw [← List.append_assoc]; exact sameHandler,
        .handled followed followedHandler⟩

end Following

namespace Engine

inductive Asked (plan : SearchPlan) : Protocol Found where
  | uncounted (error : SearchError) :
    Asked plan [.query (.countFound plan) (.error error)] (.error error)
  | unlisted (counted : List Sql.Record) (error : SearchError) :
    Asked plan [.query (.countFound plan) (.ok counted), .query (.foundPage plan) (.error error)]
      (.error error)
  | listed (counted records : List Sql.Record) :
    Asked plan [.query (.countFound plan) (.ok counted), .query (.foundPage plan) (.ok records)]
      (.ok { totalCount :=
               countOf ((counted.head?.bind fun record => record.integer? "total").getD 0)
             items := records.map SearchItem.ofRecord })

inductive Retried (freeText : String) (plan : SearchPlan) : Protocol Found where
  | skipped : TextMatch.fallback freeText = "" →
    Retried freeText plan [] (.ok { warnings := [skippedWarning] })
  | asked {trace : List Exchange} {outcome : Except SearchError Found} :
    TextMatch.fallback freeText ≠ "" →
    Asked { plan with expression := TextMatch.fallback freeText } trace outcome →
      Retried freeText plan trace (outcome.map fun found =>
        { found with warnings := found.warnings ++
          [degradedWarning (TextMatch.fallback freeText)] })

/-- A plan is asked for, and only if the store rejects its text, and there is one, retried once. -/
inductive Searched (freeText : String) (plan : SearchPlan) : Protocol Found where
  | found {trace : List Exchange} {found : Found} :
    Asked plan trace (.ok found) → Searched freeText plan trace (.ok found)
  | refused {trace : List Exchange} {error : SearchError} :
    Asked plan trace (.error error) →
    error.rejectsText = false ∨ (trimmed freeText).isEmpty = true →
      Searched freeText plan trace (.error error)
  | retried {trace more : List Exchange} {error : SearchError}
      {outcome : Except SearchError Found} :
    Asked plan trace (.error error) →
    error.rejectsText = true → (trimmed freeText).isEmpty = false →
    Retried freeText plan more outcome →
      Searched freeText plan (trace ++ more) outcome

theorem Asked.isQuery {plan : SearchPlan} {trace : List Exchange}
    {outcome : Except SearchError Found} (asked : Asked plan trace outcome) :
    ∀ exchange ∈ trace, exchange.IsQuery := by
  cases asked <;> simp [Exchange.IsQuery]

theorem Retried.isQuery {freeText : String} {plan : SearchPlan} {trace : List Exchange}
    {outcome : Except SearchError Found} (retried : Retried freeText plan trace outcome) :
    ∀ exchange ∈ trace, exchange.IsQuery := by
  cases retried with
  | skipped _ => simp
  | asked _ asked => exact asked.isQuery

theorem Searched.isQuery {freeText : String} {plan : SearchPlan} {trace : List Exchange}
    {outcome : Except SearchError Found} (searched : Searched freeText plan trace outcome) :
    ∀ exchange ∈ trace, exchange.IsQuery := by
  cases searched with
  | found asked => exact asked.isQuery
  | refused asked _ => exact asked.isQuery
  | retried asked _ _ again =>
    intro exchange member
    rcases List.mem_append.mp member with first | second
    · exact asked.isQuery exchange first
    · exact again.isQuery exchange second

theorem runPlan_follows (backend : Backend σ) (plan : SearchPlan) :
    Follows (Asked plan) (runPlan backend.traced plan) (runPlan backend plan) := by
  apply Follows.weaken (follows_bind (follows_query backend _) fun counted =>
    follows_bind (follows_query backend _) fun records => follows_pure _)
  intro trace outcome followed
  cases followed with
  | stops counted =>
    obtain rfl := counted
    exact .uncounted _
  | goesOn counted rest =>
    obtain rfl := counted
    cases rest with
    | stops listed =>
      obtain rfl := listed
      exact .unlisted _ _
    | goesOn listed done =>
      obtain rfl := listed
      obtain ⟨rfl, rfl⟩ := done
      exact .listed _ _

theorem runDegraded_follows (backend : Backend σ) (freeText : String) (plan : SearchPlan) :
    Follows (Retried freeText plan) (runDegraded backend.traced freeText plan)
      (runDegraded backend freeText plan) := by
  unfold runDegraded
  simp only
  split
  next empty =>
    apply (follows_pure _).weaken
    intro trace outcome returned
    obtain ⟨rfl, rfl⟩ := returned
    exact .skipped (by simpa using empty)
  next worded =>
    apply (follows_bind (runPlan_follows backend _) fun found => follows_pure _).weaken
    intro trace outcome followed
    have worded : TextMatch.fallback freeText ≠ "" := by simpa using worded
    cases followed with
    | stops failed => exact .asked worded failed
    | goesOn answered returned =>
      obtain ⟨rfl, rfl⟩ := returned
      rw [List.append_nil]
      exact .asked worded answered

def onError (backend : Backend σ) (parsed : ParsedQuery) (plan : SearchPlan)
    (error : SearchError) : Session σ Found :=
  if error.rejectsText && !(trimmed parsed.freeText).isEmpty then
    runDegraded backend parsed.freeText plan
  else throw error

theorem onError_follows (backend : Backend σ) (parsed : ParsedQuery) (plan : SearchPlan)
    (error : SearchError) :
    Follows (fun trace outcome =>
        (error.rejectsText = true ∧ (trimmed parsed.freeText).isEmpty = false ∧
          Retried parsed.freeText plan trace outcome) ∨
        ((error.rejectsText = false ∨ (trimmed parsed.freeText).isEmpty = true) ∧
          trace = [] ∧ outcome = .error error))
      (onError backend.traced parsed plan error) (onError backend parsed plan error) := by
  unfold onError
  cases rejects : error.rejectsText with
  | false =>
    rw [if_neg (by simp), if_neg (by simp)]
    exact (follows_throw error).weaken fun _ _ passed => .inr ⟨.inl rfl, passed⟩
  | true =>
    cases blank : (trimmed parsed.freeText).isEmpty with
    | true =>
      rw [if_neg (by simp), if_neg (by simp)]
      exact (follows_throw error).weaken fun _ _ passed => .inr ⟨.inr rfl, passed⟩
    | false =>
      have degrades : (true && !false) = true := rfl
      rw [if_pos degrades, if_pos degrades]
      exact (runDegraded_follows backend parsed.freeText plan).weaken
        fun _ _ retried => .inl ⟨rfl, rfl, retried⟩

theorem runSearch_follows (backend : Backend σ) (parsed : ParsedQuery) (plan : SearchPlan) :
    Follows (Searched parsed.freeText plan) (runSearch backend.traced parsed plan)
      (runSearch backend parsed plan) := by
  apply (follows_tryCatch (runPlan_follows backend plan)
    (onError_follows backend parsed plan)).weaken
  intro trace outcome followed
  cases followed with
  | done asked => exact .found asked
  | handled failed after =>
    rcases after with ⟨rejects, worded, retried⟩ | ⟨passesOn, rfl, rfl⟩
    · exact .retried failed rejects worded retried
    · rw [List.append_nil]
      exact .refused failed passesOn

section Searches

variable (engine : Engine σ) (query : String) (filters : Option FilterSet) (limit : Option UInt64)
  (offset : UInt64)

def recordOf (total : UInt64) : Change :=
  .recordSearch query (filters.getD {}).encode total.toInt64 engine.now.timestamp

/-- What is written after the questions: the record of a search that has a result, if searches are
recorded. Its answer is of no account. -/
inductive Recorded : Except SearchError Found → List Exchange → Prop where
  | failed (error : SearchError) : Recorded (.error error) []
  | unrecorded (found : Found) : engine.config.recordHistory = false → Recorded (.ok found) []
  | recorded (found : Found) (answer : Except SearchError Nat) :
    engine.config.recordHistory = true →
      Recorded (.ok found) [.execute (engine.recordOf query filters found.totalCount) answer]

theorem recordSearch_follows (total : UInt64) :
    Follows (fun trace outcome => outcome = .ok () ∧
        ∃ answer, trace = [.execute (engine.recordOf query filters total) answer])
      (tryCatch (engine.traced.recordSearch query (filters.getD {}) total) fun _ => pure ())
      (tryCatch (engine.recordSearch query (filters.getD {}) total) fun _ => pure ()) := by
  have records := follows_bind (follows_execute engine.backend
    (engine.recordOf query filters total)) fun _ => follows_pure ()
  apply (follows_tryCatch records fun _ => follows_pure ()).weaken
  intro trace outcome followed
  cases followed with
  | done recorded =>
    cases recorded with
    | goesOn written returned =>
      obtain rfl := written
      obtain ⟨rfl, same⟩ := returned
      exact ⟨same, _, rfl⟩
  | handled failed returned =>
    obtain ⟨rfl, rfl⟩ := returned
    cases failed with
    | stops refused => exact ⟨rfl, _, by rw [List.append_nil]; exact refused⟩
    | goesOn _ returned => cases returned.2

theorem conclude_follows (found : Found) :
    Follows (fun trace outcome =>
        Recorded engine query filters (.ok found) trace ∧
        outcome = .ok (engine.resultOf query filters limit offset found))
      (engine.traced.conclude query filters limit offset found)
      (engine.conclude query filters limit offset found) := by
  unfold conclude
  cases records : engine.config.recordHistory with
  | false =>
    have off : ¬false = true := by decide
    change Follows _ (if engine.config.recordHistory = true then _ else _) _
    rw [records, if_neg off, if_neg off]
    apply (follows_pure _).weaken
    intro trace outcome returned
    obtain ⟨rfl, same⟩ := returned
    exact ⟨.unrecorded found records, same⟩
  | true =>
    change Follows _ (if engine.config.recordHistory = true then _ else _) _
    rw [records, if_pos rfl, if_pos rfl]
    apply (follows_bind (recordSearch_follows engine query filters found.totalCount)
      fun _ => follows_pure _).weaken
    intro trace outcome followed
    cases followed with
    | stops failed => cases failed.1
    | goesOn recorded returned =>
      obtain ⟨_, answer, rfl⟩ := recorded
      obtain ⟨rfl, same⟩ := returned
      exact ⟨.recorded found answer records, same⟩

theorem search_follows (something : ¬AsksNothing query filters) :
    Follows (fun trace result => ∃ questions outcome record, trace = questions ++ record ∧
        Searched (Query.parse query).freeText (engine.planOf query filters limit offset)
          questions outcome ∧
        Recorded engine query filters outcome record ∧
        result = outcome.map (engine.resultOf query filters limit offset))
      (engine.traced.search query filters limit offset)
      (engine.search query filters limit offset) := by
  rw [search_something engine query filters limit offset something,
    search_something engine.traced query filters limit offset something]
  apply (follows_bind (runSearch_follows engine.backend _ _)
    (conclude_follows engine query filters limit offset)).weaken
  intro trace result followed
  cases followed with
  | stops failed => exact ⟨_, _, [], (List.append_nil _).symm, failed, .failed _, rfl⟩
  | goesOn found concluded => exact ⟨_, _, _, rfl, found, concluded.1, concluded.2⟩

/-- The exchanges of a search for something. It asks for the plan of the query, and at most for one
more plan, the same but for its text; an error that does not lead to the second plan, or comes from
it, is the result, and then nothing is written. A result is recorded, if searches are, with the query
and the caller's own filters, and is the same whatever comes of that. -/
theorem search_exchanges (something : ¬AsksNothing query filters) (state : σ) :
    let plan := engine.planOf query filters limit offset
    let run := (engine.search query filters limit offset).run state
    (plan.expression = TextMatch.compile (Query.parse query).freeText ∧
      plan.filters = mergedFilters query filters ∧
      plan.limit = engine.config.clampLimit limit ∧ plan.offset = offset) ∧
    (∃ questions outcome record,
      (engine.traced.search query filters limit offset).run (state, []) =
        (run.1, run.2, questions ++ record) ∧
      Searched (Query.parse query).freeText plan questions outcome ∧
      (∀ exchange ∈ questions, exchange.IsQuery) ∧
      Recorded engine query filters outcome record ∧
      run.1 = outcome.map (engine.resultOf query filters limit offset)) ∧
    ∀ execute recordHistory,
      let other : Engine σ :=
        { engine with
          backend := { engine.backend with execute }
          config := { engine.config with recordHistory } }
      ((other.search query filters limit offset).run state).1 = run.1 := by
  intro plan run
  refine ⟨⟨rfl, rfl, rfl, rfl⟩, ?_, ?_⟩
  · obtain ⟨trace, same, questions, outcome, record, rfl, searched, recorded, result⟩ :=
      search_follows engine query filters limit offset something state []
    exact ⟨questions, outcome, record, same, searched, searched.isQuery, recorded, result⟩
  · intro execute recordHistory other
    have asked : runSearch other.backend = runSearch engine.backend := rfl
    rw [search_value other query filters limit offset something, asked]
    exact (search_value engine query filters limit offset something state).symm

/-- The record of a search fails, and the search is none the worse for it. -/
theorem search_exchanges_gear :
    let backend : Backend Unit :=
      { query := fun _ => pure [], execute := fun _ => throw (.io "full"), rebuild := pure () }
    let engine : Engine Unit := ⟨backend, {}, ⟨1700000000, 0⟩⟩
    let quiet : Engine Unit := { engine with config := { recordHistory := false } }
    let plan := engine.planOf "gear" none none 0
    let trace := ((engine.traced.search "gear" none none 0).run ((), [])).2.2
    ¬AsksNothing "gear" none ∧
      trace = [.query (.countFound plan) (.ok []), .query (.foundPage plan) (.ok []),
        .execute (engine.recordOf "gear" none 0) (.error (.io "full"))] ∧
      (∃ questions outcome record, trace = questions ++ record ∧
        Searched "gear" plan questions outcome ∧ Recorded engine "gear" none outcome record) ∧
      ((quiet.search "gear" none none 0).run ()).1 = ((engine.search "gear" none none 0).run ()).1 := by
  intro backend engine quiet plan trace
  have something : ¬AsksNothing "gear" none := by decide
  obtain ⟨_, ⟨questions, outcome, record, run, searched, _, recorded, _⟩, always⟩ :=
    search_exchanges engine "gear" none none 0 something ()
  have traced : trace = questions ++ record := congrArg (fun run => run.2.2) run
  exact ⟨something, rfl, ⟨questions, outcome, record, traced, searched, recorded⟩,
    always backend.execute false⟩

end Searches

end Engine

end ModelCatalog
