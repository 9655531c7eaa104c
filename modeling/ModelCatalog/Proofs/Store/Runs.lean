import ModelCatalog.Engine.Suggest
import ModelCatalog.Proofs.Search.Answer

/-!
Runs: operations on a store one after another, each with settings and times of its own. A step either
records a search in the history, or forgets a part of the history, or leaves it as it is.
-/

namespace ModelCatalog

inductive Operation where
  | call (call : StoreCall)
  | history (limit : Option UInt64)
  | savedSearches
  | suggest (text : String) (limit : Option UInt64)

/-- One operation of a run, with the settings of the engine, the time that the engine reads, and the
time that the store goes by. -/
structure Step where
  config : Config
  now : Time.Instant
  present : Time.Instant
  operation : Operation

namespace Step

variable (step : Step)

def engine : Engine Store := Store.engine step.config step.now step.present

def after (store : Store) : Store :=
  match step.operation with
  | .call call => store.after step.config step.now step.present call
  | .history limit => ((step.engine.history limit).run store).2
  | .savedSearches => (step.engine.savedSearches.run store).2
  | .suggest text limit => ((step.engine.suggest text limit).run store).2

def clearing? : Option UInt32 :=
  match step.operation with
  | .call (.clearHistory days) => some days
  | _ => none

def clears (row : HistoryRow) : Bool :=
  step.clearing?.any fun days =>
    Store.isBefore step.present (step.now.daysBefore days).timestamp row

end Step

namespace Store

def afterAll (store : Store) (steps : List Step) : Store :=
  steps.foldl (fun store step => step.after store) store

theorem afterAll_append (store : Store) (steps more : List Step) :
    store.afterAll (steps ++ more) = (store.afterAll steps).afterAll more := List.foldl_append

/-! What leaves the history as it is. -/

def log (store : Store) : List HistoryRow × Nat := (store.history, store.nextHistoryId)

def SameLog (before after : Store) : Prop := after.log = before.log

theorem sameLog_composes : Composes SameLog :=
  ⟨fun _ => rfl, fun first second => Eq.trans second first⟩

theorem upsert_log (store : Store) (entry : CatalogEntry) (now : Time.Instant) :
    SameLog store (store.upsert entry now).2 := by
  have linked := congrArg log (upsert_unlinked store entry now)
  have described := congrArg log (putMetadata_undescribed (store.putModel entry now).2
    (store.putModel entry now).1 entry)
  have modelled := congrArg log (putModel_unmodelled store entry now)
  exact linked.trans (described.trans modelled)

theorem putSaved_log (store : Store) (name query filters createdAt : String) :
    SameLog store (store.putSaved name query filters createdAt) := by
  rw [putSaved_eq]
  rfl

theorem importLines_log (store : Store) (now : Time.Instant) (lines : List CatalogLine) :
    SameLog store (lines.foldl (importLine now) store) := by
  induction lines generalizing store with
  | nil => rfl
  | cons line rest ih =>
    refine sameLog_composes.trans ?_ (ih (importLine now store line))
    cases line with
    | model entry => exact upsert_log store entry now
    | savedSearch name query filters => exact putSaved_log store name query _ _

theorem perform_log (store : Store) (call : CatalogCall) : SameLog store (store.perform call) := by
  cases call with
  | upsert entry now => exact upsert_log store entry now
  | importText text now =>
    simp only [perform, importText_eq]
    cases readLines 1 (text.toList.splitOn '\n') with
    | error bad => rfl
    | ok lines => exact importLines_log store now lines
  | view target now =>
    have modelled := congrArg log (markViewed_unmodelled store target now)
    exact modelled

def Unchanged (before after : Store) : Prop := after = before

theorem unchanged_composes : Composes Unchanged :=
  ⟨fun _ => rfl, fun first second => Eq.trans second first⟩

section Reading

variable (config : Config) (now present : Time.Instant)

theorem query_unchanged (question : Question) :
    Moves Unchanged ((engine config now present).backend.query question) := fun _ => rfl

theorem history_unchanged (limit : Option UInt64) :
    Moves Unchanged ((engine config now present).history limit) :=
  moves_bind unchanged_composes (query_unchanged config now present _) fun _ _ => rfl

theorem savedSearches_unchanged : Moves Unchanged (engine config now present).savedSearches :=
  moves_bind unchanged_composes (query_unchanged config now present _) fun _ _ => rfl

theorem savedSearch_unchanged (name : String) :
    Moves Unchanged ((engine config now present).savedSearch name) := by
  apply moves_bind unchanged_composes (query_unchanged config now present _)
  intro records
  split
  next => exact moves_throw unchanged_composes _
  next => exact fun _ => rfl

theorem suggest_unchanged (text : String) (limit : Option UInt64) :
    Moves Unchanged ((engine config now present).suggest text limit) := by
  have asks (question : Question) := query_unchanged config now present question
  unfold Engine.suggest
  simp only
  split
  next => exact moves_pure unchanged_composes _
  next =>
    apply moves_tryCatch unchanged_composes
    · refine moves_bind unchanged_composes ?_ fun _ => moves_pure unchanged_composes _
      apply moves_bind unchanged_composes (asks _)
      intro filenames
      apply moves_bind unchanged_composes (asks _)
      intro titles
      apply moves_bind unchanged_composes (asks _)
      intro keywords
      exact moves_pure unchanged_composes _
    · exact fun _ => moves_pure unchanged_composes _

theorem runSearch_unchanged (parsed : ParsedQuery) (plan : SearchPlan) :
    Moves Unchanged (Engine.runSearch (engine config now present).backend parsed plan) := by
  have plans (plan : SearchPlan) :
      Moves Unchanged (Engine.runPlan (engine config now present).backend plan) :=
    Engine.runPlan_moves unchanged_composes (query_unchanged config now present _)
      (query_unchanged config now present _)
  exact Engine.runSearch_moves unchanged_composes (plans plan)
    (Engine.runDegraded_moves unchanged_composes fun _ => plans _)

theorem saveSearch_log (name query : String) (filters : FilterSet) :
    Moves SameLog ((engine config now present).saveSearch name query filters) := by
  apply moves_bind sameLog_composes
  · refine moves_bind sameLog_composes ?_ fun _ => moves_pure sameLog_composes _
    exact fun store => putSaved_log store name query _ _
  · intro _
    have asks : Moves SameLog ((engine config now present).backend.query (.savedSearchId name)) :=
      fun _ => rfl
    apply moves_bind sameLog_composes asks
    intro records
    split
    next => exact moves_pure sameLog_composes _
    next => exact moves_throw sameLog_composes _

end Reading

end Store

/-! What is recorded. -/

/-- A search that was recorded: how and in what store it was made, and what it found. -/
structure Recording where
  config : Config
  now : Time.Instant
  present : Time.Instant
  before : Store
  query : String
  filters : Option FilterSet
  limit : Option UInt64
  offset : UInt64
  result : SearchResult
  found : (((Store.engine config now present).search query filters limit offset).run before).1 =
    .ok result
  something : ¬Engine.AsksNothing query filters
  remembers : config.recordHistory = true

namespace Recording

variable (recording : Recording)

def own : FilterSet := recording.filters.getD {}

def row (id : Nat) : HistoryRow :=
  ⟨id, recording.query, recording.own.encode, recording.result.totalCount.toInt64,
    recording.now.timestamp⟩

end Recording

namespace Step

variable (step : Step) (store : Store)

/-- The record of a search of this step. There is none if the search asks for nothing, is not to be
remembered, or fails. -/
def recordingOf? (query : String) (filters : Option FilterSet) (limit : Option UInt64)
    (offset : UInt64) : Option Recording :=
  if asked : ¬Engine.AsksNothing query filters ∧ step.config.recordHistory = true then
    match found : ((step.engine.search query filters limit offset).run store).1 with
    | .ok result =>
      some ⟨step.config, step.now, step.present, store, query, filters, limit, offset, result,
        found, asked.1, asked.2⟩
    | .error _ => none
  else none

def recording? : Option Recording :=
  match step.operation with
  | .call (.search query filters limit offset) =>
    step.recordingOf? store query filters limit offset
  | .call (.runSaved name limit offset) =>
    match ((step.engine.savedSearch name).run store).1 with
    | .ok saved => step.recordingOf? store saved.query (some saved.filters) limit offset
    | .error _ => none
  | _ => none

end Step

namespace Store

def record (store : Store) (recording : Recording) : Store :=
  { store with history := store.history ++ [recording.row store.nextHistoryId]
               nextHistoryId := store.nextHistoryId + 1 }

def recordAny (store : Store) (recording? : Option Recording) : Store :=
  match recording? with
  | some recording => store.record recording
  | none => store

section Searching

variable (step : Step) (store : Store) (query : String) (filters : Option FilterSet)
  (limit : Option UInt64) (offset : UInt64)

theorem search_something_run (something : ¬Engine.AsksNothing query filters) :
    (step.engine.search query filters limit offset).run store =
      match ((Engine.runSearch step.engine.backend (Query.parse query)
        (step.engine.planOf query filters limit offset)).run store).1 with
      | .ok found => (step.engine.conclude query filters limit offset found).run store
      | .error error => (.error error, store) := by
  have kept := runSearch_unchanged step.config step.now step.present (Query.parse query)
    (step.engine.planOf query filters limit offset) store
  rw [Engine.search_something step.engine query filters limit offset something, run_bind]
  cases ran : (Engine.runSearch step.engine.backend (Query.parse query)
      (step.engine.planOf query filters limit offset)).run store with
  | mk outcome after =>
    have same : after = store := (congrArg Prod.snd ran).symm.trans kept
    subst same
    cases outcome <;> rfl

theorem conclude_run (found : Found) :
    (step.engine.conclude query filters limit offset found).run store =
      (.ok (step.engine.resultOf query filters limit offset found),
        if step.config.recordHistory then
          { store with
            history := store.history ++ [⟨store.nextHistoryId, query, (filters.getD {}).encode,
              found.totalCount.toInt64, step.now.timestamp⟩]
            nextHistoryId := store.nextHistoryId + 1 }
        else store) := by
  have remembers : step.engine.config.recordHistory = step.config.recordHistory := rfl
  rw [Engine.conclude, remembers]
  cases step.config.recordHistory <;> rfl

variable {query filters limit offset}

theorem search_after_error (something : ¬Engine.AsksNothing query filters) {error : SearchError}
    (failed : ((step.engine.search query filters limit offset).run store).1 = .error error) :
    ((step.engine.search query filters limit offset).run store).2 = store := by
  rw [search_something_run step store query filters limit offset something] at failed ⊢
  split
  next found ran =>
    rw [ran] at failed
    simp only [conclude_run, reduceCtorEq] at failed
  next => rfl

theorem search_after_ok {result : SearchResult} (something : ¬Engine.AsksNothing query filters)
    (remembers : step.config.recordHistory = true)
    (found : ((step.engine.search query filters limit offset).run store).1 = .ok result) :
    ((step.engine.search query filters limit offset).run store).2 = store.record
      ⟨step.config, step.now, step.present, store, query, filters, limit, offset, result, found,
        something, remembers⟩ := by
  have ran := search_something_run step store query filters limit offset something
  split at ran
  next count answered =>
    rw [conclude_run, if_pos remembers] at ran
    have same : step.engine.resultOf query filters limit offset count = result :=
      Except.ok.inj ((congrArg Prod.fst ran).symm.trans found)
    subst same
    rw [ran]
    rfl
  next error answered =>
    rw [ran] at found
    cases found

theorem search_after_unasked
    (unasked : ¬(¬Engine.AsksNothing query filters ∧ step.config.recordHistory = true)) :
    ((step.engine.search query filters limit offset).run store).2 = store := by
  by_cases nothing : Engine.AsksNothing query filters
  · rw [Engine.search_nothing step.engine query filters limit offset nothing]
  · have forgetful : ¬step.config.recordHistory = true :=
      fun remembers => unasked ⟨nothing, remembers⟩
    rw [search_something_run step store query filters limit offset nothing]
    split
    next => rw [conclude_run, if_neg forgetful]
    next => rfl

variable (query filters limit offset)

theorem search_after : ((step.engine.search query filters limit offset).run store).2 =
    store.recordAny (step.recordingOf? store query filters limit offset) := by
  unfold Step.recordingOf?
  split
  next asked =>
    split
    next result found => exact search_after_ok step store asked.1 asked.2 found
    next error failed => exact search_after_error step store asked.1 failed
  next unasked => exact search_after_unasked step store unasked

end Searching

/-! Steps. -/

section Stepping

variable (step : Step) (store : Store)

theorem runSaved_after (name : String) (limit : Option UInt64) (offset : UInt64) :
    ((step.engine.runSaved name limit offset).run store).2 = store.recordAny
      (match ((step.engine.savedSearch name).run store).1 with
        | .ok saved => step.recordingOf? store saved.query (some saved.filters) limit offset
        | .error _ => none) := by
  have kept := savedSearch_unchanged step.config step.now step.present name store
  rw [Engine.runSaved, run_bind]
  cases ran : (step.engine.savedSearch name).run store with
  | mk outcome after =>
    have same : after = store := (congrArg Prod.snd ran).symm.trans kept
    subst same
    cases outcome with
    | ok saved => exact search_after step after saved.query (some saved.filters) limit offset
    | error error => rfl

variable {step}

theorem after_search {query : String} {filters : Option FilterSet} {limit : Option UInt64}
    {offset : UInt64} (operation : step.operation = .call (.search query filters limit offset)) :
    step.after store = store.recordAny (step.recording? store) := by
  rw [Step.after, Step.recording?, operation]
  exact search_after step store query filters limit offset

theorem after_runSaved {name : String} {limit : Option UInt64} {offset : UInt64}
    (operation : step.operation = .call (.runSaved name limit offset)) :
    step.after store = store.recordAny (step.recording? store) := by
  rw [Step.after, Step.recording?, operation]
  exact runSaved_after step store name limit offset

theorem after_of_recording {recording : Recording}
    (records : step.recording? store = some recording) :
    step.after store = store.record recording := by
  have record : store.recordAny (step.recording? store) = store.record recording := by
    rw [records]
    rfl
  rw [← record]
  unfold Step.recording? at records
  split at records
  next operation => exact after_search store operation
  next operation => exact after_runSaved store operation
  next => cases records

theorem after_of_no_recording (silent : step.recording? store = none) :
    (step.after store).log =
      (store.history.filter fun row => !step.clears row, store.nextHistoryId) := by
  obtain ⟨config, now, present, operation⟩ := step
  have keeps {after : Store} (kept : SameLog store after) :
      after.log = (store.history.filter fun _ => !false, store.nextHistoryId) := by
    have whole : (store.history.filter fun _ => !false) = store.history :=
      List.filter_eq_self.mpr fun _ _ => rfl
    rw [kept, whole, log]
  have unsearched : store.recordAny (Step.recording? ⟨config, now, present, operation⟩ store) =
      store := by
    rw [silent]
    rfl
  cases operation with
  | call call =>
    cases call with
    | catalog call => exact keeps (perform_log store call)
    | search query filters limit offset =>
      exact keeps (congrArg log ((after_search store rfl).trans unsearched))
    | runSaved name limit offset =>
      exact keeps (congrArg log ((after_runSaved store rfl).trans unsearched))
    | saveSearch name query filters =>
      exact keeps (saveSearch_log config now present name query filters store)
    | deleteSavedSearch id => exact keeps rfl
    | clearHistory days => rfl
    | rebuildIndexes => exact keeps rfl
  | history limit => exact keeps (congrArg log (history_unchanged config now present limit store))
  | savedSearches => exact keeps (congrArg log (savedSearches_unchanged config now present store))
  | suggest text limit =>
    exact keeps (congrArg log (suggest_unchanged config now present text limit store))

variable (step)

theorem after_history :
    (step.after store).history = (store.history.filter fun row => !step.clears row) ++
        (step.recording? store).toList.map (fun recording => recording.row store.nextHistoryId) ∧
      (step.after store).nextHistoryId =
        store.nextHistoryId + (step.recording? store).toList.length := by
  cases recorded : step.recording? store with
  | none =>
    have log := after_of_no_recording store recorded
    obtain ⟨history, next⟩ := Prod.mk.inj log
    rw [history, next]
    simp
  | some recording =>
    have none : step.clearing? = none := by
      unfold Step.clearing?
      split
      next days operation =>
        rw [Step.recording?, operation] at recorded
        cases recorded
      next => rfl
    have whole : (store.history.filter fun row => !step.clears row) = store.history :=
      List.filter_eq_self.mpr fun row _ => by rw [Step.clears, none]; rfl
    rw [after_of_recording store recorded, whole]
    exact ⟨rfl, rfl⟩

end Stepping

/-! Runs. -/

section Running

/-- The searches that a run records, in their order, each with the steps that follow it. -/
def recordings (store : Store) : List Step → List (Recording × List Step)
  | [] => []
  | step :: later =>
    (step.recording? store).toList.map (fun recording => (recording, later)) ++
      recordings (step.after store) later

theorem recordings_concat (store : Store) (steps : List Step) (step : Step) :
    recordings store (steps ++ [step]) =
      (recordings store steps).map (fun (recording, later) => (recording, later ++ [step])) ++
        (step.recording? (store.afterAll steps)).toList.map fun recording => (recording, []) := by
  induction steps generalizing store with
  | nil => exact List.append_nil _
  | cons first rest ih =>
    rw [List.cons_append, recordings, recordings, ih, List.map_append, List.map_map,
      List.append_assoc]
    rfl

theorem mem_recordings {store : Store} {steps : List Step} {recording : Recording}
    {later : List Step} (member : (recording, later) ∈ recordings store steps) :
    ∃ earlier step, steps = earlier ++ step :: later ∧
      step.recording? (store.afterAll earlier) = some recording := by
  induction steps generalizing store with
  | nil => cases member
  | cons first rest ih =>
    rcases List.mem_append.mp member with here | further
    · obtain ⟨found, recorded, same⟩ := List.mem_map.mp here
      obtain ⟨rfl, rfl⟩ := Prod.mk.inj same
      exact ⟨[], first, rfl, Option.mem_toList.mp recorded⟩
    · obtain ⟨earlier, step, split, recorded⟩ := ih further
      exact ⟨first :: earlier, step, by rw [split]; rfl, recorded⟩

theorem recording_now {step : Step} {store : Store} {recording : Recording}
    (recorded : step.recording? store = some recording) : recording.now = step.now := by
  have search {query : String} {filters : Option FilterSet} {limit : Option UInt64}
      {offset : UInt64}
      (recorded : step.recordingOf? store query filters limit offset = some recording) :
      recording.now = step.now := by
    unfold Step.recordingOf? at recorded
    split at recorded
    next =>
      split at recorded
      next => exact congrArg Recording.now (Option.some.inj recorded).symm
      next => cases recorded
    next => cases recorded
  unfold Step.recording? at recorded
  split at recorded
  next => exact search recorded
  next =>
    split at recorded
    next => exact search recorded
    next => cases recorded
  next => cases recorded

/-- The recorded search, which has that number in its run, is not cleared away by a later step. -/
def IsKept (made : (Recording × List Step) × Nat) : Bool :=
  !made.1.2.any fun step => step.clears (made.1.1.row made.2)

def extended (step : Step) (made : (Recording × List Step) × Nat) :
    (Recording × List Step) × Nat :=
  ((made.1.1, made.1.2 ++ [step]), made.2)

theorem isKept_extended (step : Step) (made : (Recording × List Step) × Nat) :
    IsKept (extended step made) = (!step.clears (made.1.1.row made.2) && IsKept made) := by
  simp only [IsKept, extended, List.any_append, List.any_cons, List.any_nil, Bool.or_false,
    Bool.not_or, Bool.and_comm]

theorem zipIdx_recordings_concat (store : Store) (steps : List Step) (step : Step) :
    (recordings store (steps ++ [step])).zipIdx 1 =
      ((recordings store steps).zipIdx 1).map (extended step) ++
        (step.recording? (store.afterAll steps)).toList.map fun recording =>
          ((recording, []), (recordings store steps).length + 1) := by
  rw [recordings_concat, List.zipIdx_append, List.zipIdx_map, List.length_map, Nat.add_comm 1]
  congr 1
  cases step.recording? (store.afterAll steps) <;> rfl

/-- The history that a run leaves: the searches that it recorded, numbered from one, but for those
that were cleared away after they were recorded. -/
theorem history_afterAll (steps : List Step) :
    (afterAll {} steps).history =
        (((recordings {} steps).zipIdx 1).filter IsKept).map (fun made => made.1.1.row made.2) ∧
      (afterAll {} steps).nextHistoryId = (recordings {} steps).length + 1 := by
  induction steps using List.reverseRecOn with
  | nil => exact ⟨rfl, rfl⟩
  | append_singleton steps step ih =>
    obtain ⟨history, next⟩ := ih
    obtain ⟨kept, added⟩ := after_history step (afterAll {} steps)
    have last : afterAll {} (steps ++ [step]) = step.after (afterAll {} steps) :=
      afterAll_append {} steps [step]
    constructor
    · rw [last, kept, zipIdx_recordings_concat, List.filter_append, List.map_append]
      congr 1
      · rw [history, List.filter_map, List.filter_map, List.filter_filter, List.map_map]
        have still := List.filter_congr (l := (recordings {} steps).zipIdx 1)
          fun made _ => (isKept_extended step made).symm
        exact congrArg (List.map fun made => made.1.1.row made.2) still
      · rw [next]
        cases step.recording? (afterAll {} steps) <;> rfl
    · rw [last, added, next, recordings_concat, List.length_append, List.length_map,
        List.length_map, Nat.add_right_comm]

end Running

end Store

end ModelCatalog
