import ModelCatalog.Proofs.Store.Replay

/-!
What the steps of a run do to a store. The calls of the catalog change what is listed, and no other
step does.
-/

namespace ModelCatalog

namespace Step

variable (step : Step)

def IsReading : Prop :=
  match step.operation with
  | .call (.search _ _ _ _) | .call (.runSaved _ _ _) | .call (.clearHistory _) => True
  | .call _ => False
  | _ => True

inductive Effect (step : Step) (store : Store) : Store → Prop where
  | catalog (call : CatalogCall) (operation : step.operation = .call (.catalog call)) :
    Effect step store (store.perform call)
  | saving (name query : String) (filters : FilterSet)
    (operation : step.operation = .call (.saveSearch name query filters)) :
    Effect step store (store.putSaved name query filters.encode step.now.timestamp)
  | deleting (id : Int64) (operation : step.operation = .call (.deleteSavedSearch id)) :
    Effect step store
      { store with saved := store.saved.filter fun row => (row.id : Int) != id.toInt }
  | rebuilding (operation : step.operation = .call .rebuildIndexes) :
    Effect step store store.rebuildIndexes
  | reading (history : List HistoryRow) (nextHistoryId : Nat) (reading : step.IsReading) :
    Effect step store { store with history, nextHistoryId }

theorem effect (store : Store) : step.Effect store (step.after store) := by
  obtain ⟨config, now, present, operation⟩ := step
  have searched (step : Step) (reading : step.IsReading) (recording? : Option Recording) :
      step.Effect store (store.recordAny recording?) := by
    cases recording? with
    | none => exact .reading store.history store.nextHistoryId reading
    | some recording => exact .reading _ _ reading
  have kept {step : Step} (reading : step.IsReading) {after : Store} (same : after = store) :
      step.Effect store after := same ▸ searched step reading none
  cases operation with
  | call call =>
    cases call with
    | catalog call => exact .catalog call rfl
    | search query filters limit offset =>
      rw [Store.after_search store rfl]
      exact searched _ (by trivial) _
    | runSaved name limit offset =>
      rw [Store.after_runSaved store rfl]
      exact searched _ (by trivial) _
    | saveSearch name query filters =>
      simp only [after, Store.after, Store.saveSearch_after]
      exact .saving name query filters rfl
    | deleteSavedSearch id => exact .deleting id rfl
    | clearHistory days => exact .reading _ _ (by trivial)
    | rebuildIndexes => exact .rebuilding rfl
  | history limit => exact kept (by trivial) (Store.history_unchanged config now present limit store)
  | savedSearches => exact kept (by trivial) (Store.savedSearches_unchanged config now present store)
  | suggest text limit =>
    exact kept (by trivial) (Store.suggest_unchanged config now present text limit store)

def events : List CatalogEvent :=
  match step.operation with
  | .call (.catalog call) => call.events
  | _ => []

variable {step} in
theorem IsReading.events (reading : step.IsReading) : step.events = [] := by
  unfold Step.events
  split
  next call operation =>
    rw [IsReading, operation] at reading
    cases reading
  next => rfl

end Step

namespace Store

/-- One step: its events change the entries, and nothing else of it does. -/
theorem step_tables {store : Store} (sound : store.TablesSound) (step : Step) :
    (step.after store).TablesSound ∧
      (step.after store).entries = step.events.foldl CatalogEvent.apply store.entries := by
  have effect := step.effect store
  generalize step.after store = after at effect ⊢
  cases effect with
  | catalog call operation =>
    rw [Step.events, operation]
    exact perform_tables sound call
  | saving name query filters operation =>
    rw [Step.events, operation, putSaved_eq]
    exact ⟨{ sound with }, rfl⟩
  | deleting id operation =>
    rw [Step.events, operation]
    exact ⟨{ sound with }, rfl⟩
  | rebuilding operation =>
    rw [Step.events, operation]
    exact ⟨{ sound with }, rfl⟩
  | reading history nextHistoryId reading =>
    rw [reading.events]
    exact ⟨{ sound with }, rfl⟩

theorem tables_afterAll (steps : List Step) :
    (afterAll {} steps).TablesSound ∧
      Chronicle.Tells (steps.flatMap Step.events) (afterAll {} steps).entries := by
  have run : (afterAll {} steps).TablesSound ∧ (afterAll {} steps).entries =
      (steps.flatMap Step.events).foldl CatalogEvent.apply [] := by
    induction steps using List.reverseRecOn with
    | nil => exact ⟨tablesSound_empty, rfl⟩
    | append_singleton steps step ih =>
      obtain ⟨sound, entries⟩ := step_tables ih.1 step
      rw [afterAll_append, List.flatMap_append, List.flatMap_singleton, List.foldl_append, ← ih.2]
      exact ⟨sound, entries⟩
  exact ⟨run.1, run.2 ▸ Chronicle.tells_foldl _⟩

end Store

end ModelCatalog
