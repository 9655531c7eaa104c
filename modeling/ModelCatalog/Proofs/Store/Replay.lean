import ModelCatalog.Proofs.Engine.Agreement
import ModelCatalog.Proofs.Search.Pages
import ModelCatalog.Proofs.Store.History

/-!
Searching again. What is saved under a name is searched as it was saved until something is done to it,
and what the history says of a search finds again what that search found.
-/

namespace ModelCatalog

open Time (Instant)

/-- The operation may change what is saved under the name, of which `id` is the id. -/
def Step.Meddles (step : Step) (name : String) (id : Int64) : Prop :=
  match step.operation with
  | .call (.saveSearch saved _ _) => saved = name
  | .call (.deleteSavedSearch deleted) => deleted = id
  | .call (.catalog (.importText text _)) =>
    ∃ lines query filters, Store.readLines 1 (text.toList.splitOn '\n') = .ok lines ∧
      .savedSearch name query filters ∈ lines
  | _ => False

namespace Store

/-! What is saved under a name. -/

def savedAs (store : Store) (name : String) : List SavedRow :=
  store.saved.filter fun row => row.name == name

section Saving

variable {store : Store} {name : String}

theorem savedAs_eq (sound : store.SavedSound) {row : SavedRow} (member : row ∈ store.saved)
    (named : row.name = name) : store.savedAs name = [row] := by
  have found := (find_key_eq_some_iff SavedRow.name sound.names name row).mpr ⟨member, named⟩
  rw [savedAs, filter_key SavedRow.name sound.names name, found]
  rfl

variable (store name) in
theorem mem_putSaved (query filters createdAt : String) :
    ∃ row ∈ (store.putSaved name query filters createdAt).saved,
      row.name = name ∧ row.query = query ∧ row.filters = filters := by
  unfold putSaved
  split
  next known =>
    obtain ⟨row, member, named⟩ := List.any_eq_true.mp known
    have same : row.name = name := by simpa using named
    exact ⟨_, List.mem_map.mpr ⟨row, member, rfl⟩, by simp [same]⟩
  next unknown => exact ⟨_, List.mem_append_right _ List.mem_cons_self, rfl, rfl, rfl⟩

variable (name) in
theorem savedAs_putSaved (sound : store.SavedSound) (query : String) (filters : FilterSet)
    (createdAt : String) :
    ∃ row, (store.putSaved name query filters.encode createdAt).savedAs name = [row] ∧
      row.query = query ∧ row.filters = filters.encode := by
  obtain ⟨row, member, named, same⟩ :=
    mem_putSaved store name query filters.encode createdAt
  exact ⟨row, savedAs_eq (putSaved_saved sound name query filters createdAt) member named, same⟩

theorem savedAs_putSaved_other {other : String} (different : other ≠ name)
    (query filters createdAt : String) :
    (store.putSaved other query filters createdAt).savedAs name = store.savedAs name := by
  unfold putSaved savedAs
  split
  next known =>
    let change (row : SavedRow) : SavedRow :=
      if row.name = other then { row with query, filters, createdAt } else row
    have named (row : SavedRow) : (change row).name = row.name := by
      simp only [change]
      split <;> rfl
    change (store.saved.map change).filter _ = _
    rw [List.filter_map, Function.comp_def]
    simp only [named]
    rw [List.map_congr_left (g := id), List.map_id]
    intro row member
    have same : row.name = name := by simpa using (List.mem_filter.mp member).2
    exact if_neg (same ▸ Ne.symm different)
  next unknown => simp [List.filter_append, different]

theorem savedAs_deleteSaved {row : SavedRow} (only : store.savedAs name = [row]) {deleted : Int64}
    (different : deleted ≠ Int64.ofNat row.id) :
    { store with saved := store.saved.filter fun row => (row.id : Int) != deleted.toInt }.savedAs
      name = [row] := by
  have spared : ((row.id : Int) != deleted.toInt) = true := by
    rw [bne_iff_ne]
    intro same
    exact different (by rw [← Int64.ofInt_toInt deleted, ← same, Int64.ofInt_eq_ofNat])
  have swapped : ((store.saved.filter fun row => (row.id : Int) != deleted.toInt).filter
      fun row => row.name == name) =
        (store.savedAs name).filter fun row => (row.id : Int) != deleted.toInt := by
    rw [savedAs, List.filter_filter, List.filter_filter]
    exact List.filter_congr fun row _ => Bool.and_comm _ _
  rw [savedAs, swapped, only, List.filter_cons, spared]
  rfl

section Calling

variable (config : Config) (now present : Instant)

variable (store name) in
theorem saveSearch_saves (query : String) (filters : FilterSet) :
    ((engine config now present).saveSearch name query filters).run store =
      (match ((store.putSaved name query filters.encode now.timestamp).savedAs name).head? with
        | some row => .ok (Int64.ofNat row.id)
        | none => .error (.savedSearchNotFound name),
      store.putSaved name query filters.encode now.timestamp) := by
  rw [Engine.saveSearch, run_bind]
  change ((engine config now present).backend.query (.savedSearchId name) >>= _ :
    Session Store _).run (store.putSaved name query filters.encode now.timestamp) = _
  rw [run_bind, engine_backend, query_run]
  simp only [answer, savedAs]
  cases (store.putSaved name query filters.encode now.timestamp).saved.filter
    fun row => row.name == name <;> rfl

variable (store) in
theorem saveSearch_after (other query : String) (filters : FilterSet) :
    (((engine config now present).saveSearch other query filters).run store).2 =
      store.putSaved other query filters.encode now.timestamp := by
  rw [saveSearch_saves]

theorem saveSearch_value {query : String} {filters : FilterSet} {row : SavedRow}
    (only : (store.putSaved name query filters.encode now.timestamp).savedAs name = [row]) :
    (((engine config now present).saveSearch name query filters).run store).1 =
      .ok (Int64.ofNat row.id) := by
  rw [saveSearch_saves, only]
  rfl

theorem runSaved_run {query : String} {filters : FilterSet} {row : SavedRow}
    (only : store.savedAs name = [row]) (sameQuery : row.query = query)
    (sameFilters : row.filters = filters.encode) (limit : Option UInt64) (offset : UInt64) :
    ((engine config now present).runSaved name limit offset).run store =
      ((engine config now present).search query (some filters) limit offset).run store := by
  have written : row.IsWritten := ⟨filters, sameFilters⟩
  have read : row.filterSet = filters := by
    rw [SavedRow.filterSet, sameFilters, FilterSet.decode_encode, Option.getD_some]
  have saved : ((engine config now present).savedSearch name).run store = (.ok row.search, store) := by
    rw [savedAs] at only
    rw [Engine.savedSearch, run_bind, engine_backend, query_run]
    simp only [answer, only, List.map_cons, SavedRow.ofRecord_record written]
    rfl
  rw [Engine.runSaved, run_bind, saved]
  simp only [SavedRow.search, sameQuery, read]

end Calling

end Saving

/-! Steps that do not meddle. -/

theorem recordAny_saved (store : Store) (recording? : Option Recording) :
    (store.recordAny recording?).saved = store.saved := by
  cases recording? <;> rfl

theorem importLines_savedAs {store : Store} {name : String} (now : Instant)
    {lines : List CatalogLine}
    (others : ∀ query filters, .savedSearch name query filters ∉ lines) :
    (lines.foldl (importLine now) store).savedAs name = store.savedAs name := by
  induction lines generalizing store with
  | nil => rfl
  | cons line rest ih =>
    rw [List.foldl_cons, ih fun query filters member =>
      others query filters (List.mem_cons_of_mem _ member)]
    cases line with
    | model entry => rw [savedAs, importLine, upsert_saved, savedAs]
    | savedSearch other query filters =>
      have different : other ≠ name := by
        rintro rfl
        exact others query filters List.mem_cons_self
      exact savedAs_putSaved_other different query _ _

theorem perform_savedAs {store : Store} {name : String} {call : CatalogCall}
    (others : ∀ text now lines query filters, call = .importText text now →
      readLines 1 (text.toList.splitOn '\n') = .ok lines →
        .savedSearch name query filters ∉ lines) :
    (store.perform call).savedAs name = store.savedAs name := by
  cases call with
  | upsert entry now => rw [savedAs, perform, upsert_saved, savedAs]
  | importText text now =>
    rw [perform, importText_eq]
    cases read : readLines 1 (text.toList.splitOn '\n') with
    | error bad => rfl
    | ok lines =>
      exact importLines_savedAs now fun query filters => others text now lines query filters rfl read
  | view target now => rw [savedAs, perform, markViewed_saved, savedAs]

theorem savedAs_after {store : Store} {name : String} {row : SavedRow} {step : Step}
    (only : store.savedAs name = [row]) (harmless : ¬step.Meddles name (Int64.ofNat row.id)) :
    (step.after store).savedAs name = [row] := by
  obtain ⟨config, now, present, operation⟩ := step
  have keeps {after : Store} (kept : after.saved = store.saved) : after.savedAs name = [row] := by
    rw [savedAs, kept]
    exact only
  cases operation with
  | call call =>
    cases call with
    | catalog call =>
      refine (perform_savedAs ?_).trans only
      rintro text now lines query filters rfl read member
      exact harmless ⟨lines, query, filters, read, member⟩
    | search query filters limit offset =>
      exact keeps ((congrArg saved (after_search store rfl)).trans (recordAny_saved store _))
    | runSaved name limit offset =>
      exact keeps ((congrArg saved (after_runSaved store rfl)).trans (recordAny_saved store _))
    | saveSearch other query filters =>
      have ran := saveSearch_after store config now present other query filters
      exact (congrArg (savedAs · name) ran).trans
        ((savedAs_putSaved_other harmless query _ _).trans only)
    | deleteSavedSearch id => exact savedAs_deleteSaved only harmless
    | clearHistory days => exact keeps rfl
    | rebuildIndexes => exact keeps rfl
  | history limit => exact keeps (congrArg saved (history_unchanged config now present limit store))
  | savedSearches => exact keeps (congrArg saved (savedSearches_unchanged config now present store))
  | suggest text limit =>
    exact keeps (congrArg saved (suggest_unchanged config now present text limit store))

theorem savedAs_afterAll {store : Store} {name : String} {row : SavedRow} {steps : List Step}
    (only : store.savedAs name = [row])
    (harmless : ∀ step ∈ steps, ¬step.Meddles name (Int64.ofNat row.id)) :
    (store.afterAll steps).savedAs name = [row] := by
  induction steps generalizing store with
  | nil => exact only
  | cons step rest ih =>
    exact ih (savedAs_after only (harmless step List.mem_cons_self))
      fun later member => harmless later (List.mem_cons_of_mem _ member)

/-! Searches in stores with the same models. -/

/-- In stores with the same models the session comes to the same, and leaves them with the same. -/
def Steady {α : Type} (session : Session Store α) : Prop :=
  ∀ store other, SameModels store other → (session.run other).1 = (session.run store).1 ∧
    SameModels (session.run store).2 (session.run other).2

section Steady

variable (config : Config) (now present : Instant)

theorem runPlan_steady (plan : SearchPlan) :
    Steady (Engine.runPlan (engine config now present).backend plan) := by
  have asks (question : Question)
      (blind : ∀ store : Store,
        store.shelf.answer present question = store.answer present question) :
      Steady ((engine config now present).backend.query question) := by
    intro store other same
    refine ⟨?_, same⟩
    change other.answer present question = store.answer present question
    rw [← blind other, same, blind]
  exact Engine.runPlan_agrees (asks _ fun _ => rfl) (asks _ fun _ => rfl)

theorem search_steady {store other : Store} (same : SameModels store other) (query : String)
    (filters : Option FilterSet) (limit : Option UInt64) (offset : UInt64) :
    (((engine config now present).search query filters limit offset).run other).1 =
      (((engine config now present).search query filters limit offset).run store).1 := by
  by_cases nothing : Engine.AsksNothing query filters
  · rw [Engine.search_nothing _ query filters limit offset nothing,
      Engine.search_nothing _ query filters limit offset nothing]
  · rw [Engine.search_value _ query filters limit offset nothing,
      Engine.search_value _ query filters limit offset nothing,
      (Engine.runSearch_agrees (runPlan_steady config now present) _ _ store other same).1]

end Steady

/-- A recorded search finds the same again in every store with the models of that time. -/
theorem search_again (recording : Recording) {store : Store}
    (same : SameModels recording.before store) :
    (((engine recording.config recording.now recording.present).search recording.query
      (some recording.own) recording.limit recording.offset).run store).1 =
        .ok recording.result := by
  have callers : (engine recording.config recording.now recording.present).search recording.query
      (some recording.own) recording.limit recording.offset =
        (engine recording.config recording.now recording.present).search recording.query
          recording.filters recording.limit recording.offset := rfl
  rw [callers, search_steady recording.config recording.now recording.present same]
  exact recording.found

theorem mem_window {α : Type} {limit offset : UInt64} {rows : List α} {row : α}
    (member : row ∈ window limit offset rows) : row ∈ rows := by
  unfold window at member
  split at member
  next => exact List.mem_of_mem_drop member
  next => exact List.mem_of_mem_drop (List.mem_of_mem_take member)

theorem history_tells (steps : List Step) (config : Config) (now present : Instant)
    (limit : Option UInt64) :
    ∃ records, ((engine config now present).history limit).run (afterAll {} steps) =
        (.ok records, afterAll {} steps) ∧
      ∀ record ∈ records, ∃ made ∈ (recordings {} steps).zipIdx 1,
        record = made.1.1.entry made.2 := by
  let entries := (((recordings {} steps).zipIdx 1).filter IsKept).map fun made =>
    (made.1.1, made.2)
  have held : (afterAll {} steps).history = entries.map fun entry => entry.1.row entry.2 := by
    rw [(history_afterAll steps).1, List.map_map]
    rfl
  refine ⟨_, history_run held config now present limit, ?_⟩
  intro record member
  obtain ⟨entry, shown, rfl⟩ := List.mem_map.mp member
  have kept : entry ∈ entries := List.mem_mergeSort.mp (mem_window shown)
  obtain ⟨made, inRun, rfl⟩ := List.mem_map.mp kept
  exact ⟨made, (List.mem_filter.mp inRun).1, rfl⟩

/-- Searches that were kept are searches that can be made again. A search that was saved is run like
the search for its query with its filters, also later, as long as nothing is done to what is saved
under its name. A search in the history, made again with the query and the filters that the history
tells, finds again what it found, in every store with the same models. -/
theorem searches_replay {store : Store} (reachable : store.Reachable) (config : Config)
    (now present : Instant) (name query : String) (filters : FilterSet) :
    (∃ id saved, ((engine config now present).saveSearch name query filters).run store =
        (.ok id, saved) ∧
      ∀ later : List Step, (∀ step ∈ later, ¬step.Meddles name id) →
        ∀ config now present limit offset,
          ((engine config now present).runSaved name limit offset).run (saved.afterAll later) =
            ((engine config now present).search query (some filters) limit offset).run
              (saved.afterAll later)) ∧
    ∀ steps config now present limit,
      ∃ records, ((engine config now present).history limit).run (afterAll {} steps) =
          (.ok records, afterAll {} steps) ∧
        ∀ record ∈ records, ∃ made ∈ (recordings {} steps).zipIdx 1,
          let recording := made.1.1
          record = recording.entry made.2 ∧ ∀ store, SameModels recording.before store →
            (((engine recording.config recording.now recording.present).search record.query
              (some record.filters) recording.limit recording.offset).run store).1 =
                .ok recording.result := by
  constructor
  · obtain ⟨row, only, sameQuery, sameFilters⟩ :=
      savedAs_putSaved name reachable.sound.saved query filters now.timestamp
    refine ⟨Int64.ofNat row.id, store.putSaved name query filters.encode now.timestamp, ?_, ?_⟩
    · exact Prod.ext (saveSearch_value config now present only)
        (saveSearch_after store config now present name query filters)
    · intro later harmless config now present limit offset
      exact runSaved_run config now present (savedAs_afterAll only harmless) sameQuery sameFilters
        limit offset
  · intro steps config now present limit
    obtain ⟨records, read, tells⟩ := history_tells steps config now present limit
    refine ⟨records, read, ?_⟩
    intro record member
    obtain ⟨made, inRun, rfl⟩ := tells record member
    exact ⟨made, inRun, rfl, fun _ same => search_again made.1.1 same⟩

/-- Saving another search in between does no harm. -/
theorem searches_replay_between :
    let calls := engine {} ⟨0, 0⟩ ⟨0, 0⟩
    let between : Step := ⟨{}, ⟨0, 0⟩, ⟨0, 0⟩, .call (.saveSearch "other" "tag" {})⟩
    Reachable {} ∧ ∃ id saved, (calls.saveSearch "mine" "inProject" {}).run {} = (.ok id, saved) ∧
      ¬between.Meddles "mine" id ∧
      (calls.runSaved "mine" (some 5) 0).run (saved.afterAll [between]) =
        (calls.search "inProject" (some {}) (some 5) 0).run (saved.afterAll [between]) := by
  intro calls between
  obtain ⟨id, saved, ran, same⟩ :=
    (searches_replay .empty {} ⟨0, 0⟩ ⟨0, 0⟩ "mine" "inProject" {}).1
  have harmless : ¬between.Meddles "mine" id := by
    change ¬"other" = "mine"
    decide
  refine ⟨.empty, id, saved, ran, harmless, same [between] ?_ {} ⟨0, 0⟩ ⟨0, 0⟩ (some 5) 0⟩
  intro step member
  rw [List.mem_singleton.mp member]
  exact harmless

end Store

end ModelCatalog
