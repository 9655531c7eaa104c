import ModelCatalog.Proofs.Engine.Agreement
import ModelCatalog.Proofs.Store.Events
import ModelCatalog.Proofs.TextIndex.Arrangement
import ModelCatalog.Store.Report

/-!
Rebuilding the text indexes. While the indexes follow their tables, building them anew changes at most
the order of their entries, and nothing that a store is asked, now or later, shows that order.
-/

namespace ModelCatalog

open Time (Instant)

namespace Store

/-! Steps. -/

section Stepping

variable {store : Store} (tables : store.TablesSound) (indexes : store.IndexesSound)
include tables indexes

theorem step_triggered (step : Step) :
    store.Triggered (step.after store) ∨
      (step.operation = .call .rebuildIndexes ∧ step.after store = store.rebuildIndexes) := by
  have effect := step.effect store
  generalize step.after store = after at effect ⊢
  cases effect with
  | catalog call _ => exact Or.inl (perform_triggered tables indexes call)
  | saving name query filters _ =>
    rw [putSaved_eq]
    exact Or.inl (triggered_of_texts rfl)
  | deleting id _ => exact Or.inl (triggered_of_texts rfl)
  | rebuilding operation => exact Or.inr ⟨operation, rfl⟩
  | reading history nextHistoryId _ => exact Or.inl (triggered_of_texts rfl)

theorem step_indexes (step : Step) : (step.after store).IndexesSound := by
  rcases step_triggered tables indexes step with fired | ⟨_, rebuilt⟩
  · exact fired.indexesSound tables indexes
  · rw [rebuilt]
    exact rebuildIndexes_indexes store

end Stepping

theorem indexes_afterAll (steps : List Step) : (afterAll {} steps).IndexesSound := by
  induction steps using List.reverseRecOn with
  | nil => exact indexesSound_empty
  | append_singleton steps step ih =>
    rw [afterAll_append]
    exact step_indexes (tables_afterAll steps).1 ih step

structure InStep (store : Store) : Prop where
  tables : store.TablesSound
  indexes : store.IndexesSound

theorem inStep_afterAll (steps : List Step) : (afterAll {} steps).InStep :=
  ⟨(tables_afterAll steps).1, indexes_afterAll steps⟩

section InStep

variable {store : Store} (inStep : store.InStep)
include inStep

/-! Answers. -/

theorem rank_rebuilt (expression : TextMatch.Expression) (id : Nat) :
    (store.rebuildIndexes.ranking expression).rank? id = (store.ranking expression).rank? id := by
  have scored {α : Type} (texts : Indexed α) {rows : List α} {index : TextIndex}
      (follows : texts.Follows rows index) :
      (TextIndex.scores (TextIndex.rows (rows.map texts.entry)) expression).lookup id =
        (TextIndex.scores index.rows expression).lookup id := by
    refine TextIndex.lookup_scores_perm (follows.entries.symm.map IndexRow.ofEntry) ?_ expression id
    rw [List.map_map]
    exact follows.ids
  have models : (store.rebuildIndexes.ranking expression).models.lookup id =
      (store.ranking expression).models.lookup id :=
    scored modelTexts (models_follow inStep.tables inStep.indexes)
  have metadata : (store.rebuildIndexes.ranking expression).metadata.lookup id =
      (store.ranking expression).metadata.lookup id :=
    scored metadataTexts (metadata_follows inStep.tables inStep.indexes)
  rw [Ranking.rank?, Ranking.rank?, models, metadata]

theorem matching_rebuilt (present : Instant) (plan : SearchPlan) :
    store.rebuildIndexes.matching present plan = store.matching present plan := by
  have candidates : store.rebuildIndexes.candidates present plan = store.candidates present plan :=
    rfl
  unfold matching
  simp only [candidates, rank_rebuilt inStep]

/-- Rebuilt indexes change no answer. -/
theorem answer_rebuilt (present : Instant) (question : Question) :
    store.rebuildIndexes.answer present question = store.answer present question := by
  cases question with
  | countFound plan => rw [answer, answer, matching_rebuilt inStep]
  | foundPage plan => rw [answer, answer, page, page, found, found, matching_rebuilt inStep]
  | recentSearches limit => rfl
  | savedSearches => rfl
  | savedSearch name => rfl
  | savedSearchId name => rfl
  | filenamesLike pattern => rfl
  | titlesLike pattern => rfl
  | keywordsLike pattern => rfl

theorem change_inStep (present : Instant) (statement : Change) :
    (store.change present statement).2.InStep := by
  have keeps {after : Store} (tables : after.TablesSound) (same : after.texts = store.texts) :
      after.InStep := ⟨tables, (triggered_of_texts same).indexesSound inStep.tables inStep.indexes⟩
  cases statement with
  | recordSearch query filters count createdAt => exact keeps { inStep.tables with } rfl
  | clearHistory cutoff => exact keeps { inStep.tables with } rfl
  | saveSearch name query filters createdAt =>
    rw [change, putSaved_eq]
    exact keeps { inStep.tables with } rfl
  | deleteSavedSearch id => exact keeps { inStep.tables with } rfl

theorem perform_inStep (call : CatalogCall) : (store.perform call).InStep :=
  ⟨(perform_tables inStep.tables call).1, perform_indexes inStep.tables inStep.indexes call⟩

end InStep

/-! Changes of the tables. -/

/-- What it does to the tables does not depend on the indexes. -/
def Blind (change : Store → Store) : Prop :=
  ∀ store : Store, (change store.rebuildIndexes).rebuildIndexes = (change store).rebuildIndexes

theorem Blind.same {change : Store → Store} (blind : Blind change) {store other : Store}
    (same : other.rebuildIndexes = store.rebuildIndexes) :
    (change other).rebuildIndexes = (change store).rebuildIndexes := by
  calc
    _ = (change other.rebuildIndexes).rebuildIndexes := (blind other).symm
    _ = (change store.rebuildIndexes).rebuildIndexes := by rw [same]
    _ = _ := blind store

theorem Blind.comp {change next : Store → Store} (blind : Blind change) (blindNext : Blind next) :
    Blind fun store => next (change store) :=
  fun store => blindNext.same (blind store)

theorem blind_foldl {α : Type} {change : Store → α → Store}
    (blind : ∀ item, Blind fun store => change store item) (items : List α) :
    Blind fun store => items.foldl change store := by
  induction items with
  | nil => exact fun _ => rfl
  | cons item rest ih => exact (blind item).comp ih

theorem putModel_rebuilt (store : Store) (entry : CatalogEntry) (now : Instant) :
    (store.rebuildIndexes.putModel entry now).1 = (store.putModel entry now).1 ∧
      (store.rebuildIndexes.putModel entry now).2.rebuildIndexes =
        (store.putModel entry now).2.rebuildIndexes := by
  have found : store.rebuildIndexes.modelAt? entry.filePath = store.modelAt? entry.filePath := rfl
  simp only [putModel, found]
  cases store.modelAt? entry.filePath <;> exact ⟨rfl, rfl⟩

theorem putMetadata_blind (id : Nat) (entry : CatalogEntry) :
    Blind fun store => store.putMetadata id entry := by
  intro store
  have found : store.rebuildIndexes.metadataOf? id = store.metadataOf? id := rfl
  simp only [putMetadata, found]
  split
  · split <;> rfl
  · rfl

theorem putProject_rebuilt (store : Store) (name : String) :
    store.rebuildIndexes.putProject name =
      ((store.putProject name).1, (store.putProject name).2.rebuildIndexes) := by
  have found : store.rebuildIndexes.projectNamed? name = store.projectNamed? name := rfl
  rw [putProject, putProject, found]
  cases store.projectNamed? name <;> rfl

theorem link_blind (id : Nat) (name : String) : Blind fun store => link id store name := by
  intro store
  simp only [link, putProject_rebuilt]
  have links : (store.putProject name).2.rebuildIndexes.links = (store.putProject name).2.links :=
    rfl
  rw [links]
  split <;> rfl

theorem upsert_blind (entry : CatalogEntry) (now : Instant) :
    Blind fun store => (store.upsert entry now).2 := by
  intro store
  obtain ⟨id, modelled⟩ := putModel_rebuilt store entry now
  have linked := blind_foldl (link_blind (store.putModel entry now).1) entry.projects
  have described := (putMetadata_blind (store.putModel entry now).1 entry).comp linked
  simp only [upsert, id]
  exact described.same modelled

theorem markViewed_blind (target : String) (now : Instant) :
    Blind fun store => (store.markViewed target now).2 := by
  intro store
  exact blind_foldl (fun row => fun _ => rfl) (store.models.filter (isTarget target)) store

theorem putSaved_blind (name query filters createdAt : String) :
    Blind fun store => store.putSaved name query filters createdAt := by
  intro store
  have saved := putSaved_congr (show store.rebuildIndexes.saved = store.saved from rfl) name query
    filters createdAt
  change (store.rebuildIndexes.putSaved name query filters createdAt).rebuildIndexes =
    (store.putSaved name query filters createdAt).rebuildIndexes
  rw [putSaved_eq store.rebuildIndexes, putSaved_eq store, saved]
  rfl

theorem importLine_blind (now : Instant) (line : CatalogLine) :
    Blind fun store => importLine now store line := by
  cases line with
  | model entry => exact upsert_blind entry now
  | savedSearch name query filters => exact putSaved_blind name query filters.encode now.timestamp

theorem perform_blind (call : CatalogCall) : Blind fun store => store.perform call := by
  cases call with
  | upsert entry now => exact upsert_blind entry now
  | importText text now =>
    intro store
    simp only [perform, importText_eq]
    cases readLines 1 (text.toList.splitOn '\n') with
    | error bad => rfl
    | ok lines => exact blind_foldl (importLine_blind now) lines store
  | view target now => exact markViewed_blind target now

theorem change_blind (present : Instant) (statement : Change) :
    Blind fun store => (store.change present statement).2 := by
  cases statement with
  | saveSearch name query filters createdAt => exact putSaved_blind name query filters createdAt
  | recordSearch query filters count createdAt => exact fun _ => rfl
  | clearHistory cutoff => exact fun _ => rfl
  | deleteSavedSearch id => exact fun _ => rfl

/-! Two stores with the same tables. -/

/-- The stores differ at most in the order of their indexes. -/
structure Alike (store other : Store) : Prop where
  same : other.rebuildIndexes = store.rebuildIndexes
  inStep : store.InStep
  otherInStep : other.InStep

theorem alike_rebuilt {store : Store} (inStep : store.InStep) : Alike store store.rebuildIndexes :=
  ⟨rfl, inStep, { inStep.tables with }, rebuildIndexes_indexes store⟩

section Alike

variable (config : Config) (now present : Instant)

theorem query_alike (question : Question) :
    Agrees Alike ((engine config now present).backend.query question) := by
  intro store other alike
  have told : other.answer present question = store.answer present question := by
    calc
      _ = other.rebuildIndexes.answer present question :=
        (answer_rebuilt alike.otherInStep present question).symm
      _ = store.rebuildIndexes.answer present question := by rw [alike.same]
      _ = _ := answer_rebuilt alike.inStep present question
  exact ⟨told, alike⟩

theorem execute_alike (statement : Change) :
    Agrees Alike ((engine config now present).backend.execute statement) := by
  intro store other alike
  have count (store : Store) : (store.rebuildIndexes.change present statement).1 =
      (store.change present statement).1 := by cases statement <;> rfl
  have counted : (other.change present statement).1 = (store.change present statement).1 := by
    calc
      _ = (other.rebuildIndexes.change present statement).1 := (count other).symm
      _ = (store.rebuildIndexes.change present statement).1 := by rw [alike.same]
      _ = _ := count store
  exact ⟨congrArg Except.ok counted, (change_blind present statement).same alike.same,
    change_inStep alike.inStep present statement, change_inStep alike.otherInStep present statement⟩

theorem search_alike (query : String) (filters : Option FilterSet) (limit : Option UInt64)
    (offset : UInt64) :
    Agrees Alike ((engine config now present).search query filters limit offset) :=
  Engine.recordsSearch_agrees (query_alike config now present) (execute_alike config now present)
    query filters limit offset

theorem runSaved_alike (name : String) (limit : Option UInt64) (offset : UInt64) :
    Agrees Alike ((engine config now present).runSaved name limit offset) :=
  Engine.runSaved_agrees (query_alike config now present) (execute_alike config now present) name
    limit offset

end Alike

theorem step_alike {store other : Store} (alike : Alike store other) (step : Step) :
    Alike (step.after store) (step.after other) := by
  obtain ⟨config, now, present, operation⟩ := step
  have query := query_alike config now present
  have execute := execute_alike config now present
  have keeps {after otherAfter : Store} (same : after = store) (otherSame : otherAfter = other) :
      Alike after otherAfter := by
    rw [same, otherSame]
    exact alike
  cases operation with
  | call call =>
    cases call with
    | catalog call =>
      exact ⟨(perform_blind call).same alike.same, perform_inStep alike.inStep call,
        perform_inStep alike.otherInStep call⟩
    | search query filters limit offset =>
      exact (search_alike config now present query filters limit offset store other alike).2
    | runSaved name limit offset =>
      exact (runSaved_alike config now present name limit offset store other alike).2
    | saveSearch name text filters =>
      exact (Engine.saveSearch_agrees query execute name text filters store other alike).2
    | deleteSavedSearch id =>
      exact (Engine.deleteSavedSearch_agrees execute id store other alike).2
    | clearHistory days => exact (execute _ store other alike).2
    | rebuildIndexes =>
      refine ⟨?_, (alike_rebuilt alike.inStep).otherInStep, (alike_rebuilt alike.otherInStep).otherInStep⟩
      exact congrArg Store.rebuildIndexes alike.same
  | history limit =>
    exact keeps (history_unchanged config now present limit store)
      (history_unchanged config now present limit other)
  | savedSearches =>
    exact keeps (savedSearches_unchanged config now present store)
      (savedSearches_unchanged config now present other)
  | suggest text limit =>
    exact keeps (suggest_unchanged config now present text limit store)
      (suggest_unchanged config now present text limit other)

theorem afterAll_alike {store other : Store} (alike : Alike store other) (steps : List Step) :
    Alike (store.afterAll steps) (other.afterAll steps) := by
  induction steps generalizing store other with
  | nil => exact alike
  | cons step rest ih => exact ih (step_alike alike step)

/-- The text indexes after any run. Each holds one entry for each row of its table, with the texts that
the row has now, and no other; none is of a model that is not there. All this the triggers do, but for
a rebuild. So a report finds the indexes as long as their tables; and a rebuild changes no search, at
once or after further steps. -/
theorem text_indexes_of_run (steps : List Step) :
    let store := afterAll {} steps
    (modelTexts.Follows store.models store.modelIndex ∧
      metadataTexts.Follows store.metadata store.metadataIndex ∧
      ∀ entry ∈ store.metadataIndex, entry.id ∈ store.models.map ModelRow.id) ∧
    (∀ step : Step, store.Triggered (step.after store) ∨
      (step.operation = .call .rebuildIndexes ∧ step.after store = store.rebuildIndexes)) ∧
    (store.consistency.modelsOk = true ∧ store.consistency.metadataOk = true) ∧
    ∀ (more : List Step) config now present limit offset,
      let calls := engine config now present
      (∀ query filters,
        ((calls.search query filters limit offset).run (store.rebuildIndexes.afterAll more)).1 =
          ((calls.search query filters limit offset).run (store.afterAll more)).1) ∧
      ∀ name,
        ((calls.runSaved name limit offset).run (store.rebuildIndexes.afterAll more)).1 =
          ((calls.runSaved name limit offset).run (store.afterAll more)).1 := by
  intro store
  have inStep : store.InStep := inStep_afterAll steps
  refine ⟨⟨models_follow inStep.tables inStep.indexes, metadata_follows inStep.tables inStep.indexes,
    ?_⟩, step_triggered inStep.tables inStep.indexes, ⟨?_, ?_⟩, ?_⟩
  · intro entry member
    obtain ⟨row, inTable, rfl⟩ := List.mem_map.mp (inStep.indexes.metadata.mem_iff.mp member)
    exact inStep.tables.metadataModels row inTable
  · rw [ConsistencyReport.modelsOk, beq_iff_eq]
    change store.models.length = store.modelIndex.length
    rw [inStep.indexes.models.length_eq, List.length_map]
  · rw [ConsistencyReport.metadataOk, beq_iff_eq]
    change store.metadata.length = store.metadataIndex.length
    rw [inStep.indexes.metadata.length_eq, List.length_map]
  · intro more config now present limit offset calls
    have alike := afterAll_alike (alike_rebuilt inStep) more
    exact ⟨fun query filters =>
        (search_alike config now present query filters limit offset _ _ alike).1,
      fun name => (runSaved_alike config now present name limit offset _ _ alike).1⟩

end Store

end ModelCatalog
