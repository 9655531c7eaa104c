import Mathlib.Algebra.Group.Nat.Defs
import ModelCatalog.Proofs.Engine.Sessions
import ModelCatalog.Proofs.Store.Indexes
import ModelCatalog.Proofs.Store.Saved

/-!
The stores that calls can lead to, and what is true of all of them.
-/

namespace ModelCatalog

namespace Store

structure Sound (store : Store) : Prop where
  tables : store.TablesSound
  indexes : store.IndexesSound
  saved : store.SavedSound

theorem sound_empty : Sound {} := ⟨tablesSound_empty, indexesSound_empty, savedSound_empty⟩

def forgotten (store : Store) : Store := { store with history := [], nextHistoryId := 1 }

def SameCatalog (before after : Store) : Prop := after.forgotten = before.forgotten

theorem sameCatalog_composes : Composes SameCatalog :=
  ⟨fun _ => rfl, fun first second => Eq.trans second first⟩

theorem SameCatalog.sound {before after : Store} (same : SameCatalog before after)
    (sound : before.Sound) : after.Sound := by
  have kept : before.forgotten.Sound :=
    ⟨{ sound.tables with }, ⟨sound.indexes.models, sound.indexes.metadata⟩, { sound.saved with }⟩
  rw [← same] at kept
  exact ⟨{ kept.tables with }, ⟨kept.indexes.models, kept.indexes.metadata⟩, { kept.saved with }⟩

section Sessions

variable (config : Config) (now present : Time.Instant)

def engine : Engine Store := ⟨backend present, config, now⟩

theorem query_sameCatalog (question : Question) :
    Moves SameCatalog ((backend present).query question) := fun _ => rfl

theorem recordSearch_sameCatalog (query : String) (filters : FilterSet) (count : UInt64) :
    Moves SameCatalog ((engine config now present).recordSearch query filters count) := by
  apply moves_bind sameCatalog_composes
  · exact fun _ => rfl
  · exact fun _ => moves_pure sameCatalog_composes _

theorem search_sameCatalog (query : String) (filters : Option FilterSet) (limit : Option UInt64)
    (offset : UInt64) :
    Moves SameCatalog ((engine config now present).search query filters limit offset) :=
  Engine.search_moves sameCatalog_composes
    (fun _ _ => Engine.runPlan_moves sameCatalog_composes (query_sameCatalog present _)
      (query_sameCatalog present _))
    (recordSearch_sameCatalog config now present query)

end Sessions

end Store

inductive StoreCall where
  | catalog (call : CatalogCall)
  | search (query : String) (filters : Option FilterSet) (limit : Option UInt64) (offset : UInt64)
  | runSaved (name : String) (limit : Option UInt64) (offset : UInt64)
  | saveSearch (name query : String) (filters : FilterSet)
  | deleteSavedSearch (id : Int64)
  | clearHistory (days : UInt32)
  | rebuildIndexes

namespace Store

def after (config : Config) (now present : Time.Instant) (store : Store) : StoreCall → Store
  | .catalog call => store.perform call
  | .search query filters limit offset =>
    (((engine config now present).search query filters limit offset).run store).2
  | .runSaved name limit offset =>
    (((engine config now present).runSaved name limit offset).run store).2
  | .saveSearch name query filters =>
    (((engine config now present).saveSearch name query filters).run store).2
  | .deleteSavedSearch id => (((engine config now present).deleteSavedSearch id).run store).2
  | .clearHistory days => (((engine config now present).clearHistory days).run store).2
  | .rebuildIndexes => ((engine config now present).rebuildIndexes.run store).2

/-- The stores that calls lead to from the empty one. The id of a model is a signed word, so that no
call adds more models than there are such ids. -/
inductive Reachable : Store → Prop
  | empty : Reachable {}
  | call {store : Store} (reachable : Reachable store) (config : Config)
      (now present : Time.Instant) (call : StoreCall)
      (fits : (store.after config now present call).models.length < 2 ^ 63) :
      Reachable (store.after config now present call)

theorem saved_of_saved_eq {store other : Store} (same : other.saved = store.saved)
    (sound : store.SavedSound) : other.SavedSound :=
  ⟨same ▸ sound.ids, same ▸ sound.names, same ▸ sound.written⟩

theorem importLine_saved {store : Store} (sound : store.SavedSound) (now : Time.Instant)
    (line : CatalogLine) : (importLine now store line).SavedSound := by
  cases line with
  | model entry => exact saved_of_saved_eq (upsert_saved store entry now) sound
  | savedSearch name query filters => exact putSaved_saved sound name query filters now.timestamp

theorem importLines_saved {store : Store} (sound : store.SavedSound) (now : Time.Instant)
    (lines : List CatalogLine) : (lines.foldl (importLine now) store).SavedSound := by
  induction lines generalizing store with
  | nil => exact sound
  | cons line rest ih => exact ih (importLine_saved sound now line)

theorem perform_saved {store : Store} (sound : store.SavedSound) (call : CatalogCall) :
    (store.perform call).SavedSound := by
  cases call with
  | upsert entry now => exact saved_of_saved_eq (upsert_saved store entry now) sound
  | importText text now =>
    simp only [perform, importText_eq]
    cases readLines 1 (text.toList.splitOn '\n') with
    | error bad => exact sound
    | ok lines => exact importLines_saved sound now lines
  | view target now => exact saved_of_saved_eq (markViewed_saved store target now) sound

def Remains (before after : Store) : Prop := before.Sound → after.Sound

theorem remains_composes : Composes Remains :=
  ⟨fun _ => id, fun first second sound => second (first sound)⟩

section Remaining

variable (config : Config) (now present : Time.Instant)

theorem query_remains (question : Question) :
    Moves Remains ((backend present).query question) := fun _ => id

theorem savedSearch_remains (name : String) :
    Moves Remains ((engine config now present).savedSearch name) := by
  apply moves_bind remains_composes (query_remains present _)
  intro records
  split
  next => exact moves_throw remains_composes _
  next => exact fun _ => id

theorem search_remains (query : String) (filters : Option FilterSet) (limit : Option UInt64)
    (offset : UInt64) :
    Moves Remains ((engine config now present).search query filters limit offset) :=
  fun store sound => (search_sameCatalog config now present query filters limit offset store).sound
    sound

theorem runSaved_remains (name : String) (limit : Option UInt64) (offset : UInt64) :
    Moves Remains ((engine config now present).runSaved name limit offset) :=
  moves_bind remains_composes (savedSearch_remains config now present name)
    fun saved => search_remains config now present saved.query (some saved.filters) limit offset

theorem saveSearch_remains (name query : String) (filters : FilterSet) :
    Moves Remains ((engine config now present).saveSearch name query filters) := by
  have execute : Moves Remains ((backend present).execute
      (.saveSearch name query filters.encode now.timestamp)) := by
    intro store sound
    -- Saving does what importing the saved search as a line does.
    exact ⟨importLine_sound sound.tables now (.savedSearch name query filters),
      importLine_indexes sound.tables sound.indexes now (.savedSearch name query filters),
      importLine_saved sound.saved now (.savedSearch name query filters)⟩
  apply moves_bind remains_composes
  · exact moves_bind remains_composes execute fun _ => moves_pure remains_composes _
  · intro _
    apply moves_bind remains_composes (query_remains present _)
    intro records
    split
    next => exact moves_pure remains_composes _
    next => exact moves_throw remains_composes _

theorem deleteSavedSearch_remains (id : Int64) :
    Moves Remains ((engine config now present).deleteSavedSearch id) := by
  apply moves_bind remains_composes
  · intro store sound
    exact ⟨{ sound.tables with }, ⟨sound.indexes.models, sound.indexes.metadata⟩,
      deleteSaved_saved sound.saved _⟩
  · exact fun _ => moves_pure remains_composes _

theorem clearHistory_remains (days : UInt32) :
    Moves Remains ((engine config now present).clearHistory days) :=
  fun _ sound => ⟨{ sound.tables with }, ⟨sound.indexes.models, sound.indexes.metadata⟩,
    { sound.saved with }⟩

end Remaining

theorem after_sound {store : Store} (sound : store.Sound) (config : Config)
    (now present : Time.Instant) (call : StoreCall) :
    (store.after config now present call).Sound := by
  cases call with
  | catalog call =>
    exact ⟨(perform_tables sound.tables call).1, perform_indexes sound.tables sound.indexes call,
      perform_saved sound.saved call⟩
  | search query filters limit offset =>
    exact search_remains config now present query filters limit offset store sound
  | runSaved name limit offset =>
    exact runSaved_remains config now present name limit offset store sound
  | saveSearch name query filters =>
    exact saveSearch_remains config now present name query filters store sound
  | deleteSavedSearch id => exact deleteSavedSearch_remains config now present id store sound
  | clearHistory days => exact clearHistory_remains config now present days store sound
  | rebuildIndexes =>
    exact ⟨{ sound.tables with }, rebuildIndexes_indexes store, { sound.saved with }⟩

theorem Reachable.sound {store : Store} (reachable : Reachable store) : store.Sound := by
  induction reachable with
  | empty => exact sound_empty
  | call _ config now present call _ ih => exact after_sound ih config now present call

end Store

end ModelCatalog
