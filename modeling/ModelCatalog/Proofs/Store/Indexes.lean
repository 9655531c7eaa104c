import ModelCatalog.Proofs.Catalog.Chronicle
import ModelCatalog.Proofs.Store.Triggers

/-!
The text indexes follow their tables: up to order, an index holds exactly the texts that the rows of
its table have now. Whatever a call does to the tables it does row by row, with the triggers.
-/

namespace ModelCatalog

def modelTexts : Indexed ModelRow := ⟨ModelRow.id, ModelRow.indexEntry, fun _ => rfl⟩

def metadataTexts : Indexed MetadataRow :=
  ⟨MetadataRow.modelId, MetadataRow.indexEntry, fun _ => rfl⟩

namespace Store

structure IndexesSound (store : Store) : Prop where
  models : store.modelIndex.Perm (store.models.map ModelRow.indexEntry)
  metadata : store.metadataIndex.Perm (store.metadata.map MetadataRow.indexEntry)

theorem indexesSound_empty : IndexesSound {} := ⟨.refl _, .refl _⟩

theorem rebuildIndexes_indexes (store : Store) : store.rebuildIndexes.IndexesSound :=
  ⟨.refl _, .refl _⟩

structure Triggered (store after : Store) : Prop where
  models : Triggers modelTexts store.models store.modelIndex after.models after.modelIndex
  metadata : Triggers metadataTexts store.metadata store.metadataIndex after.metadata
    after.metadataIndex

theorem Triggered.refl (store : Store) : store.Triggered store := ⟨.none, .none⟩

theorem Triggered.trans {store after last : Store} (first : store.Triggered after)
    (second : after.Triggered last) : store.Triggered last :=
  ⟨first.models.trans second.models, first.metadata.trans second.metadata⟩

def texts (store : Store) : (List ModelRow × TextIndex) × (List MetadataRow × TextIndex) :=
  ((store.models, store.modelIndex), (store.metadata, store.metadataIndex))

section Triggering

variable {store : Store} (tables : store.TablesSound) (indexes : store.IndexesSound)

theorem Triggered.congr {after other : Store} (fired : store.Triggered after)
    (same : other.texts = after.texts) : store.Triggered other := by
  obtain ⟨models, metadata⟩ := Prod.mk.inj same
  obtain ⟨rows, index⟩ := Prod.mk.inj models
  obtain ⟨metadataRows, metadataIndex⟩ := Prod.mk.inj metadata
  refine ⟨?_, ?_⟩
  · rw [rows, index]
    exact fired.models
  · rw [metadataRows, metadataIndex]
    exact fired.metadata

theorem triggered_of_texts {after : Store} (same : after.texts = store.texts) :
    store.Triggered after := (Triggered.refl store).congr same

include tables indexes

theorem models_follow : modelTexts.Follows store.models store.modelIndex :=
  ⟨tables.modelIds_nodup, indexes.models⟩

theorem metadata_follows : metadataTexts.Follows store.metadata store.metadataIndex :=
  ⟨tables.metadataIds, indexes.metadata⟩

theorem Triggered.indexesSound {after : Store} (fired : store.Triggered after) :
    after.IndexesSound :=
  ⟨((models_follow tables indexes).triggers fired.models).entries,
    ((metadata_follows tables indexes).triggers fired.metadata).entries⟩

theorem putModel_triggered (entry : CatalogEntry) (now : Time.Instant) :
    store.Triggered (store.putModel entry now).2 := by
  have follows := models_follow tables indexes
  rcases putModel_cases tables entry now with ⟨old, member, _, put⟩ | ⟨_, put⟩
  · rw [put]
    exact ⟨.replace (old.filledBy entry) follows member rfl, .none⟩
  · rw [put]
    have fresh : store.models.length + 1 ∉ store.models.map ModelRow.id := by
      rw [tables.modelIds, List.mem_range'_1]
      omega
    exact ⟨.insert (entry.modelRow (store.models.length + 1) now) fresh, .none⟩

theorem putMetadata_triggered (id : Nat) (entry : CatalogEntry) :
    store.Triggered (store.putMetadata id entry) := by
  have follows := metadata_follows tables indexes
  unfold putMetadata
  split
  · split
    next described =>
      obtain ⟨old, found⟩ := Option.isSome_iff_exists.mp described
      obtain ⟨member, same⟩ :=
        (find_key_eq_some_iff MetadataRow.modelId tables.metadataIds id old).mp found
      exact ⟨.none, .replace (entry.metadataRow id) follows member same.symm⟩
    next absent =>
      have fresh : id ∉ store.metadata.map MetadataRow.modelId :=
        fun known => absent ((metadataOf_isSome id).mpr known)
      exact ⟨.none, .insert (entry.metadataRow id) fresh⟩
  · exact .refl store

theorem upsert_triggered (entry : CatalogEntry) (now : Time.Instant) :
    store.Triggered (store.upsert entry now).2 := by
  have modelled := putModel_triggered tables indexes entry now
  have described := putMetadata_triggered (putModel_sound tables entry now)
    (modelled.indexesSound tables indexes) (store.putModel entry now).1 entry
  have linked := congrArg texts (upsert_unlinked store entry now)
  exact (modelled.trans described).congr linked

theorem markViewed_triggered (target : String) (now : Time.Instant) :
    store.Triggered (store.markViewed target now).2 := by
  have follows := models_follow tables indexes
  unfold markViewed
  rcases viewed_cases target tables with none | ⟨row, member, one⟩
  · rw [none]
    exact .refl store
  · rw [one]
    let viewed : ModelRow := { row with lastViewed := some now.timestamp }
    have updated : store.Triggered (store.updateModel viewed) :=
      ⟨.replace viewed follows member rfl, .none⟩
    exact updated

theorem importLine_triggered (now : Time.Instant) (line : CatalogLine) :
    store.Triggered (importLine now store line) := by
  cases line with
  | model entry => exact upsert_triggered tables indexes entry now
  | savedSearch name query filters =>
    apply triggered_of_texts
    rw [importLine, putSaved_eq]
    rfl

theorem importLines_triggered (now : Time.Instant) (lines : List CatalogLine) :
    store.Triggered (lines.foldl (importLine now) store) := by
  induction lines generalizing store with
  | nil => exact .refl store
  | cons line rest ih =>
    have first := importLine_triggered tables indexes now line
    exact first.trans
      (ih (importLine_sound tables now line) (first.indexesSound tables indexes))

theorem perform_triggered (call : CatalogCall) : store.Triggered (store.perform call) := by
  cases call with
  | upsert entry now => exact upsert_triggered tables indexes entry now
  | importText text now =>
    simp only [perform, importText_eq]
    cases readLines 1 (text.toList.splitOn '\n') with
    | error bad => exact .refl store
    | ok lines => exact importLines_triggered tables indexes now lines
  | view target now => exact markViewed_triggered tables indexes target now

theorem importLine_indexes (now : Time.Instant) (line : CatalogLine) :
    (importLine now store line).IndexesSound :=
  (importLine_triggered tables indexes now line).indexesSound tables indexes

theorem perform_indexes (call : CatalogCall) : (store.perform call).IndexesSound :=
  (perform_triggered tables indexes call).indexesSound tables indexes

end Triggering

end Store

end ModelCatalog
