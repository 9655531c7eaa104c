import ModelCatalog.Proofs.Store.Reachable

/-!
Views by path. A path is a target like any other: if it reads as a number it means the model with that
id, and else the model that has it. The model that is meant is stamped, and nothing else changes.
-/

namespace ModelCatalog

namespace Store

/-- The later store differs in the time at which one model was last viewed, and in nothing else but the
place of that model's texts in the index. -/
structure Stamps (store after : Store) (row : ModelRow) (now : Time.Instant) : Prop where
  models : after.models = store.models.map fun other =>
    if other = row then { other with lastViewed := some now.timestamp } else other
  texts : after.modelIndex.Perm store.modelIndex
  others : after.unmodelled = store.unmodelled

section Meaning

variable {store : Store} (target : String) (now : Time.Instant)

theorem markViewed_of_isTarget (sound : store.Sound) {row : ModelRow} (member : row ∈ store.models)
    (meant : isTarget target row = true) :
    (store.markViewed target now).1 = 1 ∧
      store.Stamps (store.markViewed target now).2 row now := by
  have viewed : row ∈ store.models.filter (isTarget target) := List.mem_filter.mpr ⟨member, meant⟩
  have only : store.models.filter (isTarget target) = [row] := by
    rcases viewed_cases target sound.tables with none | ⟨found, -, one⟩
    · rw [none] at viewed
      cases viewed
    · rw [one, List.mem_singleton] at viewed
      rw [one, viewed]
  have models : (store.markViewed target now).2.models = store.models.map fun other =>
      if other = row then { other with lastViewed := some now.timestamp } else other := by
    rw [markViewed_models target now sound.tables]
    apply List.map_congr_left
    intro other inTable
    have same : isTarget target other = true ↔ other = row := by
      rw [← List.mem_singleton (b := row), ← only, List.mem_filter, and_iff_right inTable]
    simp only [same]
  refine ⟨?_, models, ?_, markViewed_unmodelled store target now⟩
  · rw [markViewed, only]
    rfl
  · have follows := (perform_indexes sound.tables sound.indexes (.view target now)).models
    have texts : (store.perform (.view target now)).models.map ModelRow.indexEntry =
        store.models.map ModelRow.indexEntry := by
      rw [perform, models, List.map_map]
      apply List.map_congr_left
      intro other _
      rw [Function.comp_apply]
      split <;> rfl
    rw [texts] at follows
    exact follows.trans sound.indexes.models.symm

theorem markViewed_of_noTarget (unmeant : ∀ row ∈ store.models, isTarget target row = false) :
    store.markViewed target now = (0, store) := by
  have none : store.models.filter (isTarget target) = [] := by
    rw [List.filter_eq_nil_iff]
    intro row member
    rw [unmeant row member]
    exact Bool.false_ne_true
  rw [markViewed, none]
  rfl

end Meaning

/-- Viewing a model by its path stamps that model only, unless the path reads as a number that is not the
model's own: then the model with this id is meant, if there is one. -/
theorem markViewed_filePath {store : Store} (reachable : store.Reachable) {row : ModelRow}
    (member : row ∈ store.models) (now : Time.Instant) :
    let viewed := store.markViewed row.filePath now
    ((∀ id, Decimal.readInt64? row.filePath.toList = some id → id.toInt = row.id) →
      viewed.1 = 1 ∧ store.Stamps viewed.2 row now) ∧
    ∀ id, Decimal.readInt64? row.filePath.toList = some id →
      (∀ other ∈ store.models, id.toInt = other.id →
        viewed.1 = 1 ∧ store.Stamps viewed.2 other now) ∧
      ((∀ other ∈ store.models, id.toInt ≠ other.id) → viewed = (0, store)) := by
  intro viewed
  refine ⟨?own, fun id number => ⟨?some, ?none⟩⟩
  case own =>
    intro own
    apply markViewed_of_isTarget row.filePath now reachable.sound member
    rw [isTarget]
    cases number : Decimal.readInt64? row.filePath.toList with
    | none => exact beq_self_eq_true row.filePath
    | some id => exact beq_iff_eq.mpr (own id number).symm
  case some =>
    intro other inTable same
    apply markViewed_of_isTarget row.filePath now reachable.sound inTable
    rw [isTarget, number]
    exact beq_iff_eq.mpr same.symm
  case none =>
    intro unknown
    apply markViewed_of_noTarget
    intro other inTable
    rw [isTarget, number]
    exact beq_eq_false_iff_ne.mpr (unknown other inTable).symm

/-- A path that is a number with a sign, which is the number of its own model. -/
theorem markViewed_filePath_signed :
    let now : Time.Instant := ⟨1700000000, 0⟩
    let entry (filePath : String) : CatalogEntry := { filename := "part.stl", filePath }
    let store := (({} : Store).after {} now now (.catalog (.upsert (entry "/a") now))).after
      {} now now (.catalog (.upsert (entry "+2") now))
    let row : ModelRow := ⟨2, "part.stl", none, "+2", none, now.timestamp, none⟩
    store.Reachable ∧ row ∈ store.models ∧
      (∀ id, Decimal.readInt64? row.filePath.toList = some id → id.toInt = row.id) ∧
      (store.markViewed "+2" now).1 = 1 ∧
      store.Stamps (store.markViewed "+2" now).2 row now := by
  intro now entry store row
  have reachable : store.Reachable :=
    .call (.call .empty {} now now _ (by decide)) {} now now _ (by decide)
  have member : row ∈ store.models := by decide
  have own : ∀ id, Decimal.readInt64? row.filePath.toList = some id → id.toInt = row.id := by
    intro id number
    have two : Decimal.readInt64? row.filePath.toList = some 2 := by decide
    obtain rfl := Option.some.inj (two.symm.trans number)
    rfl
  exact ⟨reachable, member, own, (markViewed_filePath reachable member now).1 own⟩

/-- A model whose path is the number of another one: its view stamps the other. -/
theorem markViewed_other_model :
    let now : Time.Instant := ⟨1700000000, 0⟩
    let entry (filePath : String) : CatalogEntry := { filename := "part.stl", filePath }
    let store := (({} : Store).after {} now now (.catalog (.upsert (entry "2") now))).after
      {} now now (.catalog (.upsert (entry "/b") now))
    store.Reachable ∧
      (store.models.map fun row => (row.id, row.filePath, row.lastViewed)) =
        [(1, "2", none), (2, "/b", none)] ∧
      ((store.markViewed "2" now).2.models.map fun row => (row.id, row.filePath, row.lastViewed)) =
        [(1, "2", none), (2, "/b", some now.timestamp)] := by
  intro now entry store
  refine ⟨?_, by decide, by decide⟩
  exact .call (.call .empty {} now now _ (by decide)) {} now now _ (by decide)

end Store

end ModelCatalog
