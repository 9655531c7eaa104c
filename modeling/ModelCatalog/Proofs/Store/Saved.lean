import ModelCatalog.Proofs.Catalog.LineCodec
import ModelCatalog.Proofs.Store.Keyed
import ModelCatalog.Store.Transfer

/-!
Saved searches: each name is saved once, and what is saved under it reads back as the filters that
were saved.
-/

namespace ModelCatalog

theorem trimmed_encode (filters : FilterSet) : trimmed filters.encode = filters.encode := by
  rw [trimmed, FilterSet.encode, Json.compact, String.toList_ofList, FilterSet.toJson,
    Json.trim_object]

theorem encode_isEmpty (filters : FilterSet) : filters.encode.isEmpty = false := by
  have nonempty := Json.write_object_ne_nil filters.toMembers
  apply Bool.eq_false_iff.mpr
  intro isEmpty
  have none : filters.encode.toList = [] := by rw [String.isEmpty_iff.mp isEmpty]; rfl
  rw [FilterSet.encode, Json.compact, String.toList_ofList] at none
  exact nonempty none

theorem storedFilters_encode {record : Sql.Record} {filters : FilterSet}
    (written : record.text? "filters" = some filters.encode) :
    storedFilters record = .ok filters := by
  rw [storedFilters, written]
  simp only [trimmed_encode, encode_isEmpty, FilterSet.decode_encode]
  rfl

namespace SavedRow

def filterSet (row : SavedRow) : FilterSet := (FilterSet.decode row.filters).getD {}

def search (row : SavedRow) : SavedSearch :=
  ⟨Int64.ofNat row.id, row.name, row.query, row.filterSet, row.createdAt⟩

def IsWritten (row : SavedRow) : Prop := ∃ filters : FilterSet, row.filters = filters.encode

theorem IsWritten.encode_filterSet {row : SavedRow} (written : row.IsWritten) :
    row.filterSet.encode = row.filters := by
  obtain ⟨filters, same⟩ := written
  rw [filterSet, same, FilterSet.decode_encode, Option.getD_some]

theorem ofRecord_record {row : SavedRow} (written : row.IsWritten) :
    SavedSearch.ofRecord row.record = .ok row.search := by
  have id : row.record.integer? "id" = some (Int64.ofNat row.id) := rfl
  have name : row.record.text? "name" = some row.name := rfl
  have query : row.record.text? "query" = some row.query := rfl
  have filters : row.record.text? "filters" = some row.filters := rfl
  have createdAt : row.record.text? "created_at" = some row.createdAt := rfl
  have stored : storedFilters row.record = .ok row.filterSet := by
    obtain ⟨set, same⟩ := written
    rw [filterSet, same, FilterSet.decode_encode, Option.getD_some]
    exact storedFilters_encode (filters.trans (congrArg some same))
  rw [SavedSearch.ofRecord, stored, id, name, query, createdAt]
  rfl

end SavedRow

theorem mapM_ok {α β ε : Type} {read : α → Except ε β} {value : α → β} {items : List α}
    (reads : ∀ item ∈ items, read item = .ok (value item)) :
    items.mapM read = .ok (items.map value) := by
  induction items with
  | nil => rfl
  | cons item items ih =>
    have rest := ih fun found member => reads found (List.mem_cons_of_mem _ member)
    rw [List.mapM_cons, reads item List.mem_cons_self, rest]
    rfl

namespace Store

structure SavedSound (store : Store) : Prop where
  ids : (store.saved.map SavedRow.id).Nodup
  names : (store.saved.map SavedRow.name).Nodup
  written : ∀ row ∈ store.saved, row.IsWritten

theorem savedSound_empty : SavedSound {} := by
  constructor <;> simp

def savedByName (store : Store) : List SavedRow :=
  store.saved.mergeSort fun a b => decide (a.name ≤ b.name)

theorem savedByName_map {β : Type} (store : Store) (view : SavedRow → β) (name : β → String)
    (named : ∀ row, name (view row) = row.name) :
    store.savedByName.map view =
      (store.saved.map view).mergeSort fun a b => decide (name a ≤ name b) := by
  rw [savedByName]
  apply List.map_mergeSort
  intro a _ b _
  rw [named, named]

theorem savedByName_perm (store : Store) : store.savedByName.Perm store.saved :=
  List.mergeSort_perm _ _

theorem savedByName_ordered (store : Store) :
    store.savedByName.Pairwise fun a b => decide (a.name ≤ b.name) := by
  apply List.pairwise_mergeSort
  · intro a b c below above
    simp only [decide_eq_true_eq] at below above ⊢
    exact String.le_trans below above
  · intro a b
    simpa using String.le_total a.name b.name

theorem savedByName_ascending {store : Store} (sound : store.SavedSound) :
    store.savedByName.Pairwise fun a b => a.name < b.name := by
  have names : store.savedByName.map SavedRow.name =
      (store.saved.map SavedRow.name).mergeSort fun a b => decide (a ≤ b) :=
    savedByName_map store SavedRow.name id fun _ => rfl
  have ascending := ascending_mergeSort sound.names
  rw [← names] at ascending
  exact List.pairwise_map.mp ascending

theorem savedSearches_eq {store : Store} (sound : store.SavedSound) :
    store.savedSearches = .ok (store.savedByName.map SavedRow.search) := by
  rw [savedSearches, savedRecords, List.mapM_map]
  apply mapM_ok
  intro row member
  exact SavedRow.ofRecord_record (sound.written row (List.mem_mergeSort.mp member))

section Changing

variable {store : Store} (sound : store.SavedSound)
include sound

theorem putSaved_saved (name query : String) (filters : FilterSet) (createdAt : String) :
    (store.putSaved name query filters.encode createdAt).SavedSound := by
  unfold putSaved
  split
  next known =>
    constructor
    · dsimp only
      rw [keys_changed SavedRow.id]
      · exact sound.ids
      · exact fun _ _ _ => rfl
    · dsimp only
      rw [keys_changed SavedRow.name]
      · exact sound.names
      · exact fun _ _ _ => rfl
    · intro row member
      obtain ⟨old, inTable, rfl⟩ := List.mem_map.mp member
      split
      · exact ⟨filters, rfl⟩
      · exact sound.written old inTable
  next unknown =>
    have fresh : name ∉ store.saved.map SavedRow.name := by
      intro known
      obtain ⟨row, member, same⟩ := List.mem_map.mp known
      exact unknown (List.any_eq_true.mpr ⟨row, member, by simpa using same⟩)
    constructor
    · exact nodup_keys_append SavedRow.id sound.ids (nextId_not_mem _)
    · exact nodup_keys_append SavedRow.name sound.names fresh
    · intro row member
      rcases List.mem_append.mp member with old | new
      · exact sound.written row old
      · rw [List.mem_singleton.mp new]
        exact ⟨filters, rfl⟩

theorem deleteSaved_saved (kept : SavedRow → Bool) :
    { store with saved := store.saved.filter kept }.SavedSound := by
  have sublist := List.filter_sublist (l := store.saved) (p := kept)
  refine ⟨sound.ids.sublist (sublist.map _), sound.names.sublist (sublist.map _), ?_⟩
  intro row member
  exact sound.written row (List.mem_filter.mp member).1

end Changing

end Store

end ModelCatalog
