import ModelCatalog.Proofs.Store.Events
import ModelCatalog.Proofs.Text.Bytes

/-!
Saved searches as a map. Names lead to what was saved under them last, and ids to names: saving under
a name that is there keeps its id, saving under another one takes the next id, and deleting takes one
entry away.
-/

namespace ModelCatalog

open Time (Instant)

structure Saving where
  name : String
  query : String
  filters : FilterSet
  createdAt : String

def Saving.under? (name : String) (saving : Saving) : Option Saving :=
  if saving.name = name then some saving else none

def Saving.row (saving : Saving) (id : Nat) : SavedRow :=
  ⟨id, saving.name, saving.query, saving.filters.encode, saving.createdAt⟩

theorem Saving.filterSet_of_row {saving : Saving} {row : SavedRow} {id : Nat}
    (same : row = saving.row id) : row.filterSet = saving.filters := by
  rw [same, SavedRow.filterSet, Saving.row, FilterSet.decode_encode, Option.getD_some]

def CatalogLine.saving? (now : Instant) : CatalogLine → Option Saving
  | model _ => none
  | savedSearch name query filters => some ⟨name, query, filters, now.timestamp⟩

namespace Step

variable (step : Step)

/-- What the step saves, in order. A failed import saves nothing. -/
def savings : List Saving :=
  match step.operation with
  | .call (.saveSearch name query filters) => [⟨name, query, filters, step.now.timestamp⟩]
  | .call (.catalog (.importText text now)) =>
    match Store.readLines 1 (text.toList.splitOn '\n') with
    | .ok lines => lines.filterMap (CatalogLine.saving? now)
    | .error _ => []
  | _ => []

def deletes (id : Nat) : Bool :=
  match step.operation with
  | .call (.deleteSavedSearch deleted) => (id : Int) == deleted.toInt
  | _ => false

variable {step}

theorem IsReading.savings (reading : step.IsReading) : step.savings = [] := by
  unfold Step.savings
  split
  next name query filters operation =>
    rw [IsReading, operation] at reading
    cases reading
  next text now operation =>
    rw [IsReading, operation] at reading
    cases reading
  next => rfl

theorem IsReading.deletes (reading : step.IsReading) : step.deletes = fun _ => false := by
  funext id
  unfold Step.deletes
  split
  next deleted operation =>
    rw [IsReading, operation] at reading
    cases reading
  next => rfl

end Step

theorem nextId_eq (ids : List Nat) : nextId ids = ids.max?.getD 0 + 1 := by
  rw [nextId, List.foldl_max, Nat.zero_max]

namespace Store

def savedNamed? (store : Store) (name : String) : Option SavedRow :=
  store.saved.find? fun row => row.name == name

/-- The id of what is saved under a name: the one that it has, or the one after the greatest. -/
def savedIdFor (store : Store) (name : String) : Nat :=
  match store.savedNamed? name with
  | some row => row.id
  | none => (store.saved.map SavedRow.id).max?.getD 0 + 1

def save (store : Store) (saving : Saving) : Store :=
  store.putSaved saving.name saving.query saving.filters.encode saving.createdAt

/-! One saving. -/

section Saving

variable {store : Store} (saving : Saving)

theorem save_saved (sound : store.SavedSound) : (store.save saving).SavedSound :=
  putSaved_saved sound saving.name saving.query saving.filters saving.createdAt

theorem savedIdFor_present (sound : store.SavedSound) {row : SavedRow} (member : row ∈ store.saved)
    : store.savedIdFor row.name = row.id := by
  have found : store.savedNamed? row.name = some row :=
    (find_key_eq_some_iff SavedRow.name sound.names row.name row).mpr ⟨member, rfl⟩
  rw [savedIdFor, found]

theorem mem_save (sound : store.SavedSound) (found : SavedRow) :
    found ∈ (store.save saving).saved ↔
      found = saving.row (store.savedIdFor saving.name) ∨
        (found ∈ store.saved ∧ found.name ≠ saving.name) := by
  unfold save putSaved
  split
  next known =>
    obtain ⟨old, present, named⟩ := List.any_eq_true.mp known
    have sameName : old.name = saving.name := by simpa using named
    have id : store.savedIdFor saving.name = old.id := sameName ▸ savedIdFor_present sound present
    have only {row : SavedRow} (member : row ∈ store.saved) (named : row.name = saving.name) :
        row = old :=
      eq_of_key_eq SavedRow.name sound.names member present (named.trans sameName.symm)
    constructor
    · intro member
      obtain ⟨row, inTable, rfl⟩ := List.mem_map.mp member
      by_cases named : row.name = saving.name
      · refine Or.inl ?_
        rw [if_pos named, id, only inTable named]
        simp only [Saving.row, ← sameName]
      · refine Or.inr ?_
        rw [if_neg named]
        exact ⟨inTable, named⟩
    · intro either
      rcases either with rfl | ⟨inTable, other⟩
      · refine List.mem_map.mpr ⟨old, present, ?_⟩
        rw [if_pos sameName, id]
        simp only [Saving.row, ← sameName]
      · exact List.mem_map.mpr ⟨found, inTable, if_neg other⟩
  next unknown =>
    have others : ∀ row ∈ store.saved, row.name ≠ saving.name := by
      intro row member named
      exact unknown (List.any_eq_true.mpr ⟨row, member, by simpa using named⟩)
    have absent : store.savedNamed? saving.name = none := by
      apply (find_key_eq_none_iff SavedRow.name store.saved saving.name).mpr
      intro known
      obtain ⟨row, member, named⟩ := List.mem_map.mp known
      exact others row member named
    have id : store.savedIdFor saving.name = nextId (store.saved.map SavedRow.id) := by
      rw [savedIdFor, absent, nextId_eq]
    rw [List.mem_append, List.mem_singleton, id]
    constructor
    · intro either
      rcases either with inTable | new
      · exact Or.inr ⟨inTable, others found inTable⟩
      · exact Or.inl new
    · intro either
      rcases either with new | ⟨inTable, _⟩
      · exact Or.inr new
      · exact Or.inl inTable

theorem saveAll_congr {other : Store} (savings : List Saving) (same : other.saved = store.saved) :
    (savings.foldl save other).saved = (savings.foldl save store).saved := by
  induction savings generalizing store other with
  | nil => exact same
  | cons saving rest ih => exact ih (putSaved_congr same _ _ _ _)

end Saving

/-! One step. -/

theorem importLines_save (store : Store) (now : Instant) (lines : List CatalogLine) :
    (lines.foldl (importLine now) store).saved =
      ((lines.filterMap (CatalogLine.saving? now)).foldl save store).saved := by
  induction lines generalizing store with
  | nil => rfl
  | cons line rest ih =>
    rw [List.foldl_cons, ih]
    cases line with
    | model entry => exact saveAll_congr _ (upsert_saved store entry now)
    | savedSearch name query filters => rfl

theorem saved_of_step (store : Store) (step : Step) :
    (step.after store).saved = ((step.savings.foldl save store).saved).filter fun row =>
      !step.deletes row.id := by
  have kept (rows : List SavedRow) : rows = rows.filter fun _ => !false :=
    (List.filter_eq_self.mpr fun _ _ => rfl).symm
  have effect := step.effect store
  generalize step.after store = after at effect ⊢
  cases effect with
  | catalog call operation =>
    simp only [Step.savings, Step.deletes, operation]
    refine Eq.trans ?_ (kept _)
    cases call with
    | upsert entry now => exact upsert_saved store entry now
    | view target now => exact markViewed_saved store target now
    | importText text now =>
      simp only [perform, importText_eq]
      cases readLines 1 (text.toList.splitOn '\n') with
      | error bad => rfl
      | ok lines => exact importLines_save store now lines
  | saving name query filters operation =>
    simp only [Step.savings, Step.deletes, operation]
    exact kept _
  | deleting id operation =>
    simp only [Step.savings, Step.deletes, operation]
    rfl
  | rebuilding operation =>
    simp only [Step.savings, Step.deletes, operation]
    exact kept _
  | reading history nextHistoryId reading =>
    rw [reading.savings, reading.deletes]
    exact kept _

/-! Whole runs. -/

/-- The saved searches are what was saved last under their names. -/
structure Remembers (store : Store) (savings : List Saving) : Prop where
  sound : store.SavedSound
  last : ∀ row ∈ store.saved, ∃ saving, latest (Saving.under? row.name) savings = some saving ∧
    row = saving.row row.id
  few : ∀ row ∈ store.saved, row.id ≤ savings.length

section Running

variable {store : Store} {savings : List Saving}

theorem latest_under_concat (name : String) (saving : Saving) :
    latest (Saving.under? name) (savings ++ [saving]) =
      if saving.name = name then some saving else latest (Saving.under? name) savings := by
  rw [latest_concat, Saving.under?]
  split <;> rfl

theorem savedIdFor_le (remembers : store.Remembers savings) (name : String) :
    store.savedIdFor name ≤ savings.length + 1 := by
  unfold savedIdFor
  split
  next row found =>
    exact Nat.le_succ_of_le (remembers.few row (List.mem_of_find?_eq_some found))
  next =>
    cases greatest : (store.saved.map SavedRow.id).max? with
    | none => simp
    | some id =>
      obtain ⟨row, member, rfl⟩ := List.mem_map.mp (List.max?_mem greatest)
      exact Nat.succ_le_succ (remembers.few row member)

theorem remembers_save (remembers : store.Remembers savings) (saving : Saving) :
    (store.save saving).Remembers (savings ++ [saving]) := by
  have member := mem_save saving remembers.sound
  refine ⟨save_saved saving remembers.sound, ?_, ?_⟩
  · intro row inTable
    rw [latest_under_concat]
    rcases (member row).mp inTable with rfl | ⟨old, other⟩
    · exact ⟨saving, if_pos rfl, rfl⟩
    · rw [if_neg (Ne.symm other)]
      exact remembers.last row old
  · intro row inTable
    rw [List.length_append, List.length_singleton]
    rcases (member row).mp inTable with rfl | ⟨old, _⟩
    · exact savedIdFor_le remembers saving.name
    · exact Nat.le_succ_of_le (remembers.few row old)

theorem remembers_saveAll (remembers : store.Remembers savings) (more : List Saving) :
    (more.foldl save store).Remembers (savings ++ more) := by
  induction more generalizing store savings with
  | nil => rwa [List.append_nil]
  | cons saving rest ih =>
    rw [List.append_cons]
    exact ih (remembers_save remembers saving)

theorem Remembers.filtered (remembers : store.Remembers savings) {after : Store}
    {kept : SavedRow → Bool} (left : after.saved = store.saved.filter kept) :
    after.Remembers savings := by
  have inTable {row : SavedRow} (member : row ∈ after.saved) : row ∈ store.saved := by
    rw [left] at member
    exact (List.mem_filter.mp member).1
  have sound := deleteSaved_saved remembers.sound kept
  refine ⟨saved_of_saved_eq left sound, ?_, ?_⟩
  · exact fun row member => remembers.last row (inTable member)
  · exact fun row member => remembers.few row (inTable member)

theorem remembers_run (steps : List Step) :
    (afterAll {} steps).Remembers (steps.flatMap Step.savings) := by
  induction steps using List.reverseRecOn with
  | nil => exact ⟨savedSound_empty, by simp [afterAll], by simp [afterAll]⟩
  | append_singleton steps step ih =>
    rw [afterAll_append, List.flatMap_append, List.flatMap_singleton]
    exact (remembers_saveAll ih step.savings).filtered (saved_of_step _ step)

end Running

section Calling

variable {store : Store} (config : Config) (now present : Instant)

theorem savedAs_save (sound : store.SavedSound) (saving : Saving) :
    (store.save saving).savedAs saving.name = [saving.row (store.savedIdFor saving.name)] :=
  savedAs_eq (save_saved saving sound) ((mem_save saving sound _).mpr (Or.inl rfl)) rfl

theorem saveSearch_run (sound : store.SavedSound) (name query : String) (filters : FilterSet) :
    ((engine config now present).saveSearch name query filters).run store =
      (.ok (Int64.ofNat (store.savedIdFor name)),
        store.save ⟨name, query, filters, now.timestamp⟩) :=
  Prod.ext
    (saveSearch_value config now present (savedAs_save sound ⟨name, query, filters, now.timestamp⟩))
    (saveSearch_after store config now present name query filters)

theorem deleteSavedSearch_present (sound : store.SavedSound) {id : Int64} {row : SavedRow}
    (member : row ∈ store.saved) (same : (row.id : Int) = id.toInt) :
    ((engine config now present).deleteSavedSearch id).run store =
      (.ok true, { store with saved := store.saved.erase row }) := by
  have kept : (store.saved.filter fun row => (row.id : Int) != id.toInt) =
      store.saved.erase row := by
    rw [← filter_key_ne SavedRow.id sound.ids member]
    apply List.filter_congr
    intro found _
    rw [← same, Bool.eq_iff_iff, bne_iff_ne, bne_iff_ne, ne_eq, ne_eq, Int.natCast_inj]
  have fewer : 0 < store.saved.length - (store.saved.erase row).length := by
    have some := List.length_pos_of_mem member
    rw [List.length_erase_of_mem member]
    omega
  have ran : ((engine config now present).deleteSavedSearch id).run store =
      (.ok (decide (0 < store.saved.length -
          (store.saved.filter fun row => (row.id : Int) != id.toInt).length)),
        { store with saved := store.saved.filter fun row => (row.id : Int) != id.toInt }) := rfl
  rw [ran, kept, decide_eq_true fewer]

theorem deleteSavedSearch_absent {id : Int64}
    (absent : ∀ row ∈ store.saved, (row.id : Int) ≠ id.toInt) :
    ((engine config now present).deleteSavedSearch id).run store = (.ok false, store) := by
  have kept : (store.saved.filter fun row => (row.id : Int) != id.toInt) = store.saved :=
    List.filter_eq_self.mpr fun row member => by simpa using absent row member
  have ran : ((engine config now present).deleteSavedSearch id).run store =
      (.ok (decide (0 < store.saved.length -
          (store.saved.filter fun row => (row.id : Int) != id.toInt).length)),
        { store with saved := store.saved.filter fun row => (row.id : Int) != id.toInt }) := rfl
  rw [ran, kept, Nat.sub_self]
  rfl

theorem savedSearches_run (sound : store.SavedSound) :
    (engine config now present).savedSearches.run store =
      (.ok (store.savedByName.map SavedRow.search), store) := by
  have ran : (engine config now present).savedSearches.run store =
      (store.savedSearches, store) := rfl
  rw [ran, savedSearches_eq sound]

end Calling

/-- Saved searches after a run. No two have one name or one id, and an id is at most the number of
savings so far. A saving puts what is saved under the id of its name, or under the id after the
greatest, and leaves all of another name as it is; a step saves what it saves one after another. A
deletion takes the one with that id away, and tells whether there was one. They are listed in the
order of the bytes of their names, each with what was saved under its name last. -/
theorem saved_map_of_run (steps : List Step) (config : Config) (now present : Instant) :
    let store := afterAll {} steps
    let calls := engine config now present
    let savings := steps.flatMap Step.savings
    ((store.saved.map SavedRow.name).Nodup ∧ (store.saved.map SavedRow.id).Nodup ∧
      ∀ row ∈ store.saved, row.id ≤ savings.length) ∧
    (∀ saving : Saving,
      store.save saving = { store with saved := (store.save saving).saved } ∧
      ∀ found, found ∈ (store.save saving).saved ↔
        found = saving.row (store.savedIdFor saving.name) ∨
          (found ∈ store.saved ∧ found.name ≠ saving.name)) ∧
    (∀ name query filters, (calls.saveSearch name query filters).run store =
      (.ok (Int64.ofNat (store.savedIdFor name)),
        store.save ⟨name, query, filters, now.timestamp⟩)) ∧
    (∀ step : Step, (step.after store).saved = ((step.savings.foldl save store).saved).filter
      fun row => !step.deletes row.id) ∧
    (∀ id : Int64,
      (∃ row ∈ store.saved, (row.id : Int) = id.toInt ∧ (calls.deleteSavedSearch id).run store =
        (.ok true, { store with saved := store.saved.erase row })) ∨
      ((∀ row ∈ store.saved, (row.id : Int) ≠ id.toInt) ∧
        (calls.deleteSavedSearch id).run store = (.ok false, store))) ∧
    ∃ searches, calls.savedSearches.run store = (.ok searches, store) ∧
      (searches.Pairwise fun a b => Text.bytes a.name < Text.bytes b.name) ∧
      (∀ search, search ∈ searches ↔ ∃ row ∈ store.saved, row.search = search) ∧
      ∀ search ∈ searches, ∃ saving, latest (Saving.under? search.name) savings = some saving ∧
        search.query = saving.query ∧ search.filters = saving.filters ∧
          search.createdAt = saving.createdAt := by
  intro store calls savings
  have remembers : store.Remembers savings := remembers_run steps
  have sound := remembers.sound
  have members (row : SavedRow) : row ∈ store.savedByName ↔ row ∈ store.saved :=
    (savedByName_perm store).mem_iff
  refine ⟨⟨sound.names, sound.ids, remembers.few⟩, ?_, ?_, saved_of_step store, ?_,
    store.savedByName.map SavedRow.search, savedSearches_run config now present sound, ?_, ?_, ?_⟩
  · exact fun saving => ⟨putSaved_eq store _ _ _ _, mem_save saving sound⟩
  · exact saveSearch_run config now present sound
  · intro id
    by_cases known : ∃ row ∈ store.saved, (row.id : Int) = id.toInt
    · obtain ⟨row, member, same⟩ := known
      exact Or.inl ⟨row, member, same,
        deleteSavedSearch_present config now present sound member same⟩
    · have absent : ∀ row ∈ store.saved, (row.id : Int) ≠ id.toInt :=
        fun row member same => known ⟨row, member, same⟩
      exact Or.inr ⟨absent, deleteSavedSearch_absent config now present absent⟩
  · rw [List.pairwise_map]
    exact (savedByName_ascending sound).imp fun {a b : SavedRow} less =>
      (Text.lt_iff_bytes_lt a.name b.name).mp less
  · intro search
    simp only [List.mem_map, members]
  · intro search member
    obtain ⟨row, listed, rfl⟩ := List.mem_map.mp member
    obtain ⟨saving, isLast, same⟩ := remembers.last row ((members row).mp listed)
    exact ⟨saving, isLast, congrArg SavedRow.query same,
      Saving.filterSet_of_row same, congrArg SavedRow.createdAt same⟩

end Store

end ModelCatalog
