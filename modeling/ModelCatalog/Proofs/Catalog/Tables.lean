import ModelCatalog.Proofs.Store.Keyed
import ModelCatalog.Store.Catalog

/-!
What the tables of a catalog keep at all times, and what each of the steps of putting an entry in
does to them.
-/

namespace ModelCatalog

def MetadataRow.IsFilled (row : MetadataRow) : Prop :=
  row.title.isSome ∨ row.description.isSome ∨ row.keywords.isSome ∨ row.category.isSome ∨
    row.source.isSome ∨ row.rating.isSome

def CatalogEntry.metadataRow (entry : CatalogEntry) (id : Nat) : MetadataRow :=
  ⟨id, entry.title, entry.description, entry.keywords, entry.category, entry.source, entry.rating⟩

def ModelRow.filledBy (old : ModelRow) (entry : CatalogEntry) : ModelRow :=
  { old with filename := entry.filename, format := entry.format, fileSize := entry.fileSize,
             dateAdded := entry.dateAdded.getD old.dateAdded,
             lastViewed := entry.lastViewed.or old.lastViewed }

def CatalogEntry.modelRow (entry : CatalogEntry) (id : Nat) (now : Time.Instant) : ModelRow :=
  { id, filename := entry.filename, format := entry.format, filePath := entry.filePath,
    fileSize := entry.fileSize, dateAdded := entry.dateAdded.getD now.timestamp,
    lastViewed := entry.lastViewed }

namespace Store

structure TablesSound (store : Store) : Prop where
  /-- Models are numbered from one, in the order of the table. -/
  modelIds : store.models.map ModelRow.id = List.range' 1 store.models.length
  paths : (store.models.map ModelRow.filePath).Nodup
  metadataIds : (store.metadata.map MetadataRow.modelId).Nodup
  metadataModels : ∀ row ∈ store.metadata, row.modelId ∈ store.models.map ModelRow.id
  metadataFilled : ∀ row ∈ store.metadata, row.IsFilled
  projectIds : (store.projects.map ProjectRow.id).Nodup
  projectNames : (store.projects.map ProjectRow.name).Nodup
  linkProjects : ∀ link ∈ store.links, link.projectId ∈ store.projects.map ProjectRow.id
  linkModels : ∀ link ∈ store.links, link.modelId ∈ store.models.map ModelRow.id

theorem tablesSound_empty : TablesSound {} := by
  constructor <;> simp

theorem TablesSound.modelIds_nodup {store : Store} (sound : store.TablesSound) :
    (store.models.map ModelRow.id).Nodup := by
  rw [sound.modelIds]
  exact List.nodup_range'

theorem TablesSound.id_getElem {store : Store} (sound : store.TablesSound) {i : Nat}
    (inTable : i < store.models.length) : store.models[i].id = i + 1 := by
  have atIndex := congrArg (fun ids : List Nat => ids[i]?) sound.modelIds
  simpa [inTable, Nat.add_comm] using atIndex

def IsMember (store : Store) (id : Nat) (name : String) : Prop :=
  ∃ project ∈ store.projects, project.name = name ∧ ⟨project.id, id⟩ ∈ store.links

theorem mem_projectNames {store : Store} {id : Nat} {name : String} :
    name ∈ store.projectNames id ↔ store.IsMember id name := by
  simp only [projectNames, List.mem_mergeSort, List.mem_map, List.mem_filter,
    List.contains_iff_mem, beq_iff_eq, IsMember]
  constructor
  · intro named
    obtain ⟨project, ⟨member, link, ⟨linked, rfl⟩, sameProject⟩, rfl⟩ := named
    exact ⟨project, member, rfl, by rw [← sameProject]; exact linked⟩
  · intro belongs
    obtain ⟨project, member, rfl, linked⟩ := belongs
    exact ⟨project, ⟨member, ⟨project.id, id⟩, ⟨linked, rfl⟩, rfl⟩, rfl⟩

theorem projectNames_ascending {store : Store} (sound : store.TablesSound) (id : Nat) :
    (store.projectNames id).Pairwise (· < ·) := by
  apply ascending_mergeSort
  have kept := (List.filter_sublist (l := store.projects) (p := fun project =>
    ((store.links.filter fun link => link.modelId == id).map ProjectLink.projectId).contains
      project.id)).map ProjectRow.name
  exact sound.projectNames.sublist kept

/-! Projects and links. -/

section Linking

def unlinked (store : Store) : Store := { store with projects := [], links := [] }

variable {store : Store} (name : String) (id : Nat)

variable (store) in
theorem putProject_mem : ⟨(store.putProject name).1, name⟩ ∈ (store.putProject name).2.projects := by
  unfold putProject
  cases found : store.projectNamed? name with
  | none => simp
  | some project =>
    have named : project.name = name := by simpa using List.find?_some found
    subst named
    exact List.mem_of_find?_eq_some found

theorem putProject_sound (sound : store.TablesSound) : (store.putProject name).2.TablesSound := by
  unfold putProject
  cases found : store.projectNamed? name with
  | some project => exact sound
  | none =>
    have unnamed : name ∉ store.projects.map ProjectRow.name :=
      (find_key_eq_none_iff ProjectRow.name _ _).mp found
    refine { sound with projectIds := ?_, projectNames := ?_, linkProjects := ?_ }
    · exact nodup_keys_append ProjectRow.id sound.projectIds (nextId_not_mem _)
    · exact nodup_keys_append ProjectRow.name sound.projectNames unnamed
    · intro link member
      simp only [List.map_append, List.mem_append]
      exact Or.inl (sound.linkProjects link member)

theorem isMember_putProject (sound : store.TablesSound) (model : Nat) (project : String) :
    (store.putProject name).2.IsMember model project ↔ store.IsMember model project := by
  unfold putProject
  cases found : store.projectNamed? name with
  | some row => rfl
  | none =>
    constructor
    · intro belongs
      obtain ⟨row, member, named, linked⟩ := belongs
      rcases List.mem_append.mp member with old | new
      · exact ⟨row, old, named, linked⟩
      · rw [List.mem_singleton.mp new] at linked
        exact absurd (sound.linkProjects _ linked) (nextId_not_mem _)
    · intro belongs
      obtain ⟨row, member, named, linked⟩ := belongs
      exact ⟨row, List.mem_append_left _ member, named, linked⟩

variable (store) in
theorem putProject_unlinked : (store.putProject name).2.unlinked = store.unlinked := by
  unfold putProject
  split <;> rfl

theorem link_unlinked : (link id store name).unlinked = store.unlinked := by
  rw [← putProject_unlinked store name]
  unfold link
  split
  next projectId after put =>
    rw [put]
    simp only
    split <;> rfl

theorem link_sound (sound : store.TablesSound) (present : id ∈ store.models.map ModelRow.id) :
    (link id store name).TablesSound := by
  have member := putProject_mem store name
  have after := putProject_sound name sound
  have models := congrArg Store.models (putProject_unlinked store name)
  unfold link
  split
  next projectId linked put =>
    rw [put] at member after models
    simp only at member after ⊢
    split
    · exact after
    · refine { after with linkProjects := ?_, linkModels := ?_ }
      · intro link inLinks
        rcases List.mem_append.mp inLinks with old | new
        · exact after.linkProjects link old
        · rw [List.mem_singleton.mp new]
          exact List.mem_map.mpr ⟨_, member, rfl⟩
      · intro link inLinks
        rcases List.mem_append.mp inLinks with old | new
        · exact after.linkModels link old
        · rw [List.mem_singleton.mp new]
          exact (show linked.models = store.models from models) ▸ present

theorem isMember_link (sound : store.TablesSound) (model : Nat) (project : String) :
    (link id store name).IsMember model project ↔
      store.IsMember model project ∨ (model = id ∧ project = name) := by
  have member := putProject_mem store name
  have after := putProject_sound name sound
  have unchanged := isMember_putProject name sound model project
  unfold link
  split
  next projectId linked put =>
    rw [put] at member after unchanged
    simp only at member after unchanged ⊢
    rw [← unchanged]
    split
    next already =>
      have inLinks : (⟨projectId, id⟩ : ProjectLink) ∈ linked.links := by simpa using already
      constructor
      · exact Or.inl
      · intro either
        rcases either with old | ⟨rfl, rfl⟩
        · exact old
        · exact ⟨_, member, rfl, inLinks⟩
    next fresh =>
      constructor
      · intro belongs
        obtain ⟨row, inProjects, named, inLinks⟩ := belongs
        rcases List.mem_append.mp inLinks with old | new
        · exact Or.inl ⟨row, inProjects, named, old⟩
        · have same := List.mem_singleton.mp new
          rw [ProjectLink.mk.injEq] at same
          have row_eq := eq_of_key_eq ProjectRow.id after.projectIds inProjects member same.1
          exact Or.inr ⟨same.2, by rw [← named, row_eq]⟩
      · intro either
        rcases either with ⟨row, inProjects, named, old⟩ | ⟨rfl, rfl⟩
        · exact ⟨row, inProjects, named, List.mem_append_left _ old⟩
        · exact ⟨_, member, rfl, by simp⟩

theorem linkAll_unlinked (names : List String) :
    (names.foldl (link id) store).unlinked = store.unlinked := by
  induction names generalizing store with
  | nil => rfl
  | cons first rest ih => rw [List.foldl_cons, ih, link_unlinked]

theorem linkAll_sound (names : List String) (sound : store.TablesSound)
    (present : id ∈ store.models.map ModelRow.id) : (names.foldl (link id) store).TablesSound := by
  induction names generalizing store with
  | nil => exact sound
  | cons first rest ih =>
    rw [List.foldl_cons]
    apply ih (link_sound first id sound present)
    exact (congrArg Store.models (link_unlinked first id)).symm ▸ present

theorem isMember_linkAll (names : List String) (sound : store.TablesSound)
    (present : id ∈ store.models.map ModelRow.id) (model : Nat) (project : String) :
    (names.foldl (link id) store).IsMember model project ↔
      store.IsMember model project ∨ (model = id ∧ project ∈ names) := by
  induction names generalizing store with
  | nil => simp
  | cons first rest ih =>
    have present' : id ∈ (link id store first).models.map ModelRow.id :=
      (congrArg Store.models (link_unlinked first id)).symm ▸ present
    rw [List.foldl_cons, ih (link_sound first id sound present) present',
      isMember_link first id sound, List.mem_cons]
    constructor
    · intro either
      rcases either with (old | new) | ⟨same, later⟩
      · exact Or.inl old
      · exact Or.inr ⟨new.1, Or.inl new.2⟩
      · exact Or.inr ⟨same, Or.inr later⟩
    · intro either
      rcases either with old | ⟨same, rfl | later⟩
      · exact Or.inl (Or.inl old)
      · exact Or.inl (Or.inr ⟨same, rfl⟩)
      · exact Or.inr ⟨same, later⟩

end Linking

/-! Metadata. -/

section Describing

variable {store : Store} (id : Nat) (entry : CatalogEntry)

def undescribed (store : Store) : Store := { store with metadata := [], metadataIndex := [] }

variable (store) in
theorem putMetadata_undescribed : (store.putMetadata id entry).undescribed = store.undescribed := by
  unfold putMetadata
  split
  · split <;> rfl
  · rfl

theorem putMetadata_models : (store.putMetadata id entry).models = store.models := by
  have same := congrArg Store.models (putMetadata_undescribed store id entry)
  exact same

theorem isFilled_metadataRow (filled : entry.hasMetadata = true) :
    (entry.metadataRow id).IsFilled := by
  simpa [CatalogEntry.hasMetadata, MetadataRow.IsFilled, CatalogEntry.metadataRow, or_assoc]
    using filled

theorem metadataOf_isSome (model : Nat) :
    (store.metadataOf? model).isSome = true ↔ model ∈ store.metadata.map MetadataRow.modelId := by
  rw [Option.isSome_iff_ne_none, ne_eq]
  exact (not_congr (find_key_eq_none_iff MetadataRow.modelId store.metadata model)).trans
    Classical.not_not

variable (store) in
theorem metadataOf_putMetadata (model : Nat) :
    (store.putMetadata id entry).metadataOf? model =
      if model = id ∧ entry.hasMetadata = true then some (entry.metadataRow id)
      else store.metadataOf? model := by
  unfold putMetadata
  split
  next filled =>
    split
    next described =>
      have present := (metadataOf_isSome id).mp described
      have replaced := find_replaced MetadataRow.modelId store.metadata (entry.metadataRow id) model
      simp only [filled, and_true]
      refine replaced.trans ?_
      rw [show (entry.metadataRow id).modelId = id from rfl]
      simp only [present, and_true]
      rfl
    next absent =>
      have unknown : store.metadataOf? id = none := by simpa using absent
      by_cases same : model = id
      · subst same
        simp only [metadataOf?] at unknown ⊢
        simp [insertMetadata, List.find?_append, unknown, filled, CatalogEntry.metadataRow]
      · simp [metadataOf?, insertMetadata, List.find?_append, same, Ne.symm same]
  next blank => simp [blank]

theorem putMetadata_sound (sound : store.TablesSound)
    (present : id ∈ store.models.map ModelRow.id) : (store.putMetadata id entry).TablesSound := by
  unfold putMetadata
  split
  next filled =>
    have filledRow := isFilled_metadataRow id entry filled
    split
    next described =>
      have known := (metadataOf_isSome id).mp described
      have keys := keys_replaced MetadataRow.modelId store.metadata (entry.metadataRow id)
      have member := mem_replaced MetadataRow.modelId (show (entry.metadataRow id).modelId ∈ _ from known)
      refine { sound with metadataIds := ?_, metadataModels := ?_, metadataFilled := ?_ }
      · exact keys.symm ▸ sound.metadataIds
      · intro row inTable
        rcases (member row).mp inTable with rfl | old
        · exact present
        · exact sound.metadataModels row old.1
      · intro row inTable
        rcases (member row).mp inTable with rfl | old
        · exact filledRow
        · exact sound.metadataFilled row old.1
    next absent =>
      have unknown : id ∉ store.metadata.map MetadataRow.modelId :=
        fun known => absent ((metadataOf_isSome id).mpr known)
      refine { sound with metadataIds := ?_, metadataModels := ?_, metadataFilled := ?_ }
      · exact nodup_keys_append MetadataRow.modelId sound.metadataIds unknown
      · intro row inTable
        rcases List.mem_append.mp inTable with old | new
        · exact sound.metadataModels row old
        · rw [List.mem_singleton.mp new]
          exact present
      · intro row inTable
        rcases List.mem_append.mp inTable with old | new
        · exact sound.metadataFilled row old
        · rw [List.mem_singleton.mp new]
          exact filledRow
  next => exact sound

end Describing

/-! Models. -/

section Modelling

variable {store : Store}

def unmodelled (store : Store) : Store := { store with models := [], modelIndex := [] }

theorem updateModel_sound {old row : ModelRow} (sound : store.TablesSound)
    (member : old ∈ store.models) (sameId : row.id = old.id) (samePath : row.filePath = old.filePath) :
    (store.updateModel row).TablesSound := by
  have ids : (store.updateModel row).models.map ModelRow.id = store.models.map ModelRow.id :=
    keys_replaced ModelRow.id store.models row
  have paths : (store.updateModel row).models.map ModelRow.filePath =
      store.models.map ModelRow.filePath := by
    apply keys_changed
    intro found inTable replaced
    have known : found = old :=
      eq_of_key_eq ModelRow.id sound.modelIds_nodup inTable member (replaced.trans sameId)
    rw [known, samePath]
  refine { sound with modelIds := ?_, paths := ?_, metadataModels := ?_, linkModels := ?_ }
  · rw [ids, sound.modelIds]
    simp [updateModel]
  · exact paths.symm ▸ sound.paths
  · exact ids.symm ▸ sound.metadataModels
  · exact ids.symm ▸ sound.linkModels

theorem insertModel_sound {row : ModelRow} (sound : store.TablesSound)
    (sameId : row.id = store.models.length + 1)
    (unknown : row.filePath ∉ store.models.map ModelRow.filePath) :
    (store.insertModel row).TablesSound := by
  refine { sound with modelIds := ?_, paths := ?_, metadataModels := ?_, linkModels := ?_ }
  · simp only [insertModel, List.map_append, List.map_cons, List.map_nil, List.length_append,
      List.length_cons, List.length_nil, List.range'_concat, sound.modelIds, sameId]
    simp [Nat.add_comm]
  · exact nodup_keys_append ModelRow.filePath sound.paths unknown
  · intro metadata inTable
    simp only [insertModel, List.map_append, List.mem_append]
    exact Or.inl (sound.metadataModels metadata inTable)
  · intro link inLinks
    simp only [insertModel, List.map_append, List.mem_append]
    exact Or.inl (sound.linkModels link inLinks)

theorem putModel_cases (sound : store.TablesSound) (entry : CatalogEntry) (now : Time.Instant) :
    (∃ old ∈ store.models, old.filePath = entry.filePath ∧
      store.putModel entry now = (old.id, store.updateModel (old.filledBy entry))) ∨
    (entry.filePath ∉ store.models.map ModelRow.filePath ∧
      store.putModel entry now = (store.models.length + 1,
        store.insertModel (entry.modelRow (store.models.length + 1) now))) := by
  unfold putModel
  cases found : store.modelAt? entry.filePath with
  | some old =>
    obtain ⟨member, same⟩ :=
      (find_key_eq_some_iff ModelRow.filePath sound.paths entry.filePath old).mp found
    exact Or.inl ⟨old, member, same, rfl⟩
  | none =>
    have unknown := (find_key_eq_none_iff ModelRow.filePath store.models entry.filePath).mp found
    have next : nextId (store.models.map ModelRow.id) = store.models.length + 1 := by
      rw [sound.modelIds, nextId_range]
    exact Or.inr ⟨unknown, by simp only [next]; rfl⟩

variable (store) in
theorem putModel_unmodelled (entry : CatalogEntry) (now : Time.Instant) :
    (store.putModel entry now).2.unmodelled = store.unmodelled := by
  unfold putModel
  split <;> rfl

theorem putModel_sound (sound : store.TablesSound) (entry : CatalogEntry) (now : Time.Instant) :
    (store.putModel entry now).2.TablesSound := by
  rcases putModel_cases sound entry now with ⟨old, member, _, put⟩ | ⟨unknown, put⟩
  · rw [put]
    exact updateModel_sound sound member rfl rfl
  · rw [put]
    exact insertModel_sound sound rfl unknown

theorem putModel_present (sound : store.TablesSound) (entry : CatalogEntry) (now : Time.Instant) :
    (store.putModel entry now).1 ∈ (store.putModel entry now).2.models.map ModelRow.id := by
  rcases putModel_cases sound entry now with ⟨old, member, _, put⟩ | ⟨_, put⟩
  · rw [put]
    have ids := keys_replaced ModelRow.id store.models (old.filledBy entry)
    exact ids.symm ▸ List.mem_map.mpr ⟨old, member, rfl⟩
  · rw [put]
    simp [insertModel, CatalogEntry.modelRow]

end Modelling

/-! Whole entries. -/

section Upserting

variable {store : Store} (entry : CatalogEntry) (now : Time.Instant)

def described (store : Store) : Store :=
  (store.putModel entry now).2.putMetadata (store.putModel entry now).1 entry

theorem described_models :
    (store.described entry now).models = (store.putModel entry now).2.models :=
  putMetadata_models _ entry

theorem described_present (sound : store.TablesSound) :
    (store.putModel entry now).1 ∈ (store.described entry now).models.map ModelRow.id :=
  described_models entry now ▸ putModel_present sound entry now

theorem described_sound (sound : store.TablesSound) : (store.described entry now).TablesSound :=
  putMetadata_sound _ entry (putModel_sound sound entry now) (putModel_present sound entry now)

variable (store) in
theorem upsert_unlinked :
    (store.upsert entry now).2.unlinked = (store.described entry now).unlinked :=
  linkAll_unlinked _ entry.projects

theorem upsert_models : (store.upsert entry now).2.models = (store.putModel entry now).2.models :=
  (congrArg Store.models (upsert_unlinked store entry now)).trans (described_models entry now)

theorem upsert_sound (sound : store.TablesSound) : (store.upsert entry now).2.TablesSound :=
  linkAll_sound _ entry.projects (described_sound entry now sound)
    (described_present entry now sound)

variable (store) in
theorem upsert_saved : (store.upsert entry now).2.saved = store.saved := by
  have linked := congrArg Store.saved (upsert_unlinked store entry now)
  have described := congrArg Store.saved (putMetadata_undescribed (store.putModel entry now).2
    (store.putModel entry now).1 entry)
  have modelled := congrArg Store.saved (putModel_unmodelled store entry now)
  exact linked.trans (described.trans modelled)

end Upserting

/-! Views. -/

section Viewing

variable {store : Store} (target : String) (now : Time.Instant)

theorem viewed_cases (sound : store.TablesSound) :
    store.models.filter (isTarget target) = [] ∨
      ∃ row ∈ store.models, store.models.filter (isTarget target) = [row] := by
  have one : ∃ found : Option ModelRow, store.models.filter (isTarget target) = found.toList := by
    unfold isTarget
    cases number : Decimal.readInt64? target.toList with
    | none => exact ⟨_, filter_key ModelRow.filePath sound.paths target⟩
    | some id =>
      have distinct : (store.models.map fun row => (row.id : Int)).Nodup := by
        have cast := List.Pairwise.map (R := fun a b : Nat => a ≠ b) (S := fun a b : Int => a ≠ b)
          Int.ofNat (fun a b differ same => differ (Int.ofNat.inj same)) sound.modelIds_nodup
        rwa [List.map_map] at cast
      exact ⟨_, filter_key (fun row : ModelRow => (row.id : Int)) distinct id.toInt⟩
  obtain ⟨found, viewed⟩ := one
  cases found with
  | none => exact Or.inl viewed
  | some row =>
    have inFilter : row ∈ store.models.filter (isTarget target) := by simp [viewed]
    exact Or.inr ⟨row, (List.mem_filter.mp inFilter).1, viewed⟩

variable (store) in
theorem markViewed_unmodelled :
    (store.markViewed target now).2.unmodelled = store.unmodelled := by
  unfold markViewed
  generalize store.models.filter (isTarget target) = viewed
  simp only
  induction viewed generalizing store with
  | nil => rfl
  | cons first rest ih =>
    rw [List.foldl_cons, ih]
    rfl

theorem markViewed_sound (sound : store.TablesSound) :
    (store.markViewed target now).2.TablesSound := by
  unfold markViewed
  rcases viewed_cases target sound with none | ⟨row, member, one⟩
  · rw [none]
    exact sound
  · rw [one]
    exact updateModel_sound sound member rfl rfl

theorem markViewed_models (sound : store.TablesSound) :
    (store.markViewed target now).2.models = store.models.map fun row =>
      if isTarget target row then { row with lastViewed := some now.timestamp } else row := by
  unfold markViewed
  rcases viewed_cases target sound with none | ⟨row, member, one⟩
  · simp only [none, List.foldl_nil]
    rw [List.map_congr_left (g := id), List.map_id]
    intro row member
    have missed := List.filter_eq_nil_iff.mp none row member
    simp [missed]
  · simp only [one, List.foldl_cons, List.foldl_nil, updateModel]
    apply List.map_congr_left
    intro old inTable
    have only : isTarget target old = true ↔ old = row := by
      have kept : old ∈ store.models.filter (isTarget target) ↔ old = row := by
        rw [one, List.mem_singleton]
      rw [← kept, List.mem_filter]
      exact ⟨fun viewed => ⟨inTable, viewed⟩, And.right⟩
    by_cases same : old.id = row.id
    · have known : old = row := eq_of_key_eq ModelRow.id sound.modelIds_nodup inTable member same
      have hit : isTarget target row = true := known ▸ only.mpr known
      simp [known, hit]
    · have missed : isTarget target old ≠ true :=
        fun viewed => same (congrArg ModelRow.id (only.mp viewed))
      simp [same, missed]

variable (store) in
theorem markViewed_saved : (store.markViewed target now).2.saved = store.saved := by
  have same := congrArg Store.saved (markViewed_unmodelled store target now)
  exact same

end Viewing

end Store

end ModelCatalog
