import ModelCatalog.Proofs.Catalog.Tables

/-!
How the entries of a catalog change: an entry that is put in is merged with the one at its path, or
becomes the last one; a view touches one field of one entry.
-/

namespace ModelCatalog

namespace CatalogEntry

def asNew (entry : CatalogEntry) (now : Time.Instant) : CatalogEntry :=
  { entry with dateAdded := some (entry.dateAdded.getD now.timestamp)
               projects := ascendingTexts entry.projects }

def mergedWith (old new : CatalogEntry) : CatalogEntry :=
  let described := if new.hasMetadata then new else old
  { filename := new.filename, format := new.format, filePath := old.filePath,
    fileSize := new.fileSize, dateAdded := new.dateAdded.or old.dateAdded,
    lastViewed := new.lastViewed.or old.lastViewed,
    title := described.title, description := described.description,
    keywords := described.keywords, category := described.category, source := described.source,
    rating := described.rating, projects := ascendingTexts (old.projects ++ new.projects) }

theorem hasMetadata_eq_false {entry : CatalogEntry} : entry.hasMetadata = false ↔
    entry.title = none ∧ entry.description = none ∧ entry.keywords = none ∧
      entry.category = none ∧ entry.source = none ∧ entry.rating = none := by
  simp [hasMetadata, and_assoc]

def absorb (entries : List CatalogEntry) (entry : CatalogEntry) (now : Time.Instant) :
    List CatalogEntry :=
  if entry.filePath ∈ entries.map filePath then
    entries.map fun old => if old.filePath = entry.filePath then old.mergedWith entry else old
  else entries ++ [entry.asNew now]

def isMeant (target : String) (id : Nat) (filePath : String) : Bool :=
  match Decimal.readInt64? target.toList with
  | some number => (id : Int) == number.toInt
  | none => filePath == target

def viewedAt (entry : CatalogEntry) (now : Time.Instant) : CatalogEntry :=
  { entry with lastViewed := some now.timestamp }

def view (entries : List CatalogEntry) (target : String) (now : Time.Instant) :
    List CatalogEntry :=
  entries.mapIdx fun i entry =>
    if isMeant target (i + 1) entry.filePath then entry.viewedAt now else entry

end CatalogEntry

namespace Store

variable {store : Store}

theorem entries_filePath (store : Store) :
    store.entries.map CatalogEntry.filePath = store.models.map ModelRow.filePath := by
  simp only [entries, List.map_map]
  rfl

theorem entries_length (store : Store) : store.entries.length = store.models.length := by
  simp [entries]

theorem entryOf_congr {other : Store} {row : ModelRow}
    (metadata : other.metadataOf? row.id = store.metadataOf? row.id)
    (projects : other.projectNames row.id = store.projectNames row.id) :
    other.entryOf row = store.entryOf row := by
  simp only [entryOf, metadata, projects]

section Upserting

variable (entry : CatalogEntry) (now : Time.Instant)

variable (store) in
theorem metadataOf_upsert (model : Nat) :
    (store.upsert entry now).2.metadataOf? model =
      if model = (store.putModel entry now).1 ∧ entry.hasMetadata = true then
        some (entry.metadataRow model)
      else store.metadataOf? model := by
  have linked : (store.upsert entry now).2.metadata = (store.described entry now).metadata := by
    have same := congrArg Store.metadata (upsert_unlinked store entry now)
    exact same
  have modelled : (store.putModel entry now).2.metadata = store.metadata := by
    have same := congrArg Store.metadata (putModel_unmodelled store entry now)
    exact same
  have described := metadataOf_putMetadata (store.putModel entry now).2
    (store.putModel entry now).1 entry model
  simp only [metadataOf?] at described ⊢
  rw [linked]
  refine described.trans ?_
  rw [modelled]
  by_cases same : model = (store.putModel entry now).1
  · rw [same]
  · simp [same]

theorem isMember_upsert (sound : store.TablesSound) (model : Nat) (name : String) :
    (store.upsert entry now).2.IsMember model name ↔
      store.IsMember model name ∨
        (model = (store.putModel entry now).1 ∧ name ∈ entry.projects) := by
  have projects : (store.described entry now).projects = store.projects := by
    have described := congrArg Store.projects (putMetadata_undescribed
      (store.putModel entry now).2 (store.putModel entry now).1 entry)
    have modelled := congrArg Store.projects (putModel_unmodelled store entry now)
    exact described.trans modelled
  have links : (store.described entry now).links = store.links := by
    have described := congrArg Store.links (putMetadata_undescribed
      (store.putModel entry now).2 (store.putModel entry now).1 entry)
    have modelled := congrArg Store.links (putModel_unmodelled store entry now)
    exact described.trans modelled
  have unchanged : (store.described entry now).IsMember model name ↔
      store.IsMember model name := by
    rw [IsMember, IsMember, projects, links]
  rw [← unchanged]
  exact isMember_linkAll _ entry.projects (described_sound entry now sound)
    (described_present entry now sound) model name

theorem projectNames_upsert (sound : store.TablesSound) (model : Nat) :
    (store.upsert entry now).2.projectNames model =
      if model = (store.putModel entry now).1 then
        ascendingTexts (store.projectNames model ++ entry.projects)
      else store.projectNames model := by
  have ascending := projectNames_ascending (upsert_sound entry now sound) model
  have members (name : String) : name ∈ (store.upsert entry now).2.projectNames model ↔ _ :=
    mem_projectNames.trans (isMember_upsert entry now sound model name)
  split
  next same =>
    apply eq_of_ascending ascending (ascendingTexts_ascending _)
    intro name
    rw [members, mem_ascendingTexts, List.mem_append, mem_projectNames]
    simp [same]
  next differ =>
    apply eq_of_ascending ascending (projectNames_ascending sound model)
    intro name
    rw [members, mem_projectNames]
    simp [differ]

theorem metadataOf_fresh (sound : store.TablesSound) {id : Nat}
    (fresh : id ∉ store.models.map ModelRow.id) : store.metadataOf? id = none := by
  apply (find_key_eq_none_iff MetadataRow.modelId store.metadata id).mpr
  intro known
  obtain ⟨row, member, same⟩ := List.mem_map.mp known
  exact fresh (same ▸ sound.metadataModels row member)

theorem projectNames_fresh (sound : store.TablesSound) {id : Nat}
    (fresh : id ∉ store.models.map ModelRow.id) : store.projectNames id = [] := by
  apply List.eq_nil_iff_forall_not_mem.mpr
  intro name member
  obtain ⟨project, _, _, linked⟩ := mem_projectNames.mp member
  exact fresh (sound.linkModels _ linked)

theorem length_succ_not_mem (sound : store.TablesSound) :
    store.models.length + 1 ∉ store.models.map ModelRow.id := by
  rw [sound.modelIds, List.mem_range'_1]
  omega

theorem entryOf_upsert_other (sound : store.TablesSound) {row : ModelRow}
    (other : row.id ≠ (store.putModel entry now).1) :
    (store.upsert entry now).2.entryOf row = store.entryOf row := by
  apply entryOf_congr
  · rw [metadataOf_upsert, if_neg fun here => other here.1]
  · rw [projectNames_upsert entry now sound, if_neg other]

theorem entryOf_upsert_again (sound : store.TablesSound) {old : ModelRow}
    (here : (store.putModel entry now).1 = old.id) :
    (store.upsert entry now).2.entryOf (old.filledBy entry) =
      (store.entryOf old).mergedWith entry := by
  have described := metadataOf_upsert store entry now old.id
  have joined := projectNames_upsert entry now sound old.id
  have sameId : (old.filledBy entry).id = old.id := rfl
  have added : some (old.filledBy entry).dateAdded = entry.dateAdded.or (some old.dateAdded) := by
    cases given : entry.dateAdded <;> simp [ModelRow.filledBy, given]
  simp only [here, true_and, if_true] at described joined
  simp only [entryOf, CatalogEntry.mergedWith, sameId, described, joined, added]
  cases entry.hasMetadata <;> rfl

theorem entryOf_upsert_first (sound : store.TablesSound) {id : Nat}
    (here : (store.putModel entry now).1 = id) (fresh : id ∉ store.models.map ModelRow.id) :
    (store.upsert entry now).2.entryOf (entry.modelRow id now) = entry.asNew now := by
  have described := metadataOf_upsert store entry now id
  have joined := projectNames_upsert entry now sound id
  rw [metadataOf_fresh sound fresh] at described
  rw [projectNames_fresh sound fresh] at joined
  simp only [here, true_and, if_true, List.nil_append] at described joined
  simp only [entryOf, CatalogEntry.asNew, CatalogEntry.modelRow, described, joined]
  cases filled : entry.hasMetadata with
  | true => rfl
  | false =>
    obtain ⟨title, description, keywords, category, source, rating⟩ :=
      CatalogEntry.hasMetadata_eq_false.mp filled
    simp [title, description, keywords, category, source, rating]

/-- Putting an entry in merges it into the list of entries. -/
theorem entries_upsert (sound : store.TablesSound) :
    (store.upsert entry now).2.entries = CatalogEntry.absorb store.entries entry now := by
  rw [CatalogEntry.absorb, entries_filePath, entries, upsert_models]
  rcases putModel_cases sound entry now with ⟨old, member, samePath, put⟩ | ⟨unknown, put⟩
  · have here : (store.putModel entry now).1 = old.id := congrArg Prod.fst put
    rw [if_pos (List.mem_map.mpr ⟨old, member, samePath⟩), put, updateModel, entries, List.map_map,
      List.map_map]
    apply List.map_congr_left
    intro row inTable
    have path : (store.entryOf row).filePath = row.filePath := rfl
    have sameId : (old.filledBy entry).id = old.id := rfl
    rw [Function.comp_apply, Function.comp_apply, path, sameId]
    by_cases same : row.id = old.id
    · have known : row = old := eq_of_key_eq ModelRow.id sound.modelIds_nodup inTable member same
      rw [if_pos same, known, if_pos samePath, entryOf_upsert_again entry now sound here]
    · have elsewhere : row.filePath ≠ entry.filePath := by
        intro samePath'
        have known : row = old :=
          eq_of_key_eq ModelRow.filePath sound.paths inTable member (samePath'.trans samePath.symm)
        exact same (congrArg ModelRow.id known)
      rw [if_neg same, if_neg elsewhere]
      exact entryOf_upsert_other entry now sound (here ▸ same)
  · have here : (store.putModel entry now).1 = store.models.length + 1 := congrArg Prod.fst put
    have fresh := length_succ_not_mem sound
    rw [if_neg unknown, put, insertModel, entries, List.map_append, List.map_singleton,
      entryOf_upsert_first entry now sound here fresh]
    congr 1
    apply List.map_congr_left
    intro row inTable
    apply entryOf_upsert_other entry now sound
    rw [here]
    intro same
    exact fresh (same ▸ List.mem_map_of_mem inTable)

end Upserting

theorem isTarget_eq (target : String) (row : ModelRow) :
    isTarget target row = CatalogEntry.isMeant target row.id row.filePath := by
  unfold isTarget CatalogEntry.isMeant
  cases Decimal.readInt64? target.toList with
  | none => rfl
  | some number => rfl

/-- A view stamps the entries that the target means. -/
theorem entries_markViewed (sound : store.TablesSound) (target : String) (now : Time.Instant) :
    (store.markViewed target now).2.entries = CatalogEntry.view store.entries target now := by
  have models := markViewed_models target now sound
  have frame := markViewed_unmodelled store target now
  have kept (row : ModelRow) : (store.markViewed target now).2.entryOf row = store.entryOf row := by
    have metadata := congrArg Store.metadata frame
    have projects := congrArg Store.projects frame
    have links := congrArg Store.links frame
    simp only [unmodelled] at metadata projects links
    simp only [entryOf, metadataOf?, projectNames, metadata, projects, links]
  rw [entries, models, CatalogEntry.view]
  apply List.ext_getElem
  · simp [entries_length]
  · intro i inLeft inRight
    have inModels : i < store.models.length := by simpa using inLeft
    have meant : isTarget target store.models[i] =
        CatalogEntry.isMeant target (i + 1) store.models[i].filePath := by
      rw [isTarget_eq, sound.id_getElem inModels]
    simp only [List.map_map, List.getElem_map, Function.comp, kept, List.getElem_mapIdx, entries]
    rw [meant, show (store.entryOf store.models[i]).filePath = store.models[i].filePath from rfl]
    split <;> rfl

end Store

end ModelCatalog
