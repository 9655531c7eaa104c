import ModelCatalog.Catalog.Entry
import ModelCatalog.Decimal.Integer
import ModelCatalog.Store.Basic
import ModelCatalog.Time.Instant

/-!
The catalog that a store holds: entries are put in under their file path, viewed, and listed.
-/

namespace ModelCatalog.Store

/-- Puts the file of an entry in, and tells the model's id. What the entry does not say of its times
is kept, or is now for a new model. -/
def putModel (store : Store) (entry : CatalogEntry) (now : Time.Instant) : Nat × Store :=
  match store.modelAt? entry.filePath with
  | some old =>
    (old.id, store.updateModel
      { old with filename := entry.filename, format := entry.format, fileSize := entry.fileSize,
                 dateAdded := entry.dateAdded.getD old.dateAdded,
                 lastViewed := entry.lastViewed.or old.lastViewed })
  | none =>
    let id := nextId (store.models.map ModelRow.id)
    (id, store.insertModel
      { id, filename := entry.filename, format := entry.format, filePath := entry.filePath,
        fileSize := entry.fileSize, dateAdded := entry.dateAdded.getD now.timestamp,
        lastViewed := entry.lastViewed })

def putMetadata (store : Store) (id : Nat) (entry : CatalogEntry) : Store :=
  if entry.hasMetadata then
    let row : MetadataRow :=
      ⟨id, entry.title, entry.description, entry.keywords, entry.category, entry.source,
        entry.rating⟩
    if (store.metadataOf? id).isSome then store.updateMetadata row else store.insertMetadata row
  else store

def putProject (store : Store) (name : String) : Nat × Store :=
  match store.projectNamed? name with
  | some project => (project.id, store)
  | none =>
    let id := nextId (store.projects.map ProjectRow.id)
    (id, { store with projects := store.projects ++ [⟨id, name⟩] })

def link (id : Nat) (store : Store) (name : String) : Store :=
  let (projectId, store) := store.putProject name
  let link : ProjectLink := ⟨projectId, id⟩
  if store.links.contains link then store else { store with links := store.links ++ [link] }

def upsert (store : Store) (entry : CatalogEntry) (now : Time.Instant) : Nat × Store :=
  let (id, store) := store.putModel entry now
  (id, entry.projects.foldl (link id) (store.putMetadata id entry))

/-- The models that a target means: the one with that id if it is a number, else the one with that
path. -/
def isTarget (target : String) (row : ModelRow) : Bool :=
  match Decimal.readInt64? target.toList with
  | some id => (row.id : Int) == id.toInt
  | none => row.filePath == target

def markViewed (store : Store) (target : String) (now : Time.Instant) : Nat × Store :=
  let viewed := store.models.filter (isTarget target)
  (viewed.length, viewed.foldl
    (fun store row => store.updateModel { row with lastViewed := some now.timestamp }) store)

def projectNames (store : Store) (id : Nat) : List String :=
  let ids := (store.links.filter fun link => link.modelId == id).map ProjectLink.projectId
  let names := (store.projects.filter fun project => ids.contains project.id).map ProjectRow.name
  names.mergeSort fun a b => decide (a ≤ b)

def entryOf (store : Store) (row : ModelRow) : CatalogEntry :=
  let metadata := store.metadataOf? row.id
  { filename := row.filename, format := row.format, filePath := row.filePath,
    fileSize := row.fileSize, dateAdded := some row.dateAdded, lastViewed := row.lastViewed,
    title := metadata.bind MetadataRow.title
    description := metadata.bind MetadataRow.description
    keywords := metadata.bind MetadataRow.keywords
    category := metadata.bind MetadataRow.category
    source := metadata.bind MetadataRow.source
    rating := metadata.bind MetadataRow.rating
    projects := store.projectNames row.id }

def entries (store : Store) : List CatalogEntry := store.models.map store.entryOf

end ModelCatalog.Store
