import ModelCatalog.TextIndex.Basic

/-!
The store: the tables of the catalog and the two text indexes over them. Rows stand in the order in
which they were added, which is the order of their ids.
-/

namespace ModelCatalog

structure ModelRow where
  id : Nat
  filename : String
  format : Option String
  filePath : String
  fileSize : Option Int64
  dateAdded : String
  lastViewed : Option String
  deriving DecidableEq, Repr

structure MetadataRow where
  modelId : Nat
  title : Option String
  description : Option String
  keywords : Option String
  category : Option String
  source : Option String
  rating : Option Int64
  deriving DecidableEq, Repr

structure ProjectRow where
  id : Nat
  name : String
  deriving DecidableEq, Repr

structure ProjectLink where
  projectId : Nat
  modelId : Nat
  deriving DecidableEq, Repr

structure HistoryRow where
  id : Nat
  query : String
  filters : String
  resultCount : Int64
  createdAt : String
  deriving DecidableEq, Repr

structure SavedRow where
  id : Nat
  name : String
  query : String
  filters : String
  createdAt : String
  deriving DecidableEq, Repr

structure Store where
  models : List ModelRow := []
  metadata : List MetadataRow := []
  projects : List ProjectRow := []
  links : List ProjectLink := []
  history : List HistoryRow := []
  /-- The id of the next history row; ids are never used again. -/
  nextHistoryId : Nat := 1
  saved : List SavedRow := []
  modelIndex : TextIndex := []
  metadataIndex : TextIndex := []
  deriving DecidableEq, Repr, Inhabited

def nextId (ids : List Nat) : Nat := ids.foldl max 0 + 1

def ModelRow.indexEntry (row : ModelRow) : IndexEntry :=
  ⟨row.id, [some row.filename, row.format, some row.filePath]⟩

def MetadataRow.indexEntry (row : MetadataRow) : IndexEntry :=
  ⟨row.modelId, [row.title, row.description, row.keywords, row.category, row.source]⟩

namespace Store

def insertModel (store : Store) (row : ModelRow) : Store :=
  { store with models := store.models ++ [row]
               modelIndex := store.modelIndex.insert row.indexEntry }

def updateModel (store : Store) (row : ModelRow) : Store :=
  { store with models := store.models.map fun old => if old.id = row.id then row else old
               modelIndex := store.modelIndex.replace row.indexEntry }

def insertMetadata (store : Store) (row : MetadataRow) : Store :=
  { store with metadata := store.metadata ++ [row]
               metadataIndex := store.metadataIndex.insert row.indexEntry }

def updateMetadata (store : Store) (row : MetadataRow) : Store :=
  { store with
    metadata := store.metadata.map fun old => if old.modelId = row.modelId then row else old
    metadataIndex := store.metadataIndex.replace row.indexEntry }

def rebuildIndexes (store : Store) : Store :=
  { store with modelIndex := store.models.map ModelRow.indexEntry
               metadataIndex := store.metadata.map MetadataRow.indexEntry }

def modelAt? (store : Store) (filePath : String) : Option ModelRow :=
  store.models.find? fun row => row.filePath == filePath

def metadataOf? (store : Store) (id : Nat) : Option MetadataRow :=
  store.metadata.find? fun row => row.modelId == id

def projectNamed? (store : Store) (name : String) : Option ProjectRow :=
  store.projects.find? fun row => row.name == name

def inProject (store : Store) (id : Nat) : Bool := store.links.any fun link => link.modelId == id

end Store

end ModelCatalog
