import ModelCatalog.Decimal.Integer
import ModelCatalog.Json.Decode
import ModelCatalog.Store.Basic

/-!
Store files: a store and the version of its layout, which is kept as text. They are written as JSON: an
object with one list for each table and each index. Each row is a list of its values, so that a store
takes little room.
-/

namespace ModelCatalog

structure StoreFile where
  version : String := "1"
  store : Store := {}
  deriving DecidableEq, Repr, Inhabited

namespace StoreFile

def currentVersion : Int64 := 1

/-- A text that is no number counts as version zero. -/
def versionNumber (file : StoreFile) : Int64 := (Decimal.readInt64? file.version.toList).getD 0

/-- The file stamped with the current version. A version above it is refused, and told. -/
def upgraded (file : StoreFile) : Except Int64 StoreFile :=
  if currentVersion < file.versionNumber then .error file.versionNumber
  else if file.versionNumber = currentVersion then .ok file
  else .ok { file with version := integerText currentVersion.toInt }

def natJson? : Json → Option Nat
  | .int n => if 0 ≤ n then some n.toNat else none
  | _ => none

def optText (text : Option String) : Json := Json.orNull .string text

def optInt64 (n : Option Int64) : Json := Json.orNull (fun n => .int n.toInt) n

def optText? : Json → Option (Option String) := Json.toOption? Json.toString?

def optInt64? : Json → Option (Option Int64) := Json.toOption? Json.toInt64?

def modelJson (row : ModelRow) : Json :=
  .list [.int row.id, .string row.filename, optText row.format, .string row.filePath,
    optInt64 row.fileSize, .string row.dateAdded, optText row.lastViewed]

def modelOf? : Json → Option ModelRow
  | .list [id, filename, format, filePath, fileSize, dateAdded, lastViewed] => do
    return ⟨← natJson? id, ← filename.toString?, ← optText? format, ← filePath.toString?,
      ← optInt64? fileSize, ← dateAdded.toString?, ← optText? lastViewed⟩
  | _ => none

def metadataJson (row : MetadataRow) : Json :=
  .list [.int row.modelId, optText row.title, optText row.description, optText row.keywords,
    optText row.category, optText row.source, optInt64 row.rating]

def metadataOf? : Json → Option MetadataRow
  | .list [modelId, title, description, keywords, category, source, rating] => do
    return ⟨← natJson? modelId, ← optText? title, ← optText? description, ← optText? keywords,
      ← optText? category, ← optText? source, ← optInt64? rating⟩
  | _ => none

def projectJson (row : ProjectRow) : Json := .list [.int row.id, .string row.name]

def projectOf? : Json → Option ProjectRow
  | .list [id, name] => do return ⟨← natJson? id, ← name.toString?⟩
  | _ => none

def linkJson (link : ProjectLink) : Json := .list [.int link.projectId, .int link.modelId]

def linkOf? : Json → Option ProjectLink
  | .list [projectId, modelId] => do return ⟨← natJson? projectId, ← natJson? modelId⟩
  | _ => none

def historyJson (row : HistoryRow) : Json :=
  .list [.int row.id, .string row.query, .string row.filters, .int row.resultCount.toInt,
    .string row.createdAt]

def historyOf? : Json → Option HistoryRow
  | .list [id, query, filters, resultCount, createdAt] => do
    return ⟨← natJson? id, ← query.toString?, ← filters.toString?, ← resultCount.toInt64?,
      ← createdAt.toString?⟩
  | _ => none

def savedJson (row : SavedRow) : Json :=
  .list [.int row.id, .string row.name, .string row.query, .string row.filters,
    .string row.createdAt]

def savedOf? : Json → Option SavedRow
  | .list [id, name, query, filters, createdAt] => do
    return ⟨← natJson? id, ← name.toString?, ← query.toString?, ← filters.toString?,
      ← createdAt.toString?⟩
  | _ => none

def indexJson (entry : IndexEntry) : Json :=
  .list [.int entry.id, .list (entry.texts.map optText)]

def indexOf? : Json → Option IndexEntry
  | .list [id, .list columns] => do return ⟨← natJson? id, ← columns.mapM optText?⟩
  | _ => none

def toJson (file : StoreFile) : Json :=
  let store := file.store
  .object [("version", .string file.version),
    ("models", .list (store.models.map modelJson)),
    ("metadata", .list (store.metadata.map metadataJson)),
    ("projects", .list (store.projects.map projectJson)),
    ("links", .list (store.links.map linkJson)),
    ("history", .list (store.history.map historyJson)),
    ("next_history_id", .int store.nextHistoryId),
    ("saved", .list (store.saved.map savedJson)),
    ("model_index", .list (store.modelIndex.map indexJson)),
    ("metadata_index", .list (store.metadataIndex.map indexJson))]

def rowsOf? {α : Type} (decode : Json → Option α) : Json → Option (List α)
  | .list rows => rows.mapM decode
  | _ => none

def ofMembers? (members : List (String × Json)) : Option StoreFile := do
  let store : Store :=
    { models := ← Json.required? (rowsOf? modelOf?) "models" members
      metadata := ← Json.required? (rowsOf? metadataOf?) "metadata" members
      projects := ← Json.required? (rowsOf? projectOf?) "projects" members
      links := ← Json.required? (rowsOf? linkOf?) "links" members
      history := ← Json.required? (rowsOf? historyOf?) "history" members
      nextHistoryId := ← Json.required? natJson? "next_history_id" members
      saved := ← Json.required? (rowsOf? savedOf?) "saved" members
      modelIndex := ← Json.required? (rowsOf? indexOf?) "model_index" members
      metadataIndex := ← Json.required? (rowsOf? indexOf?) "metadata_index" members }
  return ⟨← Json.required? Json.toString? "version" members, store⟩

def encode (file : StoreFile) : String := file.toJson.compact

/-- An empty text is an empty store of no version. -/
def decode? (text : String) : Option StoreFile :=
  if text.isEmpty then some { version := "" }
  else
    match Json.read text with
    | some (.object members) => ofMembers? members
    | _ => none

end StoreFile

end ModelCatalog
