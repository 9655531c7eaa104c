import ModelCatalog.Catalog.Line
import ModelCatalog.Store.Backend
import ModelCatalog.Store.Catalog

/-!
Transfer of whole catalogs, line by line. An import either takes in every line or changes nothing.
-/

namespace ModelCatalog

structure TransferStats where
  models : Nat := 0
  savedSearches : Nat := 0
  deriving DecidableEq, Repr

def TransferStats.toJson (stats : TransferStats) : Json :=
  .object [("models", .int stats.models), ("saved_searches", .int stats.savedSearches)]

structure BadLine where
  number : Nat
  text : String
  deriving DecidableEq, Repr

def BadLine.message (line : BadLine) : String :=
  "parse import line " ++ naturalText line.number ++ ": " ++ line.text

namespace Store

def importLine (now : Time.Instant) (store : Store) : CatalogLine → Store
  | .model entry => (store.upsert entry now).2
  | .savedSearch name query filters => store.putSaved name query filters.encode now.timestamp

def countLine (stats : TransferStats) : CatalogLine → TransferStats
  | .model _ => { stats with models := stats.models + 1 }
  | .savedSearch _ _ _ => { stats with savedSearches := stats.savedSearches + 1 }

def readLines (number : Nat) : List (List Char) → Except BadLine (List CatalogLine)
  | [] => .ok []
  | line :: rest =>
    let line := Text.trim line
    if line.isEmpty then readLines (number + 1) rest
    else
      match CatalogLine.decode (String.ofList line) with
      | none => .error ⟨number, String.ofList line⟩
      | some decoded => (readLines (number + 1) rest).map (decoded :: ·)

def importText (store : Store) (text : String) (now : Time.Instant) :
    Except BadLine (TransferStats × Store) := do
  let lines ← readLines 1 (text.toList.splitOn '\n')
  return (lines.foldl countLine {}, lines.foldl (importLine now) store)

def savedSearches (store : Store) : Except SearchError (List SavedSearch) :=
  store.savedRecords.mapM SavedSearch.ofRecord

/-- The lines of the whole catalog: the models in order of their ids, then the saved searches. -/
def exportLines (store : Store) : Except SearchError (List CatalogLine) := do
  let saved ← store.savedSearches
  return store.entries.map .model
    ++ saved.map fun search => .savedSearch search.name search.query search.filters

def lineTexts (lines : List CatalogLine) : List String := lines.map fun line => line.toJson.compact

def exportText (store : Store) : Except SearchError (TransferStats × String) := do
  let lines ← store.exportLines
  return (lines.foldl countLine {}, String.join ((lineTexts lines).map fun line => line ++ "\n"))

end Store

end ModelCatalog
