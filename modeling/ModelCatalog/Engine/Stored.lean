import ModelCatalog.Engine.Statement
import ModelCatalog.Filter.Codec

/-!
The search history and the saved searches. Both keep their filters as JSON text.
-/

namespace ModelCatalog

structure HistoryRecord where
  id : Int64
  query : String
  filters : FilterSet
  resultCount : UInt64
  createdAt : String
  deriving DecidableEq, Repr

structure SavedSearch where
  id : Int64
  name : String
  query : String
  filters : FilterSet
  createdAt : String
  deriving DecidableEq, Repr

def countOf (n : Int64) : UInt64 := if n < 0 then 0 else n.toUInt64

/-- The filters of a record; without text there are none. -/
def storedFilters (record : Sql.Record) : Except SearchError FilterSet :=
  match record.text? "filters" with
  | none => .ok {}
  | some text =>
    if (trimmed text).isEmpty then .ok {}
    else
      match FilterSet.decode text with
      | some filters => .ok filters
      | none => .error .serialization

namespace HistoryRecord

def ofRecord (record : Sql.Record) : Except SearchError HistoryRecord := do
  return {
    id := (record.integer? "id").getD 0
    query := (record.text? "query").getD ""
    filters := ← storedFilters record
    resultCount := countOf ((record.integer? "result_count").getD 0)
    createdAt := (record.text? "created_at").getD "" }

def toJson (entry : HistoryRecord) : Json :=
  .object [("id", .int entry.id.toInt), ("query", .string entry.query),
    ("filters", entry.filters.toJson), ("result_count", .int entry.resultCount.toNat),
    ("created_at", .string entry.createdAt)]

end HistoryRecord

namespace SavedSearch

def ofRecord (record : Sql.Record) : Except SearchError SavedSearch := do
  return {
    id := (record.integer? "id").getD 0
    name := (record.text? "name").getD ""
    query := (record.text? "query").getD ""
    filters := ← storedFilters record
    createdAt := (record.text? "created_at").getD "" }

def toJson (saved : SavedSearch) : Json :=
  .object [("id", .int saved.id.toInt), ("name", .string saved.name),
    ("query", .string saved.query), ("filters", saved.filters.toJson),
    ("created_at", .string saved.createdAt)]

end SavedSearch

namespace Engine

variable {σ : Type}

def recordSearch (engine : Engine σ) (query : String) (filters : FilterSet) (count : UInt64) :
    Session σ Unit := do
  discard <| engine.backend.execute
    (.recordSearch query filters.encode count.toInt64 engine.now.timestamp)

def history (engine : Engine σ) (limit : Option UInt64) : Session σ (List HistoryRecord) := do
  let records ← engine.backend.query (.recentSearches (limit.getD engine.config.historyLimit))
  ExceptT.mk (pure (records.mapM HistoryRecord.ofRecord))

def clearHistory (engine : Engine σ) (days : UInt32) : Session σ Nat :=
  engine.backend.execute (.clearHistory (engine.now.daysBefore days).timestamp)

def saveSearch (engine : Engine σ) (name query : String) (filters : FilterSet) :
    Session σ Int64 := do
  discard <| engine.backend.execute
    (.saveSearch name query filters.encode engine.now.timestamp)
  let records ← engine.backend.query (.savedSearchId name)
  match records.head?.bind fun record => record.integer? "id" with
  | some id => return id
  | none => throw (.savedSearchNotFound name)

def savedSearches (engine : Engine σ) : Session σ (List SavedSearch) := do
  let records ← engine.backend.query .savedSearches
  ExceptT.mk (pure (records.mapM SavedSearch.ofRecord))

def savedSearch (engine : Engine σ) (name : String) : Session σ SavedSearch := do
  match ← engine.backend.query (.savedSearch name) with
  | [] => throw (.savedSearchNotFound name)
  | record :: _ => ExceptT.mk (pure (SavedSearch.ofRecord record))

def deleteSavedSearch (engine : Engine σ) (id : Int64) : Session σ Bool := do
  return 0 < (← engine.backend.execute (.deleteSavedSearch id))

def rebuildIndexes (engine : Engine σ) : Session σ Unit := engine.backend.rebuild

end Engine

end ModelCatalog
