import ModelCatalog.Search.Limits
import ModelCatalog.Store.Search
import ModelCatalog.Text.Pattern

/-!
A store as a backend of the engine: the answer to every question and the effect of every change.
-/

namespace ModelCatalog

namespace RankedRow

def value (row : CatalogRow) (column : Sql.Column) : Sql.Value :=
  match row.text? column with
  | some text => .text text
  | none => .ofInteger? (row.integer? column)

def record (ranked : RankedRow) : Sql.Record :=
  .ofFields (SearchPlan.columns.map (fun column => (column.name, value ranked.row column))
    ++ [(SearchPlan.rankName, .real ranked.rank)])

end RankedRow

def HistoryRow.record (row : HistoryRow) : Sql.Record :=
  .ofFields [("id", .integer (Int64.ofNat row.id)), ("query", .text row.query),
    ("filters", .text row.filters), ("result_count", .integer row.resultCount),
    ("created_at", .text row.createdAt)]

def SavedRow.record (row : SavedRow) : Sql.Record :=
  .ofFields [("id", .integer (Int64.ofNat row.id)), ("name", .text row.name),
    ("query", .text row.query), ("filters", .text row.filters), ("created_at", .text row.createdAt)]

/-- The newest first; of two of one time, the one added later. -/
def HistoryRow.precedes (a b : HistoryRow) : Bool :=
  if a.createdAt ≠ b.createdAt then decide (b.createdAt < a.createdAt) else decide (b.id ≤ a.id)

def greatestPattern : Nat := 50000

/-- The texts of a column that fit a pattern. A pattern that is too long is only noticed if there is a
row to be tested. -/
def likeRecords (column pattern : String) (texts : List (Option String)) :
    Except SearchError (List Sql.Record) :=
  if !texts.isEmpty && greatestPattern < pattern.utf8ByteSize then
    .error (.storage "LIKE or GLOB pattern too complex")
  else
    let fitting := (texts.filterMap id).filter fun text =>
      Text.fitsPattern pattern.toList text.toList
    .ok (fitting.eraseDups.map fun text => .ofFields [(column, .text text)])

namespace Store

def savedRecords (store : Store) : List Sql.Record :=
  (store.saved.mergeSort fun a b => decide (a.name ≤ b.name)).map SavedRow.record

def answer (store : Store) (present : Time.Instant) :
    Question → Except SearchError (List Sql.Record)
  | .countFound plan =>
    if plan.isTooDeep then .error (.storage "parser stack overflow")
    else if plan.count.bindsTooMany then .error plan.count.tooManyParams
    else do
      let rows ← store.matching present plan
      return [.ofFields [("total", .integer (Int64.ofNat rows.length))]]
  | .foundPage plan =>
    if plan.page.bindsTooMany then .error plan.page.tooManyParams
    else return (← store.page present plan).map RankedRow.record
  | .recentSearches limit =>
    .ok ((window limit 0 (store.history.mergeSort HistoryRow.precedes)).map HistoryRow.record)
  | .savedSearches => .ok store.savedRecords
  | .savedSearch name => .ok ((store.saved.filter fun row => row.name == name).map SavedRow.record)
  | .savedSearchId name =>
    .ok ((store.saved.filter fun row => row.name == name).map fun row =>
      .ofFields [("id", .integer (Int64.ofNat row.id))])
  | .filenamesLike pattern =>
    likeRecords "filename" pattern (store.models.map fun row => some row.filename)
  | .titlesLike pattern => likeRecords "title" pattern (store.metadata.map MetadataRow.title)
  | .keywordsLike pattern =>
    likeRecords "keywords" pattern (store.metadata.map MetadataRow.keywords)

def isBefore (present : Time.Instant) (cutoff : String) (row : HistoryRow) : Bool :=
  Condition.compareTimes (· < ·) (Time.JulianDay.milliseconds? present row.createdAt)
    (Time.JulianDay.milliseconds? present cutoff)

def putSaved (store : Store) (name query filters createdAt : String) : Store :=
  if store.saved.any fun row => row.name == name then
    { store with saved := store.saved.map fun row =>
        if row.name = name then { row with query, filters, createdAt } else row }
  else
    let id := nextId (store.saved.map SavedRow.id)
    { store with saved := store.saved ++ [⟨id, name, query, filters, createdAt⟩] }

def change (store : Store) (present : Time.Instant) : Change → Nat × Store
  | .recordSearch query filters resultCount createdAt =>
    let row : HistoryRow := ⟨store.nextHistoryId, query, filters, resultCount, createdAt⟩
    (1, { store with history := store.history ++ [row], nextHistoryId := store.nextHistoryId + 1 })
  | .clearHistory cutoff =>
    let kept := store.history.filter fun row => !isBefore present cutoff row
    (store.history.length - kept.length, { store with history := kept })
  | .saveSearch name query filters createdAt => (1, store.putSaved name query filters createdAt)
  | .deleteSavedSearch id =>
    let kept := store.saved.filter fun row => (row.id : Int) != id.toInt
    (store.saved.length - kept.length, { store with saved := kept })

/-- The store at the instant `present`. Questions leave it as it is, and changes never fail. -/
def backend (present : Time.Instant) : Backend Store where
  query question := fun store => (store.answer present question, store)
  execute statement := fun store =>
    let (count, store) := store.change present statement
    (.ok count, store)
  rebuild := fun store => (.ok (), store.rebuildIndexes)

def readOnlyBackend (present : Time.Instant) : Backend Store where
  query question := fun store => (store.answer present question, store)
  execute _ := throw (.storage "attempt to write a readonly database")
  rebuild := throw (.storage "attempt to write a readonly database")

end Store

end ModelCatalog
