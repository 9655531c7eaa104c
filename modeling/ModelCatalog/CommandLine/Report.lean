import ModelCatalog.Engine.Stored
import ModelCatalog.Output.Response
import ModelCatalog.Store.Report
import ModelCatalog.Store.Transfer

/-!
Reports of commands. A report can be told as a JSON response and as lines of text.
-/

namespace ModelCatalog

namespace Text

def alignRight (width : Nat) (text : String) : String :=
  String.ofList (List.replicate (width - text.length) ' ') ++ text

def alignLeft (width : Nat) (text : String) : String :=
  text ++ String.ofList (List.replicate (width - text.length) ' ')

end Text

structure Report where
  response : Response := {}
  lines : List String := []
  warnings : List String := []
  deriving Repr

namespace Report

def statsOf (count : Nat) : ResponseStats :=
  { totalCount := UInt64.ofNat count, returned := count }

def ofInit (storePath : String) : Report :=
  { lines := ["Initialized modelshelf store at " ++ storePath] }

def transferResponse (stats : TransferStats) (modelCount : Nat) : Response :=
  { stats := some { totalCount := UInt64.ofNat (stats.models + stats.savedSearches)
                    modelCount := some modelCount }
    diagnostics := some stats.toJson }

def ofImport (stats : TransferStats) (modelCount : Nat) : Report :=
  { response := transferResponse stats modelCount
    lines := ["Imported " ++ naturalText stats.models ++ " models and "
      ++ naturalText stats.savedSearches ++ " saved searches"] }

/-- An export to a file is told in JSON alone. -/
def ofExport (stats : TransferStats) : Report :=
  { response := transferResponse stats stats.models }

def rankText (rank : Float) : String :=
  String.ofList ((Decimal.fixed? 3 rank).getD (Decimal.plain rank))

def tableRow (id rank file title : String) : String :=
  Text.alignRight 6 id ++ " " ++ Text.alignRight 8 rank ++ "  " ++ Text.alignLeft 32 file ++ " "
    ++ title

def itemRow (item : SearchItem) : String :=
  tableRow (integerText item.id.toInt) (rankText item.rank) item.filePath item.shownTitle

def summaryLine (result : SearchResult) : String :=
  naturalText result.items.length ++ " of " ++ naturalText result.totalCount.toNat
    ++ " result(s), offset " ++ naturalText result.offset.toNat ++ ", "
    ++ naturalText result.elapsedMilliseconds ++ " ms"

def ofResult (result : SearchResult) (saved : Option String) : Report :=
  { response := Response.ofResult result saved
    lines := tableRow "id" "rank" "file" "title" :: result.items.map itemRow
      ++ [summaryLine result]
    warnings := result.warnings.map ("warning: " ++ ·) }

def ofSuggestions (suggestions : List String) : Report :=
  { response := { results := some (suggestions.map .string)
                  stats := some (statsOf suggestions.length) }
    lines := suggestions }

def ofSave (id : Int64) (name : String) : Report :=
  { response := { results := some [.object [("id", .int id.toInt), ("name", .string name)]] }
    lines := ["Saved search " ++ name ++ " (" ++ integerText id.toInt ++ ")"] }

def savedRow (saved : SavedSearch) : String :=
  Text.alignRight 4 (integerText saved.id.toInt) ++ "  " ++ Text.alignLeft 24 saved.name ++ " "
    ++ saved.query

def ofSaved (saved : List SavedSearch) : Report :=
  { response := { results := some (saved.map fun search => search.toJson.sorted)
                  stats := some (statsOf saved.length) }
    lines := saved.map savedRow }

def ofUnsave (id : Int64) (deleted : Bool) : Report :=
  let number := integerText id.toInt
  { response := { diagnostics := some (.object [("deleted", .bool deleted), ("id", .int id.toInt)])
                  actions := if deleted then ["deleted saved search " ++ number] else [] }
    lines := [(if deleted then "Deleted saved search " else "No saved search ") ++ number] }

def historyRow (entry : HistoryRecord) : String :=
  entry.createdAt ++ "  " ++ Text.alignRight 5 (naturalText entry.resultCount.toNat) ++ "  "
    ++ entry.query

def ofHistory (history : List HistoryRecord) : Report :=
  { response := { results := some (history.map fun entry => entry.toJson.sorted)
                  stats := some (statsOf history.length) }
    lines := history.map historyRow }

def ofClearedHistory (removed : Nat) : Report :=
  { response := { diagnostics := some (.object [("removed", .int removed)]) }
    lines := ["Removed " ++ naturalText removed ++ " history entries"] }

def ofReindex (report : ConsistencyReport) : Report :=
  { response := { diagnostics := some report.toJson }
    lines := ["Reindexed " ++ naturalText report.modelIndexCount ++ " models and "
      ++ naturalText report.metadataIndexCount ++ " metadata rows"] }

def ofView (target : String) : Report :=
  { response := { actions := ["viewed " ++ target] }
    lines := ["Marked " ++ target ++ " as viewed"] }

def sizeStats (stats : StoreStats) : ResponseStats :=
  { modelCount := some stats.modelCount, databaseBytes := some stats.databaseBytes }

def ofStats (config : Config) (storePath : String) (stats : StoreStats) : Report :=
  { response := { stats := some (sizeStats stats), diagnostics := some stats.toJson }
    lines := ["Store: " ++ storePath, "Models: " ++ naturalText stats.modelCount,
      "With metadata: " ++ naturalText stats.metadataCount,
      "Projects: " ++ naturalText stats.projectCount,
      "Saved searches: " ++ naturalText stats.savedSearchCount,
      "History entries: " ++ naturalText stats.historyCount,
      "DB size: " ++ naturalText stats.databaseBytes ++ " bytes",
      "Default limit: " ++ naturalText config.defaultLimit.toNat] }

def remedies (report : ConsistencyReport) : List String :=
  if report.modelsOk && report.metadataOk then []
  else ["run `modelshelf reindex` to rebuild text indexes"]

def ofDoctor (stats : StoreStats) (integrity : String) (report : ConsistencyReport) : Report :=
  { response := { stats := some (sizeStats stats)
                  diagnostics := some (.object [("consistency", report.toJson),
                    ("integrity", .string integrity)])
                  actions := remedies report }
    lines := ["Integrity: " ++ integrity,
      "Model index: " ++ naturalText report.modelIndexCount ++ "/" ++ naturalText report.modelCount,
      "Metadata index: " ++ naturalText report.metadataIndexCount ++ "/"
        ++ naturalText report.metadataCount]
      ++ (remedies report).map ("hint: " ++ ·) }

end Report

end ModelCatalog
