import ModelCatalog.Json.Decode

/-!
Settings of the catalog: where the store is, how long pages are, and how hits are marked.
-/

namespace ModelCatalog

structure Config where
  storePath : String := "modelshelf.db"
  defaultLimit : UInt64 := 100
  maxLimit : UInt64 := 1000
  historyLimit : UInt64 := 50
  suggestionLimit : UInt64 := 10
  recordHistory : Bool := true
  highlightOpen : String := "<mark>"
  highlightClose : String := "</mark>"
  logLevel : String := "warn"
  deriving DecidableEq, Repr, Inhabited

namespace Config

def clampLimit (config : Config) (requested : Option UInt64) : UInt64 :=
  min (requested.getD config.defaultLimit) config.maxLimit

def fieldNames : List String :=
  ["store_path", "default_limit", "max_limit", "history_limit", "suggestion_limit",
    "record_history", "highlight_open", "highlight_close", "log_level"]

def ofMembers? (members : List (String × Json)) : Option Config := do
  let config : Config := {}
  return {
    storePath := ← Json.defaulted? Json.toString? config.storePath "store_path" members
    defaultLimit := ← Json.defaulted? Json.toUInt64? config.defaultLimit "default_limit" members
    maxLimit := ← Json.defaulted? Json.toUInt64? config.maxLimit "max_limit" members
    historyLimit := ← Json.defaulted? Json.toUInt64? config.historyLimit "history_limit" members
    suggestionLimit :=
      ← Json.defaulted? Json.toUInt64? config.suggestionLimit "suggestion_limit" members
    recordHistory := ← Json.defaulted? Json.toBool? config.recordHistory "record_history" members
    highlightOpen := ← Json.defaulted? Json.toString? config.highlightOpen "highlight_open" members
    highlightClose :=
      ← Json.defaulted? Json.toString? config.highlightClose "highlight_close" members
    logLevel := ← Json.defaulted? Json.toString? config.logLevel "log_level" members }

def ofJson? (value : Json) : Option Config := do
  ofMembers? (← Json.fieldsOf? fieldNames value)

/-- A greatest page length of zero means the default one; the default length never exceeds it. -/
def normalized (config : Config) : Config :=
  let maxLimit := if config.maxLimit = 0 then ({} : Config).maxLimit else config.maxLimit
  { config with maxLimit, defaultLimit := min config.defaultLimit maxLimit }

end Config

end ModelCatalog
