import ModelCatalog.Engine.Stored
import ModelCatalog.Search.Result

/-!
Searching. A search is a count and a page; where the store rejects the match expression, both are
asked for once more with a chain of quoted words in its place.
-/

namespace ModelCatalog

def occursIn (needle : List Char) : List Char → Bool
  | [] => needle.isEmpty
  | c :: rest => needle.isPrefixOf (c :: rest) || occursIn needle rest

namespace SearchError

/-- The store could not read the match expression. -/
def rejectsText : SearchError → Bool
  | storage message =>
    occursIn "fts5: syntax error".toList message.toList
      || occursIn "unterminated string".toList message.toList
  | _ => false

end SearchError

structure Found where
  totalCount : UInt64 := 0
  items : List SearchItem := []
  warnings : List String := []
  deriving Repr

namespace Engine

variable {σ : Type}

def runPlan (backend : Backend σ) (plan : SearchPlan) : Session σ Found := do
  let counted ← backend.query (.countFound plan)
  let total := (counted.head?.bind fun record => record.integer? "total").getD 0
  let records ← backend.query (.foundPage plan)
  return { totalCount := countOf total, items := records.map SearchItem.ofRecord }

def skippedWarning : String := "text query sanitized to empty; skipping text search"

def degradedWarning (expression : String) : String :=
  "text query rejected by the index; searched for " ++ expression ++ " instead"

def runDegraded (backend : Backend σ) (freeText : String) (plan : SearchPlan) :
    Session σ Found := do
  let expression := TextMatch.fallback freeText
  if expression.isEmpty then return { warnings := [skippedWarning] }
  else
    let found ← runPlan backend { plan with expression }
    return { found with warnings := found.warnings ++ [degradedWarning expression] }

/-- Runs a search, and degrades it once if the store rejects its text. -/
def runSearch (backend : Backend σ) (query : ParsedQuery) (plan : SearchPlan) :
    Session σ Found :=
  tryCatch (runPlan backend plan) fun error =>
    if error.rejectsText && !(trimmed query.freeText).isEmpty then
      runDegraded backend query.freeText plan
    else throw error

/-- Searches for the query and the caller's filters together. Without text and without filters
nothing is asked and nothing is remembered. -/
def search (engine : Engine σ) (query : String) (filters : Option FilterSet)
    (limit : Option UInt64) (offset : UInt64) : Session σ SearchResult := do
  let limit := engine.config.clampLimit limit
  let own := filters.getD {}
  let parsed := Query.parse query
  let merged := own.mergedWith parsed.filters
  if parsed.freeText.isEmpty && merged.isEmpty then
    return SearchResult.empty query merged limit offset
  else
    let plan := SearchPlan.ofQuery parsed own limit offset engine.now
    let found ← runSearch engine.backend parsed plan
    let highlighter := Highlighter.ofText parsed.freeText engine.config.highlightOpen
      engine.config.highlightClose
    let result : SearchResult :=
      { items := found.items.map (SearchItem.highlighted highlighter)
        totalCount := found.totalCount, query, freeText := parsed.freeText, filters := merged,
        elapsedMicroseconds := 0, limit, offset, warnings := found.warnings }
    if engine.config.recordHistory then
      tryCatch (engine.recordSearch query own found.totalCount) fun _ => pure ()
    return result

def runSaved (engine : Engine σ) (name : String) (limit : Option UInt64) (offset : UInt64) :
    Session σ SearchResult := do
  let saved ← engine.savedSearch name
  engine.search saved.query (some saved.filters) limit offset

end Engine

end ModelCatalog
