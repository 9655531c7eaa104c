import ModelCatalog.Filter.Condition
import ModelCatalog.Query.Parsed
import ModelCatalog.Sql.Select
import ModelCatalog.TextMatch.Compile

/-!
Search plans: what one ranked, filtered page of models consists of, and the two statements that ask
a store for it.
-/

namespace ModelCatalog

structure SearchPlan where
  /-- The match expression for the text indexes; empty for a search without text. -/
  expression : String
  filters : FilterSet
  limit : UInt64
  offset : UInt64
  now : Time.Instant
  deriving Repr

namespace SearchPlan

def hasText (plan : SearchPlan) : Bool := !plan.expression.isEmpty

def columns : List Sql.Column :=
  [.modelId, .modelFilename, .modelFormat, .modelFilePath, .modelFileSize, .modelDateAdded,
    .modelLastViewed, .metadataTitle, .metadataDescription, .metadataKeywords, .metadataCategory,
    .metadataSource, .metadataRating]

def rankName : String := "rank"

def rankSql (plan : SearchPlan) : String :=
  if plan.hasText then "COALESCE(model_hits.score, 0.0) + COALESCE(metadata_hits.score, 0.0)"
  else "0.0"

def hitsFragment (index : String) (expression : String) : Sql.Fragment :=
  ⟨"SELECT rowid, -bm25(" ++ index ++ ") AS score FROM " ++ index ++ " WHERE " ++ index
    ++ " MATCH ?", [.text expression]⟩

def metadataJoin : Sql.Join := ⟨.table .modelMetadata, .metadataModelId, .modelId⟩

def hitJoins (expression : String) : List Sql.Join :=
  [⟨.query (hitsFragment "models_fts" expression) "model_hits", .modelHitsRowid, .modelId⟩,
    ⟨.query (hitsFragment "metadata_fts" expression) "metadata_hits", .metadataHitsRowid, .modelId⟩]

def anyHit : Sql.Fragment :=
  .raw "model_hits.rowid IS NOT NULL OR metadata_hits.rowid IS NOT NULL"

def conditions (plan : SearchPlan) : List Condition := plan.filters.conditions plan.now

def clauses (plan : SearchPlan) : List Sql.Fragment :=
  (if plan.hasText then [anyHit] else []) ++ plan.conditions.map Condition.fragment

/-- Best rank first, then the one viewed last, then the one added first. -/
def select (plan : SearchPlan) : Sql.Select :=
  { table := .models
    items := columns.map (fun column => ⟨.column column, some column.name⟩)
      ++ [⟨.raw plan.rankSql, some rankName⟩]
    joins := metadataJoin :: (if plan.hasText then hitJoins plan.expression else [])
    filter? := Sql.Fragment.all? plan.clauses
    order := [⟨.alias rankName, true⟩, ⟨.column .modelLastViewed, true⟩, ⟨.column .modelId, false⟩]
    limit? := some plan.limit
    offset? := some plan.offset }

def count (plan : SearchPlan) : Sql.Fragment := plan.select.count

def page (plan : SearchPlan) : Sql.Fragment := plan.select.page

def ofQuery (query : ParsedQuery) (filters : FilterSet) (limit offset : UInt64)
    (now : Time.Instant) : SearchPlan :=
  ⟨TextMatch.compile query.freeText, filters.mergedWith query.filters, limit, offset, now⟩

end SearchPlan

end ModelCatalog
