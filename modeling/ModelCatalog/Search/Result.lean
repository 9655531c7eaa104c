import ModelCatalog.Filter.Codec
import ModelCatalog.Search.Item

/-!
The result of one search: a page of models, and what was searched for.
-/

namespace ModelCatalog

structure SearchResult where
  items : List SearchItem
  totalCount : UInt64
  query : String
  freeText : String
  filters : FilterSet
  elapsedMicroseconds : Nat
  limit : UInt64
  offset : UInt64
  warnings : List String
  deriving Repr

namespace SearchResult

def empty (query : String) (filters : FilterSet) (limit offset : UInt64) : SearchResult :=
  { items := [], totalCount := 0, query, freeText := "", filters, elapsedMicroseconds := 0,
    limit, offset, warnings := [] }

def elapsedMilliseconds (result : SearchResult) : Nat := result.elapsedMicroseconds / 1000

/-- Where the next page begins, if models remain after a page that is not empty. -/
def nextOffset (result : SearchResult) : Option UInt64 :=
  let next := result.offset + UInt64.ofNat result.items.length
  if !result.items.isEmpty && next < result.totalCount then some next else none

def toJson (result : SearchResult) : Json :=
  .object [("results", .list (result.items.map SearchItem.toJson)),
    ("total_count", .int result.totalCount.toNat), ("query", .string result.query),
    ("free_text", .string result.freeText), ("filters", result.filters.toJson),
    ("execution_time_ms", .int result.elapsedMilliseconds), ("limit", .int result.limit.toNat),
    ("offset", .int result.offset.toNat), ("warnings", .strings result.warnings)]

end SearchResult

end ModelCatalog
