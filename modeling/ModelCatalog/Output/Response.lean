import ModelCatalog.Search.Result

/-!
The JSON envelope in which every command answers. Parts without content are not written.
-/

namespace ModelCatalog

structure ResponseStats where
  tookMilliseconds : Nat := 0
  totalCount : UInt64 := 0
  returned : Nat := 0
  modelCount : Option Nat := none
  databaseBytes : Option Nat := none
  deriving Repr

structure ResponseQuery where
  text : String
  freeText : String
  filters : FilterSet
  limit : UInt64
  offset : UInt64
  saved : Option String
  deriving Repr

structure ResponseError where
  code : String
  message : String
  hint : Option String
  deriving Repr

structure Response where
  ok : Bool := true
  query : Option ResponseQuery := none
  results : Option (List Json) := none
  stats : Option ResponseStats := none
  diagnostics : Option Json := none
  actions : List String := []
  warnings : List String := []
  nextOffset : Option UInt64 := none
  error : Option ResponseError := none
  deriving Repr

def natJson (n : Nat) : Json := .int n

def ResponseStats.toJson (stats : ResponseStats) : Json :=
  .object ([("took_ms", natJson stats.tookMilliseconds),
    ("total_count", natJson stats.totalCount.toNat), ("returned", natJson stats.returned)]
    ++ Json.member "model_count" natJson stats.modelCount
    ++ Json.member "db_size_bytes" natJson stats.databaseBytes)

def ResponseQuery.toJson (query : ResponseQuery) : Json :=
  .object ([("text", .string query.text), ("free_text", .string query.freeText),
    ("filters", query.filters.toJson), ("limit", natJson query.limit.toNat),
    ("offset", natJson query.offset.toNat)] ++ Json.member "saved" .string query.saved)

def ResponseError.toJson (error : ResponseError) : Json :=
  .object [("code", .string error.code), ("message", .string error.message),
    ("hint", Json.orNull .string error.hint)]

def textsMember (key : String) (texts : List String) : List (String × Json) :=
  if texts.isEmpty then [] else [(key, .strings texts)]

namespace Response

def version : String := "1"

def toJson (response : Response) : Json :=
  .object ([("ok", .bool response.ok), ("schema_version", .string version)]
    ++ Json.member "query" ResponseQuery.toJson response.query
    ++ Json.member "results" .list response.results
    ++ Json.member "stats" ResponseStats.toJson response.stats
    ++ Json.member "diagnostics" id response.diagnostics
    ++ textsMember "actions" response.actions
    ++ textsMember "warnings" response.warnings
    ++ Json.member "next_offset" (fun offset => natJson offset.toNat) response.nextOffset
    ++ Json.member "error" ResponseError.toJson response.error)

def failure (code message : String) (hint : Option String) : Response :=
  { ok := false, error := some ⟨code, message, hint⟩ }

def ofResult (result : SearchResult) (saved : Option String) : Response :=
  { query := some
      ⟨result.query, result.freeText, result.filters, result.limit, result.offset, saved⟩
    results := some (result.items.map SearchItem.toJson)
    stats := some { tookMilliseconds := result.elapsedMilliseconds
                    totalCount := result.totalCount
                    returned := result.items.length }
    warnings := result.warnings
    nextOffset := result.nextOffset }

end Response

end ModelCatalog
