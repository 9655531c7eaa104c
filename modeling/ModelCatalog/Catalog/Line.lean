import ModelCatalog.Catalog.Entry
import ModelCatalog.Filter.Codec

/-!
The lines of an exported catalog: JSON objects whose member `type` tells a model from a saved
search.
-/

namespace ModelCatalog

inductive CatalogLine where
  | model (entry : CatalogEntry)
  | savedSearch (name query : String) (filters : FilterSet)
  deriving DecidableEq, Repr

namespace CatalogLine

def typeName : String := "type"

def modelType : String := "model"

def savedSearchType : String := "saved_search"

def toJson : CatalogLine → Json
  | model entry => .object ((typeName, .string modelType) :: entry.toMembers)
  | savedSearch name query filters =>
    .object [(typeName, .string savedSearchType), ("name", .string name), ("query", .string query),
      ("filters", filters.toJson)]

def savedFieldNames : List String := ["name", "query", "filters"]

def ofMembers? (type : String) (members : List (String × Json)) : Option CatalogLine :=
  if type = modelType then (CatalogEntry.ofMembers? members).map model
  else if type = savedSearchType then do
    return savedSearch (← Json.required? Json.toString? "name" members)
      (← Json.required? Json.toString? "query" members)
      (← Json.defaulted? FilterSet.ofJson? {} "filters" members)
  else none

def namesOf (type : String) : List String :=
  if type = modelType then CatalogEntry.fieldNames else savedFieldNames

/-- An object with one member `type`, or the sequence of the type and the values. -/
def ofJson? : Json → Option CatalogLine
  | .object members => do
    let type ← Json.required? Json.toString? typeName members
    ofMembers? type (members.filter fun member => member.1 != typeName)
  | .list (.string type :: items) => do
    ofMembers? type (← Json.named? (namesOf type) items)
  | _ => none

def greatestDepth : Nat := 127

def decode (text : String) : Option CatalogLine := do
  let value ← Json.read text
  if value.depth ≤ greatestDepth then ofJson? value else none

end CatalogLine

end ModelCatalog
