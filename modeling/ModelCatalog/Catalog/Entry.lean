import ModelCatalog.Json.Decode

/-!
Catalog entries: one model with its metadata and projects, as it is imported and exported.
-/

namespace ModelCatalog

structure CatalogEntry where
  filename : String
  format : Option String := none
  filePath : String
  fileSize : Option Int64 := none
  dateAdded : Option String := none
  lastViewed : Option String := none
  title : Option String := none
  description : Option String := none
  keywords : Option String := none
  category : Option String := none
  source : Option String := none
  rating : Option Int64 := none
  projects : List String := []
  deriving DecidableEq, Repr

namespace CatalogEntry

def hasMetadata (entry : CatalogEntry) : Bool :=
  entry.title.isSome || entry.description.isSome || entry.keywords.isSome
    || entry.category.isSome || entry.source.isSome || entry.rating.isSome

def fieldNames : List String :=
  ["filename", "format", "path", "size", "date_added", "last_viewed", "title", "description",
    "keywords", "category", "source", "rating", "projects"]

def toMembers (entry : CatalogEntry) : List (String × Json) :=
  let text := Json.orNull Json.string
  let number := Json.orNull fun n : Int64 => Json.int n.toInt
  [("filename", .string entry.filename), ("format", text entry.format),
    ("path", .string entry.filePath), ("size", number entry.fileSize),
    ("date_added", text entry.dateAdded), ("last_viewed", text entry.lastViewed),
    ("title", text entry.title), ("description", text entry.description),
    ("keywords", text entry.keywords), ("category", text entry.category),
    ("source", text entry.source), ("rating", number entry.rating),
    ("projects", .strings entry.projects)]

def toJson (entry : CatalogEntry) : Json := .object entry.toMembers

def ofMembers? (members : List (String × Json)) : Option CatalogEntry := do
  return {
    filename := ← Json.required? Json.toString? "filename" members
    format := ← Json.optional? Json.toString? "format" members
    filePath := ← Json.required? Json.toString? "path" members
    fileSize := ← Json.optional? Json.toInt64? "size" members
    dateAdded := ← Json.optional? Json.toString? "date_added" members
    lastViewed := ← Json.optional? Json.toString? "last_viewed" members
    title := ← Json.optional? Json.toString? "title" members
    description := ← Json.optional? Json.toString? "description" members
    keywords := ← Json.optional? Json.toString? "keywords" members
    category := ← Json.optional? Json.toString? "category" members
    source := ← Json.optional? Json.toString? "source" members
    rating := ← Json.optional? Json.toInt64? "rating" members
    projects := ← Json.defaulted? Json.toStrings? [] "projects" members }

def ofJson? (value : Json) : Option CatalogEntry := do
  ofMembers? (← Json.fieldsOf? fieldNames value)

def decode (text : String) : Option CatalogEntry := do
  ofMembers? (← Json.readFields fieldNames text)

end CatalogEntry

end ModelCatalog
