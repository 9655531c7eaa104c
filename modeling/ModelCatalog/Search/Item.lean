import ModelCatalog.Highlight
import ModelCatalog.Json.Value
import ModelCatalog.Sql.Record

/-!
One found model, read from the record of a page.
-/

namespace ModelCatalog

structure SearchItem where
  id : Int64
  filename : String
  format : Option String
  filePath : String
  fileSize : Option Int64
  dateAdded : Option String
  lastViewed : Option String
  title : Option String
  description : Option String
  keywords : Option String
  category : Option String
  source : Option String
  rating : Option Int64
  rank : Float
  /-- The marked texts of the fields, in the order of the fields' names. -/
  highlights : List (String × String)
  deriving Repr

namespace SearchItem

/-- A missing number is zero and a missing name is empty. -/
def ofRecord (record : Sql.Record) : SearchItem :=
  { id := (record.integer? "id").getD 0
    filename := (record.text? "filename").getD ""
    format := record.text? "format"
    filePath := (record.text? "file_path").getD ""
    fileSize := record.integer? "file_size"
    dateAdded := record.text? "date_added"
    lastViewed := record.text? "last_viewed"
    title := record.text? "title"
    description := record.text? "description"
    keywords := record.text? "keywords"
    category := record.text? "category"
    source := record.text? "source"
    rating := record.integer? "rating"
    rank := (record.real? "rank").getD 0
    highlights := [] }

def markedFields (item : SearchItem) : List (String × String) :=
  let fields := [("description", item.description), ("filename", some item.filename),
    ("keywords", item.keywords), ("title", item.title)]
  fields.filterMap fun (name, text?) => do
    let text ← text?
    if text.isEmpty then none else some (name, text)

def highlightsOf (highlighter : Highlighter) (item : SearchItem) : List (String × String) :=
  if highlighter.isEmpty then []
  else item.markedFields.map fun (name, text) => (name, highlighter.mark text)

def highlighted (highlighter : Highlighter) (item : SearchItem) : SearchItem :=
  { item with highlights := item.highlightsOf highlighter }

def shownTitle (item : SearchItem) : String :=
  ((item.highlights.lookup "title").or item.title).getD "-"

def toJson (item : SearchItem) : Json :=
  let text := Json.orNull Json.string
  let number := Json.orNull fun n : Int64 => Json.int n.toInt
  .object [("category", text item.category), ("date_added", text item.dateAdded),
    ("description", text item.description), ("file_path", .string item.filePath),
    ("file_size", number item.fileSize), ("filename", .string item.filename),
    ("format", text item.format),
    ("highlights", .object (item.highlights.map fun (name, marked) => (name, .string marked))),
    ("id", .int item.id.toInt), ("keywords", text item.keywords),
    ("last_viewed", text item.lastViewed), ("rank", .real item.rank),
    ("rating", number item.rating), ("source", text item.source), ("title", text item.title)]

end SearchItem

end ModelCatalog
