/-!
SQL text together with the values of its placeholders. The combinators keep the two aligned.
-/

namespace ModelCatalog.Sql

inductive Value where
  | null
  | integer (value : Int64)
  | real (value : Float)
  | text (value : String)
  | blob (bytes : List UInt8)
  deriving Repr, Inhabited

inductive Table where
  | models
  | modelMetadata
  deriving DecidableEq, Repr

def Table.name : Table → String
  | .models => "models"
  | .modelMetadata => "model_metadata"

inductive Column where
  | modelId
  | modelFilename
  | modelFormat
  | modelFilePath
  | modelFileSize
  | modelDateAdded
  | modelLastViewed
  | metadataModelId
  | metadataTitle
  | metadataDescription
  | metadataKeywords
  | metadataCategory
  | metadataSource
  | metadataRating
  | modelHitsRowid
  | metadataHitsRowid
  deriving DecidableEq, Repr

namespace Column

def owner : Column → String
  | modelId | modelFilename | modelFormat | modelFilePath | modelFileSize | modelDateAdded
  | modelLastViewed => Table.models.name
  | metadataModelId | metadataTitle | metadataDescription | metadataKeywords | metadataCategory
  | metadataSource | metadataRating => Table.modelMetadata.name
  | modelHitsRowid => "model_hits"
  | metadataHitsRowid => "metadata_hits"

def name : Column → String
  | modelId => "id"
  | modelFilename => "filename"
  | modelFormat => "format"
  | modelFilePath => "file_path"
  | modelFileSize => "file_size"
  | modelDateAdded => "date_added"
  | modelLastViewed => "last_viewed"
  | metadataModelId => "model_id"
  | metadataTitle => "title"
  | metadataDescription => "description"
  | metadataKeywords => "keywords"
  | metadataCategory => "category"
  | metadataSource => "source"
  | metadataRating => "rating"
  | modelHitsRowid => "rowid"
  | metadataHitsRowid => "rowid"

def sql (column : Column) : String := column.owner ++ "." ++ column.name

end Column

inductive Expr where
  | column (column : Column)
  | raw (sql : String)
  | alias (name : String)
  deriving DecidableEq, Repr

def Expr.sql : Expr → String
  | .column source => source.sql
  | .raw sql => sql
  | .alias name => name

def joined (separator : String) : List String → String
  | [] => ""
  | [text] => text
  | text :: rest => text ++ separator ++ joined separator rest

/-- A piece of SQL with one value for each `?`, from left to right. -/
structure Fragment where
  sql : String
  params : List Value
  deriving Repr, Inhabited

namespace Fragment

def raw (sql : String) : Fragment := ⟨sql, []⟩

def compare (expr : Expr) (operator : String) (value : Value) : Fragment :=
  ⟨expr.sql ++ " " ++ operator ++ " ?", [value]⟩

def oneOf? (expr : Expr) (values : List Value) : Option Fragment :=
  if values.isEmpty then none
  else some ⟨expr.sql ++ " IN (" ++ joined ", " (values.map fun _ => "?") ++ ")", values⟩

def and (a b : Fragment) : Fragment :=
  ⟨"(" ++ a.sql ++ ") AND (" ++ b.sql ++ ")", a.params ++ b.params⟩

def all? : List Fragment → Option Fragment
  | [] => none
  | first :: rest => some (rest.foldl and first)

end Fragment

end ModelCatalog.Sql
