import ModelCatalog.Filter.Basic
import ModelCatalog.Sql.Fragment
import ModelCatalog.Time.Instant

/-!
The conditions that filters impose on a model, and their SQL. Conditions come in a fixed order, so
equal filters give equal statements.
-/

namespace ModelCatalog

inductive Condition where
  /-- A keyword is the tag, both in canonical form and between commas. -/
  | tagged (needle : String)
  | untagged (needle : String)
  | inProject (member : Bool)
  /-- Never viewed, or not after the time stamp. -/
  | notViewedAfter (cutoff : String)
  | equals (column : Sql.Column) (value : String)
  | oneOf (column : Sql.Column) (values : List String)
  | atLeast (column : Sql.Column) (bound : Int64)
  | atMost (column : Sql.Column) (bound : Int64)
  | notBefore (column : Sql.Column) (bound : String)
  | notAfter (column : Sql.Column) (bound : String)
  deriving DecidableEq, Repr

namespace Condition

/-- The keywords in canonical form: lower case within ASCII, without blanks, tabs and line feeds,
and with a comma at both ends, so that `,tag,` cannot match across the ends of a tag. -/
def canonicalKeywordsSql : String :=
  "(',' || REPLACE(REPLACE(REPLACE(LOWER(COALESCE(model_metadata.keywords, '')), ' ', ''), "
    ++ "char(9), ''), char(10), '') || ',')"

def membershipSql : String :=
  "SELECT 1 FROM project_models WHERE project_models.model_id = models.id"

def fragment : Condition → Sql.Fragment
  | tagged needle =>
    ⟨"model_metadata.keywords IS NOT NULL AND instr(" ++ canonicalKeywordsSql ++ ", ?) > 0",
      [.text needle]⟩
  | untagged needle =>
    ⟨"(model_metadata.keywords IS NULL OR instr(" ++ canonicalKeywordsSql ++ ", ?) = 0)",
      [.text needle]⟩
  | inProject true => .raw ("EXISTS (" ++ membershipSql ++ ")")
  | inProject false => .raw ("NOT EXISTS (" ++ membershipSql ++ ")")
  | notViewedAfter cutoff =>
    ⟨"(models.last_viewed IS NULL OR models.last_viewed = '' OR "
        ++ "julianday(models.last_viewed) <= julianday(?))",
      [.text cutoff]⟩
  | equals column value => .compare (.column column) "=" (.text value)
  | oneOf column values =>
    ⟨column.sql ++ " IN (" ++ Sql.joined ", " (values.map fun _ => "?") ++ ")", values.map .text⟩
  | atLeast column bound => .compare (.column column) ">=" (.integer bound)
  | atMost column bound => .compare (.column column) "<=" (.integer bound)
  | notBefore column bound => ⟨"julianday(" ++ column.sql ++ ") >= julianday(?)", [.text bound]⟩
  | notAfter column bound => ⟨"julianday(" ++ column.sql ++ ") <= julianday(?)", [.text bound]⟩

def needle (tag : String) : String :=
  String.ofList (',' :: (Text.lower tag.toList).filter (fun c => !Text.isBlank c) ++ [','])

def ofChoice (column : Sql.Column) : Choice → List Condition
  | .one value => if value.isEmpty then [] else [equals column value]
  | .many values => if values.isEmpty then [] else [oneOf column values]

end Condition

namespace FilterSet

def conditions (filters : FilterSet) (now : Time.Instant) : List Condition :=
  filters.tagsInclude.map (fun tag => .tagged (Condition.needle tag))
    ++ filters.tagsExclude.map (fun tag => .untagged (Condition.needle tag))
    ++ filters.inProject.toList.map .inProject
    ++ filters.latDays.toList.map (fun days => .notViewedAfter (now.daysBefore days).timestamp)
    ++ filters.category.toList.flatMap (Condition.ofChoice .metadataCategory)
    ++ filters.format.toList.flatMap (Condition.ofChoice .modelFormat)
    ++ filters.minRating.toList.map (.atLeast .metadataRating)
    ++ filters.dateAddedStart.toList.map (.notBefore .modelDateAdded)
    ++ filters.dateAddedEnd.toList.map (.notAfter .modelDateAdded)
    ++ filters.lastViewedStart.toList.map (.notBefore .modelLastViewed)
    ++ filters.lastViewedEnd.toList.map (.notAfter .modelLastViewed)
    ++ filters.minFileSize.toList.map (.atLeast .modelFileSize)
    ++ filters.maxFileSize.toList.map (.atMost .modelFileSize)

end FilterSet

end ModelCatalog
