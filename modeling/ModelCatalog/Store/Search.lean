import ModelCatalog.Engine.Search
import ModelCatalog.Store.Basic
import ModelCatalog.TextIndex.Score
import ModelCatalog.TextMatch.Reader
import ModelCatalog.Time.JulianDay

/-!
How a store answers a search plan: the rows that meet the conditions and the expression, in order of
rank, and the page that the bounds cut out.
-/

namespace ModelCatalog

structure CatalogRow where
  model : ModelRow
  metadata : Option MetadataRow
  inProject : Bool
  deriving DecidableEq, Repr

namespace CatalogRow

def text? (row : CatalogRow) : Sql.Column → Option String
  | .modelFilename => some row.model.filename
  | .modelFormat => row.model.format
  | .modelFilePath => some row.model.filePath
  | .modelDateAdded => some row.model.dateAdded
  | .modelLastViewed => row.model.lastViewed
  | .metadataTitle => row.metadata.bind MetadataRow.title
  | .metadataDescription => row.metadata.bind MetadataRow.description
  | .metadataKeywords => row.metadata.bind MetadataRow.keywords
  | .metadataCategory => row.metadata.bind MetadataRow.category
  | .metadataSource => row.metadata.bind MetadataRow.source
  | _ => none

def integer? (row : CatalogRow) : Sql.Column → Option Int64
  | .modelId => some (Int64.ofNat row.model.id)
  | .modelFileSize => row.model.fileSize
  | .metadataModelId => row.metadata.map fun metadata => Int64.ofNat metadata.modelId
  | .metadataRating => row.metadata.bind MetadataRow.rating
  | _ => none

def time? (present : Time.Instant) (row : CatalogRow) (column : Sql.Column) : Option Int :=
  (row.text? column).bind (Time.JulianDay.milliseconds? present)

end CatalogRow

namespace Condition

def canonicalKeywords (keywords : String) : List Char :=
  let kept := (Text.asciiLower keywords.toList).filter fun c => c != ' ' && c != '\t' && c != '\n'
  ',' :: kept ++ [',']

def compareTimes (relation : Int → Int → Bool) (a b : Option Int) : Bool :=
  match a, b with
  | some a, some b => relation a b
  | _, _ => false

/-- The row meets the condition at the instant `present`. A comparison with an absent value
fails. -/
def holds (present : Time.Instant) (row : CatalogRow) : Condition → Bool
  | tagged needle =>
    (row.text? .metadataKeywords).any fun keywords =>
      occursIn needle.toList (canonicalKeywords keywords)
  | untagged needle =>
    (row.text? .metadataKeywords).all fun keywords =>
      !occursIn needle.toList (canonicalKeywords keywords)
  | inProject member => row.inProject == member
  | notViewedAfter cutoff =>
    match row.text? .modelLastViewed with
    | none => true
    | some viewed =>
      viewed == "" || compareTimes (· ≤ ·) (Time.JulianDay.milliseconds? present viewed)
        (Time.JulianDay.milliseconds? present cutoff)
  | equals column value => row.text? column == some value
  | oneOf column values => (row.text? column).any fun found => values.contains found
  | atLeast column bound => (row.integer? column).any fun found => bound ≤ found
  | atMost column bound => (row.integer? column).any fun found => found ≤ bound
  | notBefore column bound =>
    compareTimes (· ≥ ·) (row.time? present column) (Time.JulianDay.milliseconds? present bound)
  | notAfter column bound =>
    compareTimes (· ≤ ·) (row.time? present column) (Time.JulianDay.milliseconds? present bound)

end Condition

structure RankedRow where
  row : CatalogRow
  rank : Float
  deriving Repr

/-- The order of numbers, as an order of integers; both zeros are one. -/
def rankKey (rank : Float) : Int :=
  let bits := rank.toBits.toNat
  if bits < 1 <<< 63 then bits else -((bits - 1 <<< 63 : Nat) : Int)

def viewedLater (a b : Option String) : Bool :=
  match a, b with
  | some a, some b => decide (b < a)
  | some _, none => true
  | none, _ => false

namespace RankedRow

/-- The best rank first, then the one viewed last, then the one added first. -/
def precedes (a b : RankedRow) : Bool :=
  if rankKey a.rank ≠ rankKey b.rank then decide (rankKey b.rank < rankKey a.rank)
  else if a.row.model.lastViewed ≠ b.row.model.lastViewed then
    viewedLater a.row.model.lastViewed b.row.model.lastViewed
  else decide (a.row.model.id ≤ b.row.model.id)

end RankedRow

/-- The rows that the bounds of a page leave. The bounds are signed in a statement: a negative limit
is no limit, and a negative offset is none. -/
def window {α : Type} (limit offset : UInt64) (rows : List α) : List α :=
  let rest := rows.drop offset.toInt64.toInt.toNat
  if limit.toInt64 < 0 then rest else rest.take limit.toInt64.toInt.toNat

namespace Store

def rows (store : Store) : List CatalogRow :=
  store.models.map fun model => ⟨model, store.metadataOf? model.id, store.inProject model.id⟩

def candidates (store : Store) (present : Time.Instant) (plan : SearchPlan) : List CatalogRow :=
  store.rows.filter fun row => plan.conditions.all (Condition.holds present row)

structure Ranking where
  models : List (Nat × Float)
  metadata : List (Nat × Float)
  deriving Repr

def ranking (store : Store) (expression : TextMatch.Expression) : Ranking :=
  ⟨TextIndex.scores store.modelIndex.rows expression,
    TextIndex.scores store.metadataIndex.rows expression⟩

def Ranking.rank? (ranking : Ranking) (id : Nat) : Option Float :=
  match ranking.models.lookup id, ranking.metadata.lookup id with
  | none, none => none
  | inModels, inMetadata => some (inModels.getD 0 + inMetadata.getD 0)

/-- The rows that the plan finds. The expression is read only if some row meets the conditions. -/
def matching (store : Store) (present : Time.Instant) (plan : SearchPlan) :
    Except SearchError (List RankedRow) :=
  let candidates := store.candidates present plan
  if !plan.hasText then .ok (candidates.map fun row => ⟨row, 0⟩)
  else if candidates.isEmpty then .ok []
  else
    match TextMatch.parseExpression plan.expression with
    | .error error => .error (.storage error.message)
    | .ok expression =>
      let ranking := store.ranking expression
      .ok (candidates.filterMap fun row =>
        (ranking.rank? row.model.id).map fun rank => ⟨row, rank⟩)

def found (store : Store) (present : Time.Instant) (plan : SearchPlan) :
    Except SearchError (List RankedRow) :=
  (store.matching present plan).map fun rows => rows.mergeSort RankedRow.precedes

def page (store : Store) (present : Time.Instant) (plan : SearchPlan) :
    Except SearchError (List RankedRow) :=
  (store.found present plan).map (window plan.limit plan.offset)

end Store

end ModelCatalog
