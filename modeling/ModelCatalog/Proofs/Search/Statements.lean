import ModelCatalog.Proofs.Sql.Alignment
import ModelCatalog.Search.Plan

/-!
The statements of a search. Every value of a plan stands in the place it is meant for, and nothing of
the values shows in the SQL: plans of one shape have the same SQL.
-/

namespace ModelCatalog

open Sql (Fragment)

namespace Condition

def filled (write : Sql.Value → String) : Condition → String
  | tagged needle =>
    "model_metadata.keywords IS NOT NULL AND instr(" ++ canonicalKeywordsSql ++ ", "
      ++ write (.text needle) ++ ") > 0"
  | untagged needle =>
    "(model_metadata.keywords IS NULL OR instr(" ++ canonicalKeywordsSql ++ ", "
      ++ write (.text needle) ++ ") = 0)"
  | inProject member => (if member then "EXISTS (" else "NOT EXISTS (") ++ membershipSql ++ ")"
  | notViewedAfter cutoff =>
    "(models.last_viewed IS NULL OR models.last_viewed = '' OR "
      ++ "julianday(models.last_viewed) <= julianday(" ++ write (.text cutoff) ++ "))"
  | equals column value => column.sql ++ " = " ++ write (.text value)
  | oneOf column values =>
    column.sql ++ " IN (" ++ Sql.joined ", " (values.map fun value => write (.text value)) ++ ")"
  | atLeast column bound => column.sql ++ " >= " ++ write (.integer bound)
  | atMost column bound => column.sql ++ " <= " ++ write (.integer bound)
  | notBefore column bound =>
    "julianday(" ++ column.sql ++ ") >= julianday(" ++ write (.text bound) ++ ")"
  | notAfter column bound =>
    "julianday(" ++ column.sql ++ ") <= julianday(" ++ write (.text bound) ++ ")"

variable (write : Sql.Value → String)

theorem isPlain_canonicalKeywordsSql : Sql.IsPlain canonicalKeywordsSql :=
  Sql.isPlain_append.mpr ⟨Sql.isPlain_ofList (by decide), Sql.isPlain_ofList (by decide)⟩

theorem isPlain_membershipSql : Sql.IsPlain membershipSql := Sql.isPlain_ofList (by decide)

theorem reads_comparison (column : Sql.Column) {operator shown : String} (value : Sql.Value)
    (spaced : shown = " " ++ operator ++ " ") (plain : Sql.IsPlain operator) :
    Fragment.Reads write (.compare (.column column) operator value)
      (column.sql ++ shown ++ write value) := by
  have texts : Fragment.Reads write (.compare (.column column) operator value) _ :=
    Fragment.reads_compare column.isPlain_sql plain
  rw [spaced, ← String.append_assoc, ← String.append_assoc]
  exact texts

theorem reads_tag {before after sql : String} {needle : String}
    (split : sql = before ++ canonicalKeywordsSql ++ ", " ++ "?" ++ after)
    (plainBefore : Sql.IsPlain before) (plainAfter : Sql.IsPlain after) :
    Fragment.Reads write ⟨sql, [.text needle]⟩
      (before ++ canonicalKeywordsSql ++ ", " ++ write (.text needle) ++ after) := by
  apply Fragment.reads_around split _ plainAfter
  simp only [Sql.isPlain_append]
  exact ⟨⟨plainBefore, isPlain_canonicalKeywordsSql⟩, by decide⟩

theorem reads_date (column : Sql.Column) {between sql : String} {bound : String}
    (split : sql = "julianday(" ++ column.sql ++ between ++ "?" ++ ")")
    (plain : Sql.IsPlain between) :
    Fragment.Reads write ⟨sql, [.text bound]⟩
      ("julianday(" ++ column.sql ++ between ++ write (.text bound) ++ ")") := by
  apply Fragment.reads_around split _ (by decide)
  simp only [Sql.isPlain_append]
  exact ⟨⟨Sql.isPlain_ofList (by decide), column.isPlain_sql⟩, plain⟩

theorem reads (condition : Condition) :
    condition.fragment.Reads write (condition.filled write) := by
  cases condition with
  | tagged needle =>
    apply reads_tag write _ (Sql.isPlain_ofList (by decide)) (Sql.isPlain_ofList (by decide))
    simp [String.append_assoc]
  | untagged needle =>
    apply reads_tag write _ (Sql.isPlain_ofList (by decide)) (Sql.isPlain_ofList (by decide))
    simp [String.append_assoc]
  | inProject member =>
    cases member with
    | false =>
      exact ((Fragment.reads_text (by decide)).append (Fragment.reads_raw isPlain_membershipSql)).append
        (Fragment.reads_text (by decide))
    | true =>
      exact ((Fragment.reads_text (by decide)).append (Fragment.reads_raw isPlain_membershipSql)).append
        (Fragment.reads_text (by decide))
  | notViewedAfter cutoff =>
    apply Fragment.reads_around _ _ (Sql.isPlain_ofList (by decide))
    · simp
    · exact Sql.isPlain_append.mpr
        ⟨Sql.isPlain_ofList (by decide), Sql.isPlain_ofList (by decide)⟩
  | equals column value => exact reads_comparison write column _ rfl (by decide)
  | oneOf column values =>
    have texts := @Fragment.reads_oneOf write (.column column) column.isPlain_sql
      (values.map .text)
    rw [List.map_map, List.map_map] at texts
    exact texts
  | atLeast column bound => exact reads_comparison write column _ rfl (by decide)
  | atMost column bound => exact reads_comparison write column _ rfl (by decide)
  | notBefore column bound =>
    apply reads_date write column _ (Sql.isPlain_ofList (by decide))
    simp [String.append_assoc]
  | notAfter column bound =>
    apply reads_date write column _ (Sql.isPlain_ofList (by decide))
    simp [String.append_assoc]

end Condition

namespace SearchPlan

def matchFilled (write : Sql.Value → String) (index expression : String) : String :=
  "SELECT rowid, -bm25(" ++ index ++ ") AS score FROM " ++ index ++ " WHERE " ++ index
    ++ " MATCH " ++ write (.text expression)

def hitsFilled (write : Sql.Value → String) (index hits : String) (rowid : Sql.Column)
    (expression : String) : String :=
  " " ++ Sql.joinText ("(" ++ matchFilled write index expression ++ ") AS " ++ hits) rowid .modelId

def clauseTexts (write : Sql.Value → String) (plan : SearchPlan) : List String :=
  (if plan.hasText then [anyHit.sql] else []) ++ plan.conditions.map (Condition.filled write)

def whereFilled : List String → String
  | [] => ""
  | first :: rest => " WHERE " ++ Fragment.conjoined first rest

/-- The rows that the plan selects, with the expression and the values of the conditions written
where they belong. -/
def rowsFilled (write : Sql.Value → String) (plan : SearchPlan) : String :=
  "SELECT " ++ Sql.Select.itemsSql plan.select.items ++ " FROM " ++ Sql.Table.models.name
    ++ (" " ++ Sql.joinText Sql.Table.modelMetadata.name .metadataModelId .modelId
      ++ if plan.hasText then
          hitsFilled write "models_fts" "model_hits" .modelHitsRowid plan.expression
            ++ hitsFilled write "metadata_fts" "metadata_hits" .metadataHitsRowid plan.expression
        else "")
    ++ whereFilled (plan.clauseTexts write)

def orderText : String := " ORDER BY rank DESC, models.last_viewed DESC, models.id ASC"

def pageFilled (write : Sql.Value → String) (plan : SearchPlan) : String :=
  plan.rowsFilled write ++ orderText ++ " LIMIT " ++ write (.integer plan.limit.toInt64)
    ++ " OFFSET " ++ write (.integer plan.offset.toInt64)

def countFilled (write : Sql.Value → String) (plan : SearchPlan) : String :=
  "SELECT COUNT(*) AS total FROM (" ++ plan.rowsFilled write ++ ")"

section Reading

variable (write : Sql.Value → String) (plan : SearchPlan)

theorem reads_anyHit : anyHit.Reads write anyHit.sql :=
  Fragment.reads_raw (Sql.isPlain_ofList (by decide))

theorem reads_clauses :
    List.Forall₂ (Fragment.Reads write) plan.clauses (plan.clauseTexts write) := by
  have conditions : List.Forall₂ (Fragment.Reads write)
      (plan.conditions.map Condition.fragment) (plan.conditions.map (Condition.filled write)) := by
    rw [List.forall₂_map_left_iff, List.forall₂_map_right_iff, List.forall₂_same]
    exact fun condition _ => condition.reads write
  have hits : List.Forall₂ (Fragment.Reads write) (if plan.hasText then [anyHit] else [])
      (if plan.hasText then [anyHit.sql] else []) := by
    split
    · exact .cons (reads_anyHit write) .nil
    · exact .nil
  exact List.rel_append hits conditions

theorem filterFilled_eq :
    Sql.Select.filterFilled write plan.select.filter? = whereFilled (plan.clauseTexts write) := by
  have reads := plan.reads_clauses write
  change Sql.Select.filterFilled write (Fragment.all? plan.clauses) = _
  cases joined : Fragment.all? plan.clauses with
  | none =>
    have none : plan.clauses = [] := by
      cases clauses : plan.clauses with
      | nil => rfl
      | cons first rest =>
        rw [clauses] at joined
        cases joined
    rw [none, List.forall₂_nil_left_iff] at reads
    rw [reads]
    rfl
  | some whole =>
    obtain ⟨first, rest, texts, readsWhole⟩ := Fragment.reads_all reads joined
    rw [texts, whereFilled, Sql.Select.filterFilled, readsWhole.filled_eq]

theorem reads_hits {index : String} (plain : Sql.IsPlain index) (expression : String) :
    (hitsFragment index expression).Reads write
      (matchFilled write index expression) := by
  apply Fragment.reads_before
  · simp [String.append_assoc]
  · simp only [Sql.isPlain_append]
    exact ⟨⟨⟨⟨⟨⟨Sql.isPlain_ofList (by decide), plain⟩, Sql.isPlain_ofList (by decide)⟩, plain⟩,
      Sql.isPlain_ofList (by decide)⟩, plain⟩, Sql.isPlain_ofList (by decide)⟩

theorem select_isAligned : plan.select.IsAligned where
  items := by
    intro item member
    rcases List.mem_append.mp member with named | rank
    · obtain ⟨column, _, rfl⟩ := List.mem_map.mp named
      simp only [Sql.Selected.sql, Sql.isPlain_append]
      exact ⟨⟨column.isPlain_sql, Sql.isPlain_ofList (by decide)⟩, column.isPlain_name⟩
    · obtain rfl := List.mem_singleton.mp rank
      simp only [Sql.Selected.sql, Sql.isPlain_append]
      refine ⟨⟨?_, Sql.isPlain_ofList (by decide)⟩, Sql.isPlain_ofList (by decide)⟩
      rw [Sql.Expr.sql, rankSql]
      split <;> exact Sql.isPlain_ofList (by decide)
  joins := by
    intro join member
    rcases List.mem_cons.mp member with rfl | hits
    · trivial
    · split at hits
      · simp only [hitJoins, List.mem_cons, List.not_mem_nil, or_false] at hits
        rcases hits with rfl | rfl
        · exact ⟨(reads_hits (fun _ => "") (Sql.isPlain_ofList (by decide)) _).aligned,
            Sql.isPlain_ofList (by decide)⟩
        · exact ⟨(reads_hits (fun _ => "") (Sql.isPlain_ofList (by decide)) _).aligned,
            Sql.isPlain_ofList (by decide)⟩
      · cases hits
  filter := by
    intro whole joined
    obtain ⟨_, _, _, reads⟩ := Fragment.reads_all (plan.reads_clauses fun _ => "") joined
    exact reads.aligned
  order := by
    intro key member
    simp only [select, List.mem_cons, List.not_mem_nil, or_false] at member
    rcases member with rfl | rfl | rfl
    · exact Sql.isPlain_ofList (by decide)
    · exact Sql.Column.isPlain_sql _
    · exact Sql.Column.isPlain_sql _

theorem hitsJoin_filled {index : String} (plain : Sql.IsPlain index) (hits expression : String)
    (rowid : Sql.Column) :
    " " ++ Sql.Join.filled write ⟨.query (hitsFragment index expression) hits, rowid, .modelId⟩ =
      hitsFilled write index hits rowid expression := by
  rw [Sql.Join.filled, Sql.JoinSource.filled, (reads_hits write plain expression).filled_eq]
  rfl

theorem joinsFilled_eq :
    String.join (plan.select.joins.map fun join => " " ++ join.filled write) =
      " " ++ Sql.joinText Sql.Table.modelMetadata.name .metadataModelId .modelId
        ++ if plan.hasText then
            hitsFilled write "models_fts" "model_hits" .modelHitsRowid plan.expression
              ++ hitsFilled write "metadata_fts" "metadata_hits" .metadataHitsRowid plan.expression
          else "" := by
  have modelsPlain : Sql.IsPlain "models_fts" := Sql.isPlain_ofList (by decide)
  have metadataPlain : Sql.IsPlain "metadata_fts" := Sql.isPlain_ofList (by decide)
  have models := hitsJoin_filled write modelsPlain "model_hits" plan.expression .modelHitsRowid
  have metadata :=
    hitsJoin_filled write metadataPlain "metadata_hits" plan.expression .metadataHitsRowid
  have joins : plan.select.joins =
      metadataJoin :: (if plan.hasText then hitJoins plan.expression else []) := rfl
  rw [joins, List.map_cons, String.join_cons]
  split
  next =>
    rw [hitJoins, List.map_cons, List.map_cons, List.map_nil, String.join_cons, String.join_cons,
      models, metadata, String.join_nil, String.append_empty]
    rfl
  next => rfl

theorem orderSql_eq : Sql.Select.orderSql plan.select.order = orderText := by
  simp [select, Sql.Select.orderSql, Sql.joined, Sql.Order.sql, Sql.Expr.sql, rankName,
    Sql.Column.sql, Sql.Column.owner, Sql.Column.name, Sql.Table.name, orderText]

theorem rows_filled : plan.select.unbounded.filled write = plan.rowsFilled write := by
  have rows : plan.select.unbounded.filled write = "SELECT " ++
      Sql.Select.itemsSql plan.select.items ++ " FROM " ++ Sql.Table.models.name ++
      String.join (plan.select.joins.map fun join => " " ++ join.filled write) ++
      Sql.Select.filterFilled write plan.select.filter? ++ "" ++ "" ++ "" := rfl
  rw [rows, joinsFilled_eq, filterFilled_eq, String.append_empty, String.append_empty,
    String.append_empty]
  rfl

theorem page_filled : plan.select.filled write = plan.pageFilled write := by
  have limit : Sql.Select.boundFilled write "LIMIT" plan.select.limit? =
      " LIMIT " ++ write (.integer plan.limit.toInt64) := by
    simp [Sql.Select.boundFilled, select]
  have offset : Sql.Select.boundFilled write "OFFSET" plan.select.offset? =
      " OFFSET " ++ write (.integer plan.offset.toInt64) := by
    simp [Sql.Select.boundFilled, select]
  rw [Sql.Select.filled_eq, rows_filled, orderSql_eq, limit, offset, pageFilled,
    ← String.append_assoc, ← String.append_assoc]

theorem reads_page : plan.page.Reads write (plan.pageFilled write) := by
  rw [← page_filled]
  exact Sql.Select.reads_page write plan.select_isAligned

theorem reads_count : plan.count.Reads write (plan.countFilled write) := by
  have reads := Sql.Select.reads_count write plan.select_isAligned
  rw [rows_filled] at reads
  exact reads

theorem params_page_eq : plan.page.params =
    plan.count.params ++ [.integer plan.limit.toInt64, .integer plan.offset.toInt64] := by
  change plan.select.page.params = plan.select.count.params ++ _
  rw [Sql.Select.page_eq, Sql.Select.params_count]
  simp only [Fragment.params_append, Fragment.params_raw, List.append_nil, List.append_assoc]
  rfl

/-- The page and the count ask for the same rows. -/
theorem rows_of_page : ∃ rows, plan.page.sql = rows ++ orderText ++ " LIMIT ?" ++ " OFFSET ?" ∧
    plan.count.sql = "SELECT COUNT(*) AS total FROM (" ++ rows ++ ")" := by
  refine ⟨plan.select.unbounded.page.sql, ?_, plan.select.sql_count⟩
  change plan.select.page.sql = _
  rw [Sql.Select.page_eq, orderSql_eq]
  rfl

end Reading

end SearchPlan

/-! Plans of one shape. -/

inductive ChoiceShape where
  | absent
  | one
  | many (count : Nat)
  deriving DecidableEq, Repr

def Choice.shape : Choice → ChoiceShape
  | .one value => if value.isEmpty then .absent else .one
  | .many values => if values.isEmpty then .absent else .many values.length

/-- What a plan demands, without the values: how many tags, how many values to choose from, which
other conditions, and whether there is a text. -/
structure SearchShape where
  hasText : Bool
  tagsIncluded : Nat
  tagsExcluded : Nat
  inProject : Option Bool
  hasLatDays : Bool
  category : ChoiceShape
  format : ChoiceShape
  hasMinRating : Bool
  hasDateAddedStart : Bool
  hasDateAddedEnd : Bool
  hasLastViewedStart : Bool
  hasLastViewedEnd : Bool
  hasMinFileSize : Bool
  hasMaxFileSize : Bool
  deriving DecidableEq, Repr

def SearchPlan.shape (plan : SearchPlan) : SearchShape :=
  let choice (choice? : Option Choice) := (choice?.map Choice.shape).getD .absent
  { hasText := plan.hasText
    tagsIncluded := plan.filters.tagsInclude.length
    tagsExcluded := plan.filters.tagsExclude.length
    inProject := plan.filters.inProject
    hasLatDays := plan.filters.latDays.isSome
    category := choice plan.filters.category
    format := choice plan.filters.format
    hasMinRating := plan.filters.minRating.isSome
    hasDateAddedStart := plan.filters.dateAddedStart.isSome
    hasDateAddedEnd := plan.filters.dateAddedEnd.isSome
    hasLastViewedStart := plan.filters.lastViewedStart.isSome
    hasLastViewedEnd := plan.filters.lastViewedEnd.isSome
    hasMinFileSize := plan.filters.minFileSize.isSome
    hasMaxFileSize := plan.filters.maxFileSize.isSome }

namespace Condition

def blank (condition : Condition) : String := condition.filled fun _ => "?"

def erased : Condition → Condition
  | tagged _ => tagged ""
  | untagged _ => untagged ""
  | inProject member => inProject member
  | notViewedAfter _ => notViewedAfter ""
  | equals column _ => equals column ""
  | oneOf column values => oneOf column (List.replicate values.length "")
  | atLeast column _ => atLeast column 0
  | atMost column _ => atMost column 0
  | notBefore column _ => notBefore column ""
  | notAfter column _ => notAfter column ""

theorem blank_erased (condition : Condition) : condition.erased.blank = condition.blank := by
  cases condition with
  | oneOf column values =>
    have holes : (List.replicate values.length "").map (fun _ => "?") =
        values.map fun _ => "?" := by simp
    change column.sql ++ " IN (" ++ Sql.joined ", " _ ++ ")" = _
    rw [holes]
    rfl
  | _ => rfl

end Condition

namespace SearchShape

def choiceConditions (column : Sql.Column) : ChoiceShape → List Condition
  | .absent => []
  | .one => [.equals column ""]
  | .many count => [.oneOf column (List.replicate count "")]

def conditions (shape : SearchShape) : List Condition :=
  let optional (present : Bool) (condition : Condition) := if present then [condition] else []
  List.replicate shape.tagsIncluded (.tagged "") ++ List.replicate shape.tagsExcluded (.untagged "")
    ++ shape.inProject.toList.map .inProject ++ optional shape.hasLatDays (.notViewedAfter "")
    ++ choiceConditions .metadataCategory shape.category
    ++ choiceConditions .modelFormat shape.format
    ++ optional shape.hasMinRating (.atLeast .metadataRating 0)
    ++ optional shape.hasDateAddedStart (.notBefore .modelDateAdded "")
    ++ optional shape.hasDateAddedEnd (.notAfter .modelDateAdded "")
    ++ optional shape.hasLastViewedStart (.notBefore .modelLastViewed "")
    ++ optional shape.hasLastViewedEnd (.notAfter .modelLastViewed "")
    ++ optional shape.hasMinFileSize (.atLeast .modelFileSize 0)
    ++ optional shape.hasMaxFileSize (.atMost .modelFileSize 0)

end SearchShape

namespace SearchPlan

theorem erased_ofChoice (column : Sql.Column) (choice? : Option Choice) :
    (choice?.toList.flatMap (Condition.ofChoice column)).map Condition.erased =
      SearchShape.choiceConditions column ((choice?.map Choice.shape).getD .absent) := by
  cases choice? with
  | none => rfl
  | some choice =>
    rw [Option.toList_some, List.flatMap_singleton, Option.map_some, Option.getD_some]
    cases choice with
    | one value =>
      rw [Condition.ofChoice, Choice.shape]
      split <;> rfl
    | many values =>
      rw [Condition.ofChoice, Choice.shape]
      split <;> rfl

theorem erased_optional {α : Type} {value? : Option α} {condition : α → Condition}
    {erased : Condition} (constant : ∀ value, (condition value).erased = erased) :
    (value?.toList.map condition).map Condition.erased =
      if value?.isSome then [erased] else [] := by
  cases value? with
  | none => rfl
  | some value => simp [constant]

theorem erased_tags {tags : List String} {condition : String → Condition} {erased : Condition}
    (constant : ∀ tag, (condition tag).erased = erased) :
    (tags.map condition).map Condition.erased = List.replicate tags.length erased := by
  simp [constant, Function.comp_def]

theorem erased_conditions (plan : SearchPlan) :
    plan.conditions.map Condition.erased = plan.shape.conditions := by
  have tagged (tag : String) : (Condition.tagged (Condition.needle tag)).erased = .tagged "" := rfl
  have untagged (tag : String) :
      (Condition.untagged (Condition.needle tag)).erased = .untagged "" := rfl
  have stale (days : UInt32) : (Condition.notViewedAfter
      (plan.now.daysBefore days).timestamp).erased = .notViewedAfter "" := rfl
  have members : (plan.filters.inProject.toList.map Condition.inProject).map Condition.erased =
      plan.filters.inProject.toList.map Condition.inProject := by
    rw [List.map_map]
    rfl
  have atLeast (column : Sql.Column) (bound : Int64) :
      (Condition.atLeast column bound).erased = .atLeast column 0 := rfl
  have atMost (column : Sql.Column) (bound : Int64) :
      (Condition.atMost column bound).erased = .atMost column 0 := rfl
  have notBefore (column : Sql.Column) (bound : String) :
      (Condition.notBefore column bound).erased = .notBefore column "" := rfl
  have notAfter (column : Sql.Column) (bound : String) :
      (Condition.notAfter column bound).erased = .notAfter column "" := rfl
  simp only [conditions, FilterSet.conditions, List.map_append, erased_tags tagged,
    erased_tags untagged, members, erased_optional stale, erased_ofChoice,
    erased_optional (atLeast _), erased_optional (atMost _), erased_optional (notBefore _),
    erased_optional (notAfter _)]
  rfl

theorem blanks_conditions {plan other : SearchPlan} (same : plan.shape = other.shape) :
    plan.conditions.map Condition.blank = other.conditions.map Condition.blank := by
  have erase (conditions : List Condition) :
      conditions.map Condition.blank = (conditions.map Condition.erased).map Condition.blank := by
    simp [Condition.blank_erased]
  rw [erase plan.conditions, erase other.conditions, erased_conditions, erased_conditions, same]

theorem rows_blank {plan other : SearchPlan} (same : plan.shape = other.shape) :
    plan.rowsFilled (fun _ => "?") = other.rowsFilled fun _ => "?" := by
  have hasText : plan.hasText = other.hasText := congrArg SearchShape.hasText same
  have items : plan.select.items = other.select.items := by
    change _ ++ [Sql.Selected.mk (.raw plan.rankSql) _] = _ ++ [Sql.Selected.mk (.raw other.rankSql) _]
    rw [rankSql, rankSql, hasText]
  have hits (index hits : String) (rowid : Sql.Column) :
      hitsFilled (fun _ => "?") index hits rowid plan.expression =
        hitsFilled (fun _ => "?") index hits rowid other.expression := rfl
  have clauses : plan.clauseTexts (fun _ => "?") = other.clauseTexts fun _ => "?" := by
    have conditions := blanks_conditions same
    change _ ++ plan.conditions.map Condition.blank = _ ++ other.conditions.map Condition.blank
    rw [hasText, conditions]
  rw [rowsFilled, rowsFilled, items, hasText, hits, hits, clauses]

theorem page_sql_eq {plan other : SearchPlan} (same : plan.shape = other.shape) :
    plan.page.sql = other.page.sql := by
  rw [← Fragment.filled_blank, ← Fragment.filled_blank, (plan.reads_page _).filled_eq,
    (other.reads_page _).filled_eq, pageFilled, pageFilled, rows_blank same]

theorem count_sql_eq {plan other : SearchPlan} (same : plan.shape = other.shape) :
    plan.count.sql = other.count.sql := by
  have counts : plan.countFilled (fun _ => "?") = other.countFilled fun _ => "?" :=
    congrArg (fun rows => "SELECT COUNT(*) AS total FROM (" ++ rows ++ ")") (rows_blank same)
  rw [← Fragment.filled_blank, ← Fragment.filled_blank, (plan.reads_count _).filled_eq,
    (other.reads_count _).filled_eq, counts]

/-- The values of a statement stand in the places they are meant for. Every clause, select and plan
has one value for each placeholder, and reads with the values in the placeholders like the same thing
with its own value written in each piece; a count asks for the rows of the page without order and
bounds. The SQL of a plan depends on its shape alone, so that no value shows in it. -/
theorem values_in_place (write : Sql.Value → String) :
    (∀ clause : Sql.Clause, clause.IsAligned →
      clause.fragment.Reads write (clause.filled write)) ∧
    (∀ (clauses : List Sql.Clause) (whole : Fragment), (∀ clause ∈ clauses, clause.IsAligned) →
      Fragment.all? (clauses.map Sql.Clause.fragment) = some whole →
        ∃ first rest, clauses.map (Sql.Clause.filled write) = first :: rest ∧
          whole.Reads write (Fragment.conjoined first rest)) ∧
    (∀ select : Sql.Select, select.IsAligned →
      select.page.Reads write (select.filled write) ∧
      select.count.Reads write
        ("SELECT COUNT(*) AS total FROM (" ++ select.unbounded.filled write ++ ")") ∧
      select.page = select.unbounded.page ++ .raw (Sql.Select.orderSql select.order)
        ++ Sql.Select.boundFragment "LIMIT" select.limit?
        ++ Sql.Select.boundFragment "OFFSET" select.offset? ∧
      select.count =
        .raw "SELECT COUNT(*) AS total FROM (" ++ select.unbounded.page ++ .raw ")") ∧
    (∀ plan : SearchPlan,
      plan.page.Reads write (plan.pageFilled write) ∧
      plan.count.Reads write (plan.countFilled write) ∧
      plan.page.params =
        plan.count.params ++ [.integer plan.limit.toInt64, .integer plan.offset.toInt64] ∧
      ∃ rows, plan.page.sql = rows ++ orderText ++ " LIMIT ?" ++ " OFFSET ?" ∧
        plan.count.sql = "SELECT COUNT(*) AS total FROM (" ++ rows ++ ")") ∧
    (∀ plan other : SearchPlan, plan.shape = other.shape →
      plan.page.sql = other.page.sql ∧ plan.count.sql = other.count.sql) := by
  refine ⟨fun clause aligned => Sql.Clause.reads write aligned, ?_, ?_, ?_, ?_⟩
  · intro clauses whole aligned joined
    apply Fragment.reads_all _ joined
    rw [List.forall₂_map_left_iff, List.forall₂_map_right_iff, List.forall₂_same]
    exact fun clause member => Sql.Clause.reads write (aligned clause member)
  · intro select aligned
    exact ⟨Sql.Select.reads_page write aligned, Sql.Select.reads_count write aligned,
      select.page_eq, select.count_eq⟩
  · intro plan
    exact ⟨plan.reads_page write, plan.reads_count write, plan.params_page_eq, plan.rows_of_page⟩
  · intro plan other same
    exact ⟨page_sql_eq same, count_sql_eq same⟩

/-- A question mark in a value is no placeholder, and two lists of one length give one SQL. -/
theorem values_in_place_formats :
    let write : Sql.Value → String
      | .text text => "'" ++ text ++ "'"
      | _ => "0"
    let clause : Sql.Clause := .and (.compare (.column .modelFileSize) ">=" (.integer 0))
      (.oneOf (.column .modelFormat) (.text "?") [.text "stl"])
    let select : Sql.Select :=
      { table := .models, filter? := some clause.fragment, limit? := some 5 }
    let plan (formats : List String) : SearchPlan :=
      ⟨"gear", { format := some (.many formats) }, 5, 0, ⟨1700000000, 0⟩⟩
    clause.IsAligned ∧
      clause.fragment.filled write = "(models.file_size >= 0) AND (models.format IN ('?', 'stl'))" ∧
      Sql.Fragment.all? ([clause].map Sql.Clause.fragment) = some clause.fragment ∧
      (∃ first rest, [clause].map (Sql.Clause.filled write) = first :: rest ∧
        clause.fragment.Reads write (Sql.Fragment.conjoined first rest)) ∧
      select.IsAligned ∧ select.page.Reads write (select.filled write) ∧
      (plan ["?", "stl"]).shape = (plan ["obj", "3mf"]).shape ∧
      (plan ["?", "stl"]).page.sql = (plan ["obj", "3mf"]).page.sql := by
  intro write clause select plan
  obtain ⟨clauses, wholes, selects, _, shapes⟩ := values_in_place write
  have aligned : clause.IsAligned := ⟨rfl, rfl⟩
  have reads := clauses clause aligned
  have filled : clause.filled write =
      "(models.file_size >= 0) AND (models.format IN ('?', 'stl'))" := by rfl
  have whole : Sql.Fragment.all? ([clause].map Sql.Clause.fragment) = some clause.fragment := rfl
  have selectAligned : select.IsAligned :=
    { items := by simp [select]
      joins := by simp [select]
      filter := by
        intro filter member
        obtain rfl := Option.some.inj member
        exact reads.aligned
      order := by simp [select] }
  have same : (plan ["?", "stl"]).shape = (plan ["obj", "3mf"]).shape := rfl
  exact ⟨aligned, reads.filled_eq.trans filled, whole,
    wholes [clause] clause.fragment (by simpa using aligned) whole, selectAligned,
    (selects select selectAligned).1, same, (shapes _ _ same).1⟩

end SearchPlan

end ModelCatalog
