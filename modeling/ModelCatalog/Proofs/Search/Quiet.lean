import ModelCatalog.Engine.Search
import ModelCatalog.Proofs.Filter.Tags
import ModelCatalog.Proofs.Search.Statements

/-!
The SQL of a plan tells nothing of a rejected text. What tells of one is spelled with a colon, or with
an m and an i behind it, and neither is in the SQL of any plan, whatever its filters.
-/

namespace ModelCatalog

open Sql (Fragment)

namespace SearchPlan

/-- Neither a colon nor an i behind an m comes, nor does the text end behind an m. -/
def isQuietFrom : (behindM : Bool) → List Char → Bool
  | behindM, [] => !behindM
  | behindM, c :: rest => c != ':' && !(behindM && c == 'i') && isQuietFrom (c == 'm') rest

def IsQuiet (text : List Char) : Prop := isQuietFrom false text = true

instance (text : List Char) : Decidable (IsQuiet text) := inferInstanceAs (Decidable (_ = true))

theorem isQuietFrom_append {behindM : Bool} {a b : List Char}
    (first : isQuietFrom behindM a = true) (second : IsQuiet b) :
    isQuietFrom behindM (a ++ b) = true := by
  induction a generalizing behindM with
  | nil =>
    obtain rfl : behindM = false := by simpa [isQuietFrom] using first
    exact second
  | cons c a ih =>
    rw [isQuietFrom, Bool.and_eq_true] at first
    rw [List.cons_append, isQuietFrom, Bool.and_eq_true]
    exact ⟨first.1, ih first.2⟩

theorem exists_isQuietFrom {behindM : Bool} {before text : List Char}
    (quiet : isQuietFrom behindM (before ++ text) = true) :
    ∃ behindM, isQuietFrom behindM text = true := by
  induction before generalizing behindM with
  | nil => exact ⟨behindM, quiet⟩
  | cons c before ih =>
    rw [List.cons_append, isQuietFrom, Bool.and_eq_true] at quiet
    exact ih quiet.2

theorem occursIn_eq_false {needle text : List Char} (quiet : IsQuiet text)
    (loud : ∀ behindM rest, isQuietFrom behindM (needle ++ rest) = false) :
    occursIn needle text = false := by
  rw [Bool.eq_false_iff]
  intro found
  obtain ⟨before, after, split⟩ := (occursIn_iff needle text).mp found
  rw [IsQuiet, ← split, List.append_assoc] at quiet
  obtain ⟨behindM, inside⟩ := exists_isQuietFrom quiet
  rw [loud behindM after] at inside
  cases inside

/-- What tells of a rejected text is spelled with a colon, or with an m and an i. -/
theorem rejectsText_of_isQuiet {message : String} (quiet : IsQuiet message.toList) :
    (SearchError.storage message).rejectsText = false := by
  have syntaxError : occursIn "fts5: syntax error".toList message.toList = false := by
    apply occursIn_eq_false quiet
    intro behindM rest
    rw [String.toList_ofList]
    cases behindM <;> rfl
  have unterminated : occursIn "unterminated string".toList message.toList = false := by
    apply occursIn_eq_false quiet
    intro behindM rest
    rw [String.toList_ofList]
    cases behindM <;> rfl
  rw [SearchError.rejectsText, syntaxError, unterminated, Bool.or_self]

def IsQuietSql (sql : String) : Prop := IsQuiet sql.toList

theorem IsQuietSql.literal {text : List Char} (quiet : IsQuiet text) :
    IsQuietSql (String.ofList text) := by
  rwa [IsQuietSql, String.toList_ofList]

theorem IsQuietSql.append {a b : String} (first : IsQuietSql a) (second : IsQuietSql b) :
    IsQuietSql (a ++ b) := by
  rw [IsQuietSql, String.toList_append]
  exact isQuietFrom_append first second

theorem joined_isQuietSql {separator : String} (quiet : IsQuietSql separator) {texts : List String}
    (all : ∀ text ∈ texts, IsQuietSql text) : IsQuietSql (Sql.joined separator texts) := by
  induction texts with
  | nil => exact .literal rfl
  | cons text rest ih =>
    obtain ⟨first, later⟩ := List.forall_mem_cons.mp all
    cases rest with
    | nil => exact first
    | cons next rest => exact (first.append quiet).append (ih later)

theorem name_isQuietSql (column : Sql.Column) : IsQuietSql column.name := by
  cases column <;> exact .literal rfl

theorem column_isQuietSql (column : Sql.Column) : IsQuietSql column.sql := by
  have owner : IsQuietSql column.owner := by cases column <;> exact .literal rfl
  have dot : IsQuietSql "." := .literal rfl
  exact (owner.append dot).append (name_isQuietSql column)

theorem condition_isQuietSql (condition : Condition) : IsQuietSql condition.blank := by
  have hole : IsQuietSql "?" := .literal rfl
  have closing : IsQuietSql ")" := .literal rfl
  have keywords : IsQuietSql Condition.canonicalKeywordsSql :=
    IsQuietSql.append (.literal (by rfl)) (.literal (by rfl))
  have tag {before after : String} (quiet : IsQuietSql before) (quietAfter : IsQuietSql after) :
      IsQuietSql (before ++ Condition.canonicalKeywordsSql ++ ", " ++ "?" ++ after) := by
    have comma : IsQuietSql ", " := .literal rfl
    exact (((quiet.append keywords).append comma).append hole).append quietAfter
  have compared (column : Sql.Column) {operator : String} (quiet : IsQuietSql operator) :
      IsQuietSql (column.sql ++ operator ++ "?") :=
    ((column_isQuietSql column).append quiet).append hole
  have dated (column : Sql.Column) {operator : String} (quiet : IsQuietSql operator) :
      IsQuietSql ("julianday(" ++ column.sql ++ operator ++ "?" ++ ")") := by
    have opening : IsQuietSql "julianday(" := .literal rfl
    exact (((opening.append (column_isQuietSql column)).append quiet).append hole).append closing
  have membership : IsQuietSql Condition.membershipSql := .literal rfl
  cases condition with
  | tagged needle => exact tag (.literal (by rfl)) (.literal (by rfl))
  | untagged needle => exact tag (.literal (by rfl)) (.literal (by rfl))
  | inProject member =>
    have opening : IsQuietSql (if member then "EXISTS (" else "NOT EXISTS (") := by
      split <;> exact .literal rfl
    exact (opening.append membership).append closing
  | notViewedAfter cutoff =>
    have opening : IsQuietSql
        "(models.last_viewed IS NULL OR models.last_viewed = '' OR " := .literal rfl
    have bound : IsQuietSql "julianday(models.last_viewed) <= julianday(" := .literal rfl
    have closing : IsQuietSql "))" := .literal rfl
    exact ((opening.append bound).append hole).append closing
  | equals column value => exact compared column (.literal (by rfl))
  | oneOf column values =>
    have opening : IsQuietSql " IN (" := .literal rfl
    have holes : IsQuietSql (Sql.joined ", " (values.map fun _ => "?")) := by
      refine joined_isQuietSql (.literal (by rfl)) fun text member => ?_
      obtain ⟨_, _, rfl⟩ := List.mem_map.mp member
      exact hole
    exact (((column_isQuietSql column).append opening).append holes).append closing
  | atLeast column bound => exact compared column (.literal (by rfl))
  | atMost column bound => exact compared column (.literal (by rfl))
  | notBefore column bound => exact dated column (.literal (by rfl))
  | notAfter column bound => exact dated column (.literal (by rfl))

theorem items_areQuietSql (plan : SearchPlan) :
    IsQuietSql (Sql.Select.itemsSql plan.select.items) := by
  have named {text name : String} (quiet : IsQuietSql text) (quietName : IsQuietSql name) :
      IsQuietSql (text ++ " AS " ++ name) :=
    (quiet.append (.literal (by rfl))).append quietName
  have rank : IsQuietSql plan.rankSql := by
    rw [rankSql]
    split <;> exact .literal rfl
  refine joined_isQuietSql (.literal (by rfl)) fun text member => ?_
  obtain ⟨item, listed, rfl⟩ := List.mem_map.mp member
  rcases List.mem_append.mp listed with inTable | last
  · obtain ⟨column, -, rfl⟩ := List.mem_map.mp inTable
    exact named (column_isQuietSql column) (name_isQuietSql column)
  · obtain rfl := List.mem_singleton.mp last
    exact named rank (.literal (by rfl))

theorem join_isQuietSql {source : String} (quiet : IsQuietSql source) (left right : Sql.Column) :
    IsQuietSql (Sql.joinText source left right) := by
  have join : IsQuietSql "LEFT JOIN " := .literal rfl
  have on : IsQuietSql " ON " := .literal rfl
  have equals : IsQuietSql " = " := .literal rfl
  have leftQuiet := column_isQuietSql left
  exact ((((join.append quiet).append on).append leftQuiet).append equals).append
    (column_isQuietSql right)

theorem hits_areQuietSql {index hits : String} (quiet : IsQuietSql index)
    (quietHits : IsQuietSql hits) (rowid : Sql.Column) (expression : String) :
    IsQuietSql (hitsFilled (fun _ => "?") index hits rowid expression) := by
  have select : IsQuietSql "SELECT rowid, -bm25(" := .literal rfl
  have score : IsQuietSql ") AS score FROM " := .literal rfl
  have filter : IsQuietSql " WHERE " := .literal rfl
  have asked : IsQuietSql " MATCH " := .literal rfl
  have hole : IsQuietSql "?" := .literal rfl
  have matching : IsQuietSql (matchFilled (fun _ => "?") index expression) :=
    ((((((select.append quiet).append score).append quiet).append filter).append quiet).append
      asked).append hole
  have opening : IsQuietSql "(" := .literal rfl
  have closing : IsQuietSql ") AS " := .literal rfl
  have source := ((opening.append matching).append closing).append quietHits
  have blank : IsQuietSql " " := .literal rfl
  exact blank.append (join_isQuietSql source rowid .modelId)

theorem where_isQuietSql {texts : List String} (all : ∀ text ∈ texts, IsQuietSql text) :
    IsQuietSql (whereFilled texts) := by
  have opening : IsQuietSql "(" := .literal rfl
  have between : IsQuietSql ") AND (" := .literal rfl
  have closing : IsQuietSql ")" := .literal rfl
  have conjoined {first : String} {rest : List String} (quiet : IsQuietSql first)
      (all : ∀ text ∈ rest, IsQuietSql text) : IsQuietSql (Fragment.conjoined first rest) := by
    induction rest generalizing first with
    | nil => exact quiet
    | cons next rest ih =>
      obtain ⟨nextQuiet, later⟩ := List.forall_mem_cons.mp all
      exact ih ((((opening.append quiet).append between).append nextQuiet).append closing) later
  cases texts with
  | nil => exact .literal rfl
  | cons first rest =>
    obtain ⟨quiet, later⟩ := List.forall_mem_cons.mp all
    exact IsQuietSql.append (.literal (by rfl)) (conjoined quiet later)

theorem rows_areQuietSql (plan : SearchPlan) : IsQuietSql (plan.rowsFilled fun _ => "?") := by
  have clauses : ∀ text ∈ plan.clauseTexts fun _ => "?", IsQuietSql text := by
    intro text member
    rcases List.mem_append.mp member with hit | listed
    · split at hit
      · obtain rfl := List.mem_singleton.mp hit
        exact .literal rfl
      · cases hit
    · obtain ⟨condition, -, rfl⟩ := List.mem_map.mp listed
      exact condition_isQuietSql condition
  have metadata : IsQuietSql
      (Sql.joinText Sql.Table.modelMetadata.name .metadataModelId .modelId) :=
    join_isQuietSql (.literal (by rfl)) .metadataModelId .modelId
  have hits : IsQuietSql (if plan.hasText then
      hitsFilled (fun _ => "?") "models_fts" "model_hits" .modelHitsRowid plan.expression
        ++ hitsFilled (fun _ => "?") "metadata_fts" "metadata_hits" .metadataHitsRowid plan.expression
      else "") := by
    split
    · exact (hits_areQuietSql (.literal (by rfl)) (.literal (by rfl)) _ _).append
        (hits_areQuietSql (.literal (by rfl)) (.literal (by rfl)) _ _)
    · exact .literal rfl
  have head : IsQuietSql ("SELECT " ++ Sql.Select.itemsSql plan.select.items ++ " FROM "
      ++ Sql.Table.models.name) :=
    ((IsQuietSql.append (.literal (by rfl)) (items_areQuietSql plan)).append
      (.literal (by rfl))).append (.literal (by rfl))
  have joins := ((.literal rfl : IsQuietSql " ").append metadata).append hits
  exact (head.append joins).append (where_isQuietSql clauses)

theorem count_isQuietSql (plan : SearchPlan) : IsQuietSql plan.count.sql := by
  have filled : plan.countFilled (fun _ => "?") = plan.count.sql := by
    rw [← Fragment.filled_blank plan.count, (plan.reads_count _).filled_eq]
  have opening : IsQuietSql "SELECT COUNT(*) AS total FROM (" := .literal rfl
  have closing : IsQuietSql ")" := .literal rfl
  exact filled ▸ (opening.append (rows_areQuietSql plan)).append closing

theorem page_isQuietSql (plan : SearchPlan) : IsQuietSql plan.page.sql := by
  have filled : plan.pageFilled (fun _ => "?") = plan.page.sql := by
    rw [← Fragment.filled_blank plan.page, (plan.reads_page _).filled_eq]
  have hole : IsQuietSql "?" := .literal rfl
  have order : IsQuietSql orderText := .literal rfl
  have limit : IsQuietSql " LIMIT " := .literal rfl
  have offset : IsQuietSql " OFFSET " := .literal rfl
  exact filled ▸ (((((rows_areQuietSql plan).append order).append limit).append hole).append
    offset).append hole

end SearchPlan

end ModelCatalog
