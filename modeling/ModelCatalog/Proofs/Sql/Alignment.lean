import Mathlib.Data.List.Forall2
import ModelCatalog.Sql.Select

/-!
The placeholders of a statement and their values. What the combinators put together has one value for
each placeholder, and each value goes into the piece that it was given to.
-/

namespace ModelCatalog.Sql

/-- The text with the values written in place of its placeholders, from left to right. -/
def fill (write : Value → String) : List Char → List Value → List Char
  | [], _ => []
  | c :: rest, [] => c :: fill write rest []
  | c :: rest, value :: values =>
    if c = '?' then (write value).toList ++ fill write rest values
    else c :: fill write rest (value :: values)

theorem fill_append (write : Value → String) {text : List Char} {values : List Value}
    (aligned : text.count '?' = values.length) (more : List Char) (others : List Value) :
    fill write (text ++ more) (values ++ others) =
      fill write text values ++ fill write more others := by
  induction text generalizing values with
  | nil =>
    obtain rfl : values = [] := by simpa using aligned.symm
    simp [fill]
  | cons c rest ih =>
    by_cases hole : c = '?'
    · subst hole
      cases values with
      | nil => simp at aligned
      | cons value values =>
        have restAligned : rest.count '?' = values.length := by simpa using aligned
        simp [fill, ih restAligned]
    · have restAligned : rest.count '?' = values.length := by simpa [hole] using aligned
      have step (all : List Value) (text : List Char) :
          fill write (c :: text) all = c :: fill write text all := by
        cases all <;> simp [fill, hole]
      rw [List.cons_append, step, step, ih restAligned, List.cons_append]

theorem fill_blank (text : List Char) (values : List Value) :
    fill (fun _ => "?") text values = text := by
  induction text generalizing values with
  | nil => rfl
  | cons c rest ih =>
    cases values with
    | nil => rw [fill, ih]
    | cons value values =>
      rw [fill, ih, ih]
      split
      next hole => simp [hole]
      next => rfl

theorem fill_nil (write : Value → String) (text : List Char) : fill write text [] = text := by
  induction text with
  | nil => rfl
  | cons c rest ih => rw [fill, ih]

def IsPlain (sql : String) : Prop := '?' ∉ sql.toList

instance (sql : String) : Decidable (IsPlain sql) := inferInstanceAs (Decidable (_ ∉ _))

theorem isPlain_ofList {text : List Char} (free : '?' ∉ text) : IsPlain (String.ofList text) := by
  rw [IsPlain, String.toList_ofList]
  exact free

theorem isPlain_append {a b : String} : IsPlain (a ++ b) ↔ IsPlain a ∧ IsPlain b := by
  simp [IsPlain]

theorem isPlain_joined {separator : String} (plain : IsPlain separator) {texts : List String}
    (all : ∀ text ∈ texts, IsPlain text) : IsPlain (joined separator texts) := by
  induction texts with
  | nil => simp [joined, IsPlain]
  | cons text rest ih =>
    have restPlain := ih fun other member => all other (List.mem_cons_of_mem text member)
    have textPlain := all text List.mem_cons_self
    cases rest with
    | nil => exact textPlain
    | cons next rest =>
      rw [joined]
      · exact isPlain_append.mpr ⟨isPlain_append.mpr ⟨textPlain, plain⟩, restPlain⟩
      · simp

theorem Table.isPlain_name (table : Table) : IsPlain table.name := by
  cases table <;> exact isPlain_ofList (by decide)

theorem Column.isPlain_name (column : Column) : IsPlain column.name := by
  cases column <;> exact isPlain_ofList (by decide)

theorem Column.isPlain_sql (column : Column) : IsPlain column.sql := by
  have owner : IsPlain column.owner := by cases column <;> exact isPlain_ofList (by decide)
  exact isPlain_append.mpr
    ⟨isPlain_append.mpr ⟨owner, isPlain_ofList (by decide)⟩, column.isPlain_name⟩

namespace Fragment

instance : Append Fragment := ⟨fun a b => ⟨a.sql ++ b.sql, a.params ++ b.params⟩⟩

@[simp] theorem sql_append (a b : Fragment) : (a ++ b).sql = a.sql ++ b.sql := rfl

@[simp] theorem params_append (a b : Fragment) : (a ++ b).params = a.params ++ b.params := rfl

@[simp] theorem sql_raw (sql : String) : (raw sql).sql = sql := rfl

@[simp] theorem params_raw (sql : String) : (raw sql).params = [] := rfl

theorem eq_of_parts {a b : Fragment} (sql : a.sql = b.sql) (params : a.params = b.params) :
    a = b := by
  cases a
  cases b
  simp_all

def hole (value : Value) : Fragment := ⟨"?", [value]⟩

/-- There is one value for each placeholder. -/
def IsAligned (fragment : Fragment) : Prop :=
  fragment.sql.toList.count '?' = fragment.params.length

def filled (write : Value → String) (fragment : Fragment) : String :=
  String.ofList (fill write fragment.sql.toList fragment.params)

/-- The fragment is aligned, and `text` once its values are written in it. -/
structure Reads (write : Value → String) (fragment : Fragment) (text : String) : Prop where
  aligned : fragment.IsAligned
  filled_eq : fragment.filled write = text

theorem filled_blank (fragment : Fragment) : fragment.filled (fun _ => "?") = fragment.sql := by
  rw [filled, fill_blank, String.ofList_toList]

variable {write : Value → String}

theorem IsAligned.reads {fragment : Fragment} (aligned : fragment.IsAligned) :
    Reads write fragment (fragment.filled write) := ⟨aligned, rfl⟩

theorem Reads.append {a b : Fragment} {s t : String} (first : Reads write a s)
    (second : Reads write b t) : Reads write (a ++ b) (s ++ t) where
  aligned := by
    have sum : (a.sql ++ b.sql).toList.count '?' = (a.params ++ b.params).length := by
      rw [String.toList_append, List.count_append, List.length_append, first.aligned,
        second.aligned]
    exact sum
  filled_eq := by
    have split : filled write (a ++ b) = a.filled write ++ b.filled write := by
      change String.ofList (fill write (a.sql ++ b.sql).toList (a.params ++ b.params)) = _
      rw [String.toList_append, fill_append write first.aligned, String.ofList_append]
      rfl
    rw [split, first.filled_eq, second.filled_eq]

theorem reads_raw {sql : String} (plain : IsPlain sql) : Reads write (raw sql) sql where
  aligned := List.count_eq_zero.mpr plain
  filled_eq := by rw [filled, raw, fill_nil, String.ofList_toList]

theorem reads_text {text : List Char} (free : '?' ∉ text) :
    Reads write (raw (String.ofList text)) (String.ofList text) := reads_raw (isPlain_ofList free)

theorem reads_hole (value : Value) : Reads write (hole value) (write value) where
  aligned := by simp [IsAligned, hole]
  filled_eq := by simp [filled, hole, fill]

theorem reads_before {before sql : String} {value : Value} (split : sql = before ++ "?")
    (plain : IsPlain before) : Reads write ⟨sql, [value]⟩ (before ++ write value) := by
  have parts : Fragment.mk sql [value] = raw before ++ hole value := eq_of_parts split rfl
  rw [parts]
  exact (reads_raw plain).append (reads_hole value)

theorem reads_around {before after sql : String} {value : Value}
    (split : sql = before ++ "?" ++ after) (plainBefore : IsPlain before)
    (plainAfter : IsPlain after) :
    Reads write ⟨sql, [value]⟩ (before ++ write value ++ after) := by
  have parts : Fragment.mk sql [value] = ⟨before ++ "?", [value]⟩ ++ raw after :=
    eq_of_parts split rfl
  rw [parts]
  exact (reads_before rfl plainBefore).append (reads_raw plainAfter)

theorem reads_compare {expr : Expr} {operator : String} {value : Value}
    (exprPlain : IsPlain expr.sql) (operatorPlain : IsPlain operator) :
    Reads write (compare expr operator value)
      (expr.sql ++ " " ++ operator ++ " " ++ write value) := by
  apply reads_before
  · simp [String.append_assoc]
  · simp only [isPlain_append]
    exact ⟨⟨⟨exprPlain, by decide⟩, operatorPlain⟩, by decide⟩

theorem reads_holes (values : List Value) :
    Reads write ⟨joined ", " (values.map fun _ => "?"), values⟩
      (joined ", " (values.map write)) := by
  induction values with
  | nil => exact reads_text (by decide)
  | cons value rest ih =>
    cases rest with
    | nil => exact reads_hole value
    | cons next rest =>
      have parts : Fragment.mk (joined ", " ((value :: next :: rest).map fun _ => "?"))
          (value :: next :: rest) =
            hole value ++ raw ", " ++ ⟨joined ", " ((next :: rest).map fun _ => "?"), next :: rest⟩ :=
        rfl
      rw [parts]
      exact ((reads_hole value).append (reads_text (by decide))).append ih

theorem reads_oneOf {expr : Expr} (plain : IsPlain expr.sql) (values : List Value) :
    Reads write ⟨expr.sql ++ " IN (" ++ joined ", " (values.map fun _ => "?") ++ ")", values⟩
      (expr.sql ++ " IN (" ++ joined ", " (values.map write) ++ ")") := by
  have parts : Fragment.mk (expr.sql ++ " IN (" ++ joined ", " (values.map fun _ => "?") ++ ")")
      values = raw (expr.sql ++ " IN (") ++ ⟨joined ", " (values.map fun _ => "?"), values⟩ ++
        raw ")" :=
    eq_of_parts rfl (by simp)
  rw [parts]
  apply Reads.append _ (reads_text (by decide))
  apply Reads.append _ (reads_holes values)
  exact reads_raw (isPlain_append.mpr ⟨plain, by decide⟩)

theorem reads_and {a b : Fragment} {s t : String} (first : Reads write a s)
    (second : Reads write b t) : Reads write (a.and b) ("(" ++ s ++ ") AND (" ++ t ++ ")") := by
  have parts : a.and b = raw "(" ++ a ++ raw ") AND (" ++ b ++ raw ")" :=
    eq_of_parts rfl (by simp [and])
  rw [parts]
  apply Reads.append _ (reads_text (by decide))
  apply Reads.append _ second
  apply Reads.append _ (reads_text (by decide))
  exact (reads_text (by decide)).append first

def conjoined (first : String) (rest : List String) : String :=
  rest.foldl (fun left right => "(" ++ left ++ ") AND (" ++ right ++ ")") first

theorem reads_foldl {fragments : List Fragment} {texts : List String}
    (reads : List.Forall₂ (Reads write) fragments texts) {first : Fragment} {text : String}
    (readsFirst : Reads write first text) :
    Reads write (fragments.foldl and first) (conjoined text texts) := by
  induction reads generalizing first text with
  | nil => exact readsFirst
  | cons next _ ih => exact ih (reads_and readsFirst next)

theorem reads_all {fragments : List Fragment} {texts : List String}
    (reads : List.Forall₂ (Reads write) fragments texts) {whole : Fragment}
    (joined : all? fragments = some whole) :
    ∃ text rest, texts = text :: rest ∧ Reads write whole (conjoined text rest) := by
  cases reads with
  | nil => cases joined
  | cons first rest =>
    obtain rfl := Option.some.inj joined
    exact ⟨_, _, rfl, reads_foldl rest first⟩

theorem isPlain_of_compare {expr : Expr} {operator : String} {value : Value}
    (aligned : (compare expr operator value).IsAligned) : IsPlain expr.sql ∧ IsPlain operator := by
  have counted : expr.sql.toList.count '?' + (operator.toList.count '?' + 1) = 1 := by
    simpa [IsAligned, compare, List.count_append] using aligned
  exact ⟨List.count_eq_zero.mp (by omega), List.count_eq_zero.mp (by omega)⟩

theorem isPlain_of_oneOf {expr : Expr} {values : List Value}
    (aligned : IsAligned
      ⟨expr.sql ++ " IN (" ++ joined ", " (values.map fun _ => "?") ++ ")", values⟩) :
    IsPlain expr.sql := by
  have holes : (joined ", " (values.map fun _ => "?")).toList.count '?' = values.length :=
    (@reads_holes (fun _ => "") values).aligned
  have counted : expr.sql.toList.count '?' + values.length = values.length := by
    have whole : (expr.sql ++ " IN (" ++ joined ", " (values.map fun _ => "?") ++ ")").toList.count
        '?' = values.length := aligned
    simp only [String.toList_append, List.count_append, holes] at whole
    simpa using whole
  exact List.count_eq_zero.mp (by omega)

end Fragment

inductive Clause where
  | written (fragment : Fragment)
  | compare (expr : Expr) (operator : String) (value : Value)
  | oneOf (expr : Expr) (first : Value) (rest : List Value)
  | and (left right : Clause)

namespace Clause

def fragment : Clause → Fragment
  | written fragment => fragment
  | compare expr operator value => .compare expr operator value
  | oneOf expr first rest => (Fragment.oneOf? expr (first :: rest)).get rfl
  | and left right => left.fragment.and right.fragment

def IsAligned : Clause → Prop
  | and left right => left.IsAligned ∧ right.IsAligned
  | clause => clause.fragment.IsAligned

/-- The clause with each value written in its own place. -/
def filled (write : Value → String) : Clause → String
  | written fragment => fragment.filled write
  | compare expr operator value => expr.sql ++ " " ++ operator ++ " " ++ write value
  | oneOf expr first rest => expr.sql ++ " IN (" ++ joined ", " ((first :: rest).map write) ++ ")"
  | and left right => "(" ++ left.filled write ++ ") AND (" ++ right.filled write ++ ")"

theorem reads (write : Value → String) {clause : Clause} (aligned : clause.IsAligned) :
    clause.fragment.Reads write (clause.filled write) := by
  induction clause with
  | written fragment => exact Fragment.IsAligned.reads aligned
  | compare expr operator value =>
    obtain ⟨exprPlain, operatorPlain⟩ := Fragment.isPlain_of_compare aligned
    exact Fragment.reads_compare exprPlain operatorPlain
  | oneOf expr first rest =>
    exact Fragment.reads_oneOf (Fragment.isPlain_of_oneOf aligned) (first :: rest)
  | and left right ihLeft ihRight => exact Fragment.reads_and (ihLeft aligned.1) (ihRight aligned.2)

end Clause

def JoinSource.IsAligned : JoinSource → Prop
  | .table _ => True
  | .query source name => source.IsAligned ∧ IsPlain name

def JoinSource.filled (write : Value → String) : JoinSource → String
  | .table source => source.name
  | .query source name => "(" ++ source.filled write ++ ") AS " ++ name

theorem JoinSource.reads (write : Value → String) {source : JoinSource}
    (aligned : source.IsAligned) : source.fragment.Reads write (source.filled write) := by
  cases source with
  | table source => exact Fragment.reads_raw source.isPlain_name
  | query source name =>
    have parts : (JoinSource.query source name).fragment =
        .raw "(" ++ source ++ .raw ") AS " ++ .raw name :=
      Fragment.eq_of_parts rfl (by simp [JoinSource.fragment])
    rw [parts]
    apply Fragment.Reads.append _ (Fragment.reads_raw aligned.2)
    apply Fragment.Reads.append _ (Fragment.reads_text (by decide))
    exact (Fragment.reads_text (by decide)).append aligned.1.reads

def joinText (source : String) (left right : Column) : String :=
  "LEFT JOIN " ++ source ++ " ON " ++ left.sql ++ " = " ++ right.sql

def Join.filled (write : Value → String) (join : Join) : String :=
  joinText (join.source.filled write) join.left join.right

theorem Join.reads (write : Value → String) {join : Join} (aligned : join.source.IsAligned) :
    join.fragment.Reads write (join.filled write) := by
  have parts : join.fragment = .raw "LEFT JOIN " ++ join.source.fragment ++ .raw " ON " ++
      .raw join.left.sql ++ .raw " = " ++ .raw join.right.sql :=
    Fragment.eq_of_parts rfl (by simp; rfl)
  rw [parts]
  apply Fragment.Reads.append _ (Fragment.reads_raw join.right.isPlain_sql)
  apply Fragment.Reads.append _ (Fragment.reads_text (by decide))
  apply Fragment.Reads.append _ (Fragment.reads_raw join.left.isPlain_sql)
  apply Fragment.Reads.append _ (Fragment.reads_text (by decide))
  exact (Fragment.reads_text (by decide)).append (JoinSource.reads write aligned)

namespace Select

structure IsAligned (select : Select) : Prop where
  items : ∀ item ∈ select.items, IsPlain item.sql
  joins : ∀ join ∈ select.joins, join.source.IsAligned
  filter : ∀ filter ∈ select.filter?, filter.IsAligned
  order : ∀ order ∈ select.order, IsPlain order.expr.sql

def filterFilled (write : Value → String) : Option Fragment → String
  | none => ""
  | some filter => " WHERE " ++ filter.filled write

def boundFilled (write : Value → String) (keyword : String) : Option UInt64 → String
  | none => ""
  | some bound => " " ++ keyword ++ " " ++ write (.integer bound.toInt64)

def filled (write : Value → String) (select : Select) : String :=
  "SELECT " ++ itemsSql select.items ++ " FROM " ++ select.table.name
    ++ String.join (select.joins.map fun join => " " ++ join.filled write)
    ++ filterFilled write select.filter? ++ orderSql select.order
    ++ boundFilled write "LIMIT" select.limit? ++ boundFilled write "OFFSET" select.offset?

variable (write : Value → String)

theorem filled_eq (select : Select) : select.filled write = select.unbounded.filled write
    ++ orderSql select.order ++ boundFilled write "LIMIT" select.limit?
    ++ boundFilled write "OFFSET" select.offset? := by
  have rows : select.unbounded.filled write = "SELECT " ++ itemsSql select.items ++ " FROM "
      ++ select.table.name ++ String.join (select.joins.map fun join => " " ++ join.filled write)
      ++ filterFilled write select.filter? ++ "" ++ "" ++ "" := rfl
  rw [rows, String.append_empty, String.append_empty, String.append_empty]
  rfl

theorem joinFragments_cons (join : Join) (joins : List Join) :
    joinFragments (join :: joins) = .raw " " ++ join.fragment ++ joinFragments joins := by
  apply Fragment.eq_of_parts
  · simp [joinFragments, String.join_cons]
  · simp [joinFragments]

theorem reads_joins {joins : List Join} (aligned : ∀ join ∈ joins, join.source.IsAligned) :
    (joinFragments joins).Reads write
      (String.join (joins.map fun join => " " ++ join.filled write)) := by
  induction joins with
  | nil => exact Fragment.reads_text (by decide)
  | cons join joins ih =>
    have first := Join.reads write (aligned join List.mem_cons_self)
    have rest := ih fun other member => aligned other (List.mem_cons_of_mem join member)
    rw [joinFragments_cons, List.map_cons, String.join_cons]
    exact ((Fragment.reads_text (by decide)).append first).append rest

theorem reads_filter {filter? : Option Fragment} (aligned : ∀ filter ∈ filter?, filter.IsAligned) :
    (filterFragment filter?).Reads write (filterFilled write filter?) := by
  cases filter? with
  | none => exact Fragment.reads_text (by decide)
  | some filter =>
    exact (Fragment.reads_text (by decide)).append (aligned filter rfl).reads

theorem reads_bound {keyword : String} (plain : IsPlain keyword) (bound? : Option UInt64) :
    (boundFragment keyword bound?).Reads write (boundFilled write keyword bound?) := by
  cases bound? with
  | none => exact Fragment.reads_text (by decide)
  | some bound =>
    have parts : boundFragment keyword (some bound) =
        .raw " " ++ .raw keyword ++ .raw " " ++ .hole (.integer bound.toInt64) :=
      Fragment.eq_of_parts (by simp [boundFragment, Fragment.hole, String.append_assoc]) rfl
    rw [parts]
    apply Fragment.Reads.append _ (Fragment.reads_hole _)
    apply Fragment.Reads.append _ (Fragment.reads_text (by decide))
    exact (Fragment.reads_text (by decide)).append (Fragment.reads_raw plain)

theorem isPlain_itemsSql {items : List Selected} (plain : ∀ item ∈ items, IsPlain item.sql) :
    IsPlain (itemsSql items) := by
  rw [itemsSql]
  split
  · decide
  · apply isPlain_joined (by decide)
    intro text member
    obtain ⟨item, inside, rfl⟩ := List.mem_map.mp member
    exact plain item inside

theorem isPlain_orderSql {order : List Order} (plain : ∀ key ∈ order, IsPlain key.expr.sql) :
    IsPlain (orderSql order) := by
  rw [orderSql]
  split
  · decide
  · apply isPlain_append.mpr ⟨by decide, isPlain_joined (by decide) _⟩
    intro text member
    obtain ⟨key, inside, rfl⟩ := List.mem_map.mp member
    apply isPlain_append.mpr ⟨plain key inside, _⟩
    split <;> decide

theorem sql_page (select : Select) : select.page.sql =
    "SELECT " ++ itemsSql select.items ++ " FROM " ++ select.table.name
      ++ (joinFragments select.joins).sql ++ (filterFragment select.filter?).sql
      ++ orderSql select.order ++ (boundFragment "LIMIT" select.limit?).sql
      ++ (boundFragment "OFFSET" select.offset?).sql := rfl

theorem params_page (select : Select) : select.page.params =
    (joinFragments select.joins).params ++ (filterFragment select.filter?).params
      ++ (boundFragment "LIMIT" select.limit?).params
      ++ (boundFragment "OFFSET" select.offset?).params := rfl

theorem sql_count (select : Select) :
    select.count.sql = "SELECT COUNT(*) AS total FROM (" ++ select.unbounded.page.sql ++ ")" := rfl

theorem params_count (select : Select) : select.count.params = select.unbounded.page.params := rfl

theorem page_eq (select : Select) : select.page = select.unbounded.page
    ++ .raw (orderSql select.order) ++ boundFragment "LIMIT" select.limit?
    ++ boundFragment "OFFSET" select.offset? := by
  apply Fragment.eq_of_parts
  · simp [sql_page, unbounded, orderSql, boundFragment]
  · simp [params_page, unbounded, boundFragment]

theorem count_eq (select : Select) :
    select.count = .raw "SELECT COUNT(*) AS total FROM (" ++ select.unbounded.page ++ .raw ")" := by
  apply Fragment.eq_of_parts
  · simp only [sql_count, Fragment.sql_append, Fragment.sql_raw]
  · simp [params_count]

theorem reads_page {select : Select} (aligned : select.IsAligned) :
    select.page.Reads write (select.filled write) := by
  have parts : select.page = .raw "SELECT " ++ .raw (itemsSql select.items) ++ .raw " FROM " ++
      .raw select.table.name ++ joinFragments select.joins ++ filterFragment select.filter? ++
      .raw (orderSql select.order) ++ boundFragment "LIMIT" select.limit? ++
      boundFragment "OFFSET" select.offset? :=
    Fragment.eq_of_parts rfl (by simp [params_page])
  rw [parts]
  apply Fragment.Reads.append _ (reads_bound write (by decide) _)
  apply Fragment.Reads.append _ (reads_bound write (by decide) _)
  apply Fragment.Reads.append _ (Fragment.reads_raw (isPlain_orderSql aligned.order))
  apply Fragment.Reads.append _ (reads_filter write aligned.filter)
  apply Fragment.Reads.append _ (reads_joins write aligned.joins)
  apply Fragment.Reads.append _ (Fragment.reads_raw select.table.isPlain_name)
  apply Fragment.Reads.append _ (Fragment.reads_text (by decide))
  exact (Fragment.reads_text (by decide)).append
    (Fragment.reads_raw (isPlain_itemsSql aligned.items))

theorem reads_count {select : Select} (aligned : select.IsAligned) :
    select.count.Reads write
      ("SELECT COUNT(*) AS total FROM (" ++ select.unbounded.filled write ++ ")") := by
  have unbounded : select.unbounded.IsAligned :=
    ⟨aligned.items, aligned.joins, aligned.filter, by simp [Select.unbounded]⟩
  rw [count_eq]
  exact ((Fragment.reads_text (by decide)).append (reads_page write unbounded)).append
    (Fragment.reads_text (by decide))

end Select

end ModelCatalog.Sql
