import ModelCatalog.Sql.Fragment

/-!
SELECT statements, page by page or counted. A count is the page without order and bounds.
-/

namespace ModelCatalog.Sql

structure Selected where
  expr : Expr
  alias? : Option String := none
  deriving Repr

def Selected.sql (item : Selected) : String :=
  match item.alias? with
  | some name => item.expr.sql ++ " AS " ++ name
  | none => item.expr.sql

structure Order where
  expr : Expr
  descending : Bool
  deriving Repr

def Order.sql (order : Order) : String :=
  order.expr.sql ++ if order.descending then " DESC" else " ASC"

inductive JoinSource where
  | table (table : Table)
  | query (query : Fragment) (name : String)
  deriving Repr

structure Join where
  source : JoinSource
  left : Column
  right : Column
  deriving Repr

def JoinSource.fragment : JoinSource → Fragment
  | .table source => .raw source.name
  | .query source name => ⟨"(" ++ source.sql ++ ") AS " ++ name, source.params⟩

def Join.fragment (join : Join) : Fragment :=
  let source := join.source.fragment
  ⟨"LEFT JOIN " ++ source.sql ++ " ON " ++ join.left.sql ++ " = " ++ join.right.sql, source.params⟩

structure Select where
  table : Table
  items : List Selected := []
  joins : List Join := []
  filter? : Option Fragment := none
  order : List Order := []
  limit? : Option UInt64 := none
  offset? : Option UInt64 := none
  deriving Repr

namespace Select

def itemsSql (items : List Selected) : String :=
  if items.isEmpty then "*" else joined ", " (items.map Selected.sql)

def orderSql (order : List Order) : String :=
  if order.isEmpty then "" else " ORDER BY " ++ joined ", " (order.map Order.sql)

def joinFragments (joins : List Join) : Fragment :=
  let fragments := joins.map Join.fragment
  ⟨String.join (fragments.map fun fragment => " " ++ fragment.sql),
    fragments.flatMap Fragment.params⟩

def filterFragment : Option Fragment → Fragment
  | none => .raw ""
  | some filter => ⟨" WHERE " ++ filter.sql, filter.params⟩

/-- A bound of the page. SQL integers are signed, so the word is bound as it stands. -/
def boundFragment (keyword : String) : Option UInt64 → Fragment
  | none => .raw ""
  | some bound => ⟨" " ++ keyword ++ " ?", [.integer bound.toInt64]⟩

def page (select : Select) : Fragment :=
  let joins := joinFragments select.joins
  let filter := filterFragment select.filter?
  let limit := boundFragment "LIMIT" select.limit?
  let offset := boundFragment "OFFSET" select.offset?
  { sql := "SELECT " ++ itemsSql select.items ++ " FROM " ++ select.table.name ++ joins.sql
      ++ filter.sql ++ orderSql select.order ++ limit.sql ++ offset.sql
    params := joins.params ++ filter.params ++ limit.params ++ offset.params }

def unbounded (select : Select) : Select :=
  { select with order := [], limit? := none, offset? := none }

def count (select : Select) : Fragment :=
  let rows := select.unbounded.page
  ⟨"SELECT COUNT(*) AS total FROM (" ++ rows.sql ++ ")", rows.params⟩

end Select

end ModelCatalog.Sql
