import ModelCatalog.Decimal.Real
import ModelCatalog.Sql.Fragment
import ModelCatalog.Text.Character

/-!
Rows that a statement returns, read column by column. A value of another kind is converted where it
has a meaning of the kind asked for; null and bytes never have one.
-/

namespace ModelCatalog.Sql

structure Record where
  columns : List String
  values : List Value
  deriving Repr, Inhabited

namespace Record

def get? (record : Record) (column : String) : Option Value := do
  record.values[← record.columns.findIdx? (· == column)]?

def ofFields (fields : List (String × Value)) : Record := ⟨fields.map (·.1), fields.map (·.2)⟩

end Record

namespace Value

def toText? : Value → Option String
  | text s => some s
  | integer n => some (integerText n.toInt)
  | real x => some (String.ofList (Decimal.plain x))
  | null => none
  | blob _ => none

/-- A real is cut to its whole part, within the range of integers. -/
def toInteger? : Value → Option Int64
  | integer n => some n
  | real x => some x.toInt64
  | text s => Decimal.readInt64? (Text.trim s.toList)
  | null => none
  | blob _ => none

def toReal? : Value → Option Float
  | real x => some x
  | integer n => some n.toFloat
  | text s => Decimal.readReal? (Text.trim s.toList)
  | null => none
  | blob _ => none

def ofInteger? (value : Option Int64) : Value := (value.map integer).getD null

end Value

namespace Record

def text? (record : Record) (column : String) : Option String := do
  (← record.get? column).toText?

def integer? (record : Record) (column : String) : Option Int64 := do
  (← record.get? column).toInteger?

def real? (record : Record) (column : String) : Option Float := do
  (← record.get? column).toReal?

end Record

end ModelCatalog.Sql
