import ModelCatalog.Text.Character

/-!
The words that connect the terms of a text search.
-/

namespace ModelCatalog

inductive Connector where
  | and
  | or
  | not
  deriving DecidableEq, Repr

namespace Connector

def text : Connector → List Char
  | and => ['A', 'N', 'D']
  | or => ['O', 'R']
  | not => ['N', 'O', 'T']

def ofWord? (word : List Char) : Option Connector :=
  if Text.sameAscii word and.text then some and
  else if Text.sameAscii word or.text then some or
  else if Text.sameAscii word not.text then some not
  else none

theorem ofWord?_text (connector : Connector) : ofWord? connector.text = some connector := by
  cases connector <;> decide

end Connector

def isConnector (word : List Char) : Bool := (Connector.ofWord? word).isSome

end ModelCatalog
