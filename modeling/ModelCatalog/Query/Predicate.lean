import ModelCatalog.Decimal.Integer
import ModelCatalog.Filter.Basic
import ModelCatalog.Text.Character

/-!
Tokens that are filters rather than text: `inProject`, `!inProject`, `LAT>=N`, `tag=T`, `tag!=T`.
-/

namespace ModelCatalog.Query

inductive Predicate where
  | inProject (value : Bool)
  | latDays (days : UInt32)
  | tagInclude (tag : Option String)
  | tagExclude (tag : Option String)
  deriving DecidableEq, Repr

def isTagQuote (c : Char) : Bool := c == '"' || c == '\''

def tagValue? (text : List Char) : Option String :=
  let unquoted := (((Text.trim text).dropWhile isTagQuote).reverse.dropWhile isTagQuote).reverse
  let tag := Text.trim unquoted
  if tag.isEmpty then none else some (String.ofList tag)

namespace Predicate

/-- Words are recognised in any case of ASCII letters. A number of days is digits only and fits in
32 bits; a token that fails this is text. -/
def ofToken? (token : List Char) : Option Predicate :=
  if Text.sameAscii token "inproject".toList then some (.inProject true)
  else if Text.sameAscii token "!inproject".toList then some (.inProject false)
  else
    let days? := do
      let digits ← Text.afterHead? "lat>=".toList token
      if digits.all Char.isDigit then Decimal.readUInt32? digits else none
    match days? with
    | some days => some (.latDays days)
    | none =>
      match Text.afterHead? "tag!=".toList token with
      | some tag => some (.tagExclude (tagValue? tag))
      | none => (Text.afterHead? "tag=".toList token).map fun tag => .tagInclude (tagValue? tag)

def addTo (filters : FilterSet) : Predicate → FilterSet
  | .inProject value => { filters with inProject := some value }
  | .latDays days => { filters with latDays := some days }
  | .tagInclude tag => { filters with tagsInclude := addTags filters.tagsInclude tag.toList }
  | .tagExclude tag => { filters with tagsExclude := addTags filters.tagsExclude tag.toList }

end Predicate

end ModelCatalog.Query
