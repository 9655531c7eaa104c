import ModelCatalog.Decimal.Integer
import ModelCatalog.Error
import ModelCatalog.Filter.Basic
import ModelCatalog.Filter.Name
import ModelCatalog.Text.Character
import ModelCatalog.Time.Reading

/-!
Filters written as `KEY=VALUE`. A key is read without its outer blanks and without regard to the
case of ASCII letters; an error repeats it as it was written.
-/

namespace ModelCatalog

def commaList (text : List Char) : List String :=
  ((text.splitOn ',').map Text.trim).filterMap fun piece =>
    if piece.isEmpty then none else some (String.ofList piece)

def Choice.ofText (text : List Char) : Choice :=
  if text.contains ',' then .many (commaList text) else .one (String.ofList (Text.trim text))

def readFlag? (text : List Char) : Option Bool :=
  let text := String.ofList (Text.asciiLower text)
  if ["true", "yes", "1"].contains text then some true
  else if ["false", "no", "0"].contains text then some false
  else none

def readDateBound? (text : List Char) : Option String :=
  if text.isEmpty || Time.isTimestamp (String.ofList text) then some (String.ofList text) else none

namespace FilterName

def ofKey? (key : String) : Option FilterName :=
  if key = "tag" then some tagsInclude else ofText? key

end FilterName

namespace FilterKind

def ofValue? (name : FilterName) (value : List Char) : Option FilterKind :=
  match name with
  | .tagsInclude => some (.tagsInclude (commaList value))
  | .tagsExclude => some (.tagsExclude (commaList value))
  | .inProject => (readFlag? value).map .inProject
  | .latDays => (Decimal.readUInt32? value).map .latDays
  | .category => some (.category (Choice.ofText value))
  | .format => some (.format (Choice.ofText value))
  | .minRating => (Decimal.readInt64? value).map .minRating
  | .dateAddedStart => (readDateBound? value).map .dateAddedStart
  | .dateAddedEnd => (readDateBound? value).map .dateAddedEnd
  | .lastViewedStart => (readDateBound? value).map .lastViewedStart
  | .lastViewedEnd => (readDateBound? value).map .lastViewedEnd
  | .minFileSize => (Decimal.readInt64? value).map .minFileSize
  | .maxFileSize => (Decimal.readInt64? value).map .maxFileSize

def ofKeyValue (key value : List Char) : Except SearchError FilterKind :=
  let value := Text.trim value
  let spoken := String.ofList (Text.asciiLower (Text.trim key))
  match FilterName.ofKey? spoken with
  | none => .error (.unknownFilter spoken)
  | some name =>
    match ofValue? name value with
    | none => .error (.invalidFilterValue (String.ofList key) (String.ofList value))
    | some kind => .ok kind

/-- Splits at the first `=`; without one, the whole text is a key without a value. -/
def ofPair (pair : String) : Except SearchError FilterKind :=
  let text := pair.toList
  match text.dropWhile (· != '=') with
  | [] => .error (.invalidFilterValue pair "")
  | _ :: value => ofKeyValue (text.takeWhile (· != '=')) value

end FilterKind

namespace FilterSet

def ofPairs (pairs : List String) : Except SearchError FilterSet := do
  return ofKinds (← pairs.mapM FilterKind.ofPair)

end FilterSet

end ModelCatalog
