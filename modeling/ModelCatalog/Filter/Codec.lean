import ModelCatalog.Filter.Basic
import ModelCatalog.Filter.Name
import ModelCatalog.Json.Decode

/-!
The JSON text under which filters are stored. Absent filters and empty tag lists are not written;
every value is kept as it is.
-/

namespace ModelCatalog

namespace Choice

def toJson : Choice → Json
  | one value => .string value
  | many values => .strings values

def ofJson? : Json → Option Choice
  | .string value => some (one value)
  | value => value.toStrings?.map many

end Choice

namespace FilterSet

def tagsMember (name : FilterName) (tags : List String) : List (String × Json) :=
  if tags.isEmpty then [] else [(name.text, .strings tags)]

def int64Json (n : Int64) : Json := .int n.toInt

def toMembers (filters : FilterSet) : List (String × Json) :=
  tagsMember .tagsInclude filters.tagsInclude
    ++ tagsMember .tagsExclude filters.tagsExclude
    ++ Json.member FilterName.inProject.text .bool filters.inProject
    ++ Json.member FilterName.latDays.text (fun days => .int days.toNat) filters.latDays
    ++ Json.member FilterName.category.text Choice.toJson filters.category
    ++ Json.member FilterName.format.text Choice.toJson filters.format
    ++ Json.member FilterName.minRating.text int64Json filters.minRating
    ++ Json.member FilterName.dateAddedStart.text .string filters.dateAddedStart
    ++ Json.member FilterName.dateAddedEnd.text .string filters.dateAddedEnd
    ++ Json.member FilterName.lastViewedStart.text .string filters.lastViewedStart
    ++ Json.member FilterName.lastViewedEnd.text .string filters.lastViewedEnd
    ++ Json.member FilterName.minFileSize.text int64Json filters.minFileSize
    ++ Json.member FilterName.maxFileSize.text int64Json filters.maxFileSize

def toJson (filters : FilterSet) : Json := .object filters.toMembers

def encode (filters : FilterSet) : String := filters.toJson.compact

def ofMembers? (members : List (String × Json)) : Option FilterSet := do
  return {
    tagsInclude := ← Json.defaulted? Json.toStrings? [] FilterName.tagsInclude.text members
    tagsExclude := ← Json.defaulted? Json.toStrings? [] FilterName.tagsExclude.text members
    inProject := ← Json.optional? Json.toBool? FilterName.inProject.text members
    latDays := ← Json.optional? Json.toUInt32? FilterName.latDays.text members
    category := ← Json.optional? Choice.ofJson? FilterName.category.text members
    format := ← Json.optional? Choice.ofJson? FilterName.format.text members
    minRating := ← Json.optional? Json.toInt64? FilterName.minRating.text members
    dateAddedStart := ← Json.optional? Json.toString? FilterName.dateAddedStart.text members
    dateAddedEnd := ← Json.optional? Json.toString? FilterName.dateAddedEnd.text members
    lastViewedStart := ← Json.optional? Json.toString? FilterName.lastViewedStart.text members
    lastViewedEnd := ← Json.optional? Json.toString? FilterName.lastViewedEnd.text members
    minFileSize := ← Json.optional? Json.toInt64? FilterName.minFileSize.text members
    maxFileSize := ← Json.optional? Json.toInt64? FilterName.maxFileSize.text members }

def fieldNames : List String := FilterName.all.map FilterName.text

def ofJson? (value : Json) : Option FilterSet := do
  ofMembers? (← Json.fieldsOf? fieldNames value)

def decode (text : String) : Option FilterSet := do
  ofMembers? (← Json.readFields fieldNames text)

end FilterSet

end ModelCatalog
