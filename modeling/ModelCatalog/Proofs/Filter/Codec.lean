import ModelCatalog.Filter.Codec
import ModelCatalog.Proofs.Json.RoundTrip

/-!
Filters survive their JSON text: every value, also an empty choice or an empty bound, reads back as
it was written.
-/

namespace ModelCatalog

namespace Json

theorem toInt64_int (n : Int64) : toInt64? (.int n.toInt) = some n := by
  have fits : Int64.minValue.toInt ≤ n.toInt ∧ n.toInt ≤ Int64.maxValue.toInt :=
    ⟨Int64.minValue_le_toInt n, Int64.toInt_le n⟩
  rw [toInt64?, Decimal.int64?, if_pos fits, Int64.ofInt_toInt]

theorem toUInt32_int (n : UInt32) : toUInt32? (.int n.toNat) = some n := by
  have fits : 0 ≤ (n.toNat : Int) ∧ (n.toNat : Int) < UInt32.size :=
    ⟨Int.natCast_nonneg _, Int.ofNat_lt.mpr n.toNat_lt⟩
  rw [toUInt32?, if_pos fits, Int.toNat_natCast, UInt32.ofNat_toNat]

theorem toStrings_strings (texts : List String) : toStrings? (strings texts) = some texts := by
  rw [strings, toStrings?]
  induction texts with
  | nil => rfl
  | cons text texts ih =>
    rw [List.map_cons, List.mapM_cons, ih]
    rfl

theorem plain_int64 (n : Int64) : Plain (.int n.toInt) := by
  apply Plain.int
  have atLeast := Int64.minValue_le_toInt n
  have below := Int64.toInt_lt n
  refine ⟨atLeast, ?_⟩
  simp only [UInt64.size]
  omega

theorem plain_uint32 (n : UInt32) : Plain (.int n.toNat) := by
  apply Plain.int
  have below := n.toNat_lt
  refine ⟨Int.le_trans (by decide) (Int.natCast_nonneg n.toNat), ?_⟩
  simp only [UInt64.size]
  omega

theorem plain_strings (texts : List String) : Plain (strings texts) := by
  apply Plain.list
  intro item member
  obtain ⟨text, _, rfl⟩ := List.mem_map.mp member
  exact Plain.string text

theorem filter_member {α : Type} (key sought : String) (write : α → Json) (value : Option α) :
    (member key write value).filter (fun found => found.1 == sought) =
      if key = sought then member key write value else [] := by
  cases value with
  | none => simp [member]
  | some value =>
    by_cases same : key = sought
    · simp [member, same]
    · simp [member, same]

theorem optional_member {α : Type} {decode : Json → Option α} {write : α → Json} {key : String}
    {members : List (String × Json)} {value : Option α}
    (filtered : members.filter (fun found => found.1 == key) = member key write value)
    (reads : ∀ value, decode (write value) = some value) (notNull : ∀ value, write value ≠ .null) :
    optional? decode key members = some value := by
  rw [optional?, defaulted?, field?, filtered]
  cases value with
  | none => rfl
  | some value =>
    simp only [member, Option.bind_eq_bind, Option.bind_some]
    rw [toOption?, reads]
    · rfl
    · exact notNull value

theorem defaulted_member {α : Type} {decode : Json → Option α} {write : α → Json} {key : String}
    {members : List (String × Json)} {value : Option α} (absent : α)
    (filtered : members.filter (fun found => found.1 == key) = member key write value)
    (reads : ∀ value, decode (write value) = some value) :
    defaulted? decode absent key members = some (value.getD absent) := by
  rw [defaulted?, field?, filtered]
  cases value with
  | none => rfl
  | some value => exact reads value

theorem forall_member {α : Type} {P : Json → Prop} {key : String} {write : α → Json}
    {value : Option α} (written : ∀ value, P (write value)) :
    ∀ found ∈ member key write value, P found.2 := by
  cases value with
  | none => simp [member]
  | some value =>
    intro found inMember
    rw [List.mem_singleton.mp inMember]
    exact written value

end Json

namespace Choice

theorem ofJson_toJson (choice : Choice) : ofJson? choice.toJson = some choice := by
  cases choice with
  | one value => rfl
  | many values =>
    have read := Json.toStrings_strings values
    simp only [toJson, Json.strings] at read ⊢
    rw [ofJson?, read]
    · rfl
    · intro text same
      cases same

theorem toJson_ne_null (choice : Choice) : choice.toJson ≠ .null := by
  cases choice <;> simp [toJson, Json.strings]

end Choice

namespace FilterSet

def nonempty? (tags : List String) : Option (List String) :=
  if tags.isEmpty then none else some tags

theorem tagsMember_eq (name : FilterName) (tags : List String) :
    tagsMember name tags = Json.member name.text Json.strings (nonempty? tags) := by
  cases tags <;> rfl

theorem getD_nonempty (tags : List String) : (nonempty? tags).getD [] = tags := by
  cases tags <;> rfl

theorem text_inj {first second : FilterName} (same : first.text = second.text) :
    first = second := by
  have found := FilterName.ofText?_text first
  rw [same, FilterName.ofText?_text] at found
  exact (Option.some.inj found).symm

theorem filter_named {α : Type} (name sought : FilterName) (write : α → Json)
    (value : Option α) : (Json.member name.text write value).filter
        (fun found => found.1 == sought.text) =
      if name = sought then Json.member name.text write value else [] := by
  rw [Json.filter_member]
  by_cases same : name = sought
  · rw [if_pos same, if_pos (congrArg FilterName.text same)]
  · rw [if_neg same, if_neg fun equal => same (text_inj equal)]

def memberOf (filters : FilterSet) : FilterName → List (String × Json)
  | .tagsInclude => tagsMember .tagsInclude filters.tagsInclude
  | .tagsExclude => tagsMember .tagsExclude filters.tagsExclude
  | .inProject => Json.member FilterName.inProject.text .bool filters.inProject
  | .latDays => Json.member FilterName.latDays.text (fun days => .int days.toNat) filters.latDays
  | .category => Json.member FilterName.category.text Choice.toJson filters.category
  | .format => Json.member FilterName.format.text Choice.toJson filters.format
  | .minRating => Json.member FilterName.minRating.text int64Json filters.minRating
  | .dateAddedStart => Json.member FilterName.dateAddedStart.text .string filters.dateAddedStart
  | .dateAddedEnd => Json.member FilterName.dateAddedEnd.text .string filters.dateAddedEnd
  | .lastViewedStart => Json.member FilterName.lastViewedStart.text .string filters.lastViewedStart
  | .lastViewedEnd => Json.member FilterName.lastViewedEnd.text .string filters.lastViewedEnd
  | .minFileSize => Json.member FilterName.minFileSize.text int64Json filters.minFileSize
  | .maxFileSize => Json.member FilterName.maxFileSize.text int64Json filters.maxFileSize

theorem toMembers_eq (filters : FilterSet) :
    filters.toMembers = FilterName.all.flatMap filters.memberOf := by
  simp only [FilterName.all, List.flatMap_cons, List.flatMap_nil, List.append_nil, memberOf,
    toMembers, List.append_assoc]

theorem filter_memberOf (filters : FilterSet) (name sought : FilterName) :
    (filters.memberOf name).filter (fun found => found.1 == sought.text) =
      if name = sought then filters.memberOf name else [] := by
  cases name <;> simp only [memberOf, tagsMember_eq, filter_named]

theorem filter_toMembers (filters : FilterSet) (sought : FilterName) :
    filters.toMembers.filter (fun found => found.1 == sought.text) = filters.memberOf sought := by
  simp only [toMembers_eq, FilterName.all, List.flatMap_cons, List.flatMap_nil, List.filter_append,
    filter_memberOf]
  cases sought <;> simp

theorem tags_read {filters : FilterSet} (name : FilterName) {tags : List String}
    (here : filters.memberOf name = tagsMember name tags) :
    Json.defaulted? Json.toStrings? [] name.text filters.toMembers = some tags := by
  have filtered := filter_toMembers filters name
  rw [here, tagsMember_eq] at filtered
  rw [Json.defaulted_member [] filtered Json.toStrings_strings, getD_nonempty]

theorem value_read {filters : FilterSet} {name : FilterName} {α : Type} {write : α → Json}
    {decode : Json → Option α} {value : Option α}
    (here : filters.memberOf name = Json.member name.text write value)
    (reads : ∀ value, decode (write value) = some value) (notNull : ∀ value, write value ≠ .null) :
    Json.optional? decode name.text filters.toMembers = some value := by
  have filtered := filter_toMembers filters name
  rw [here] at filtered
  exact Json.optional_member filtered reads notNull

theorem ofMembers_toMembers (filters : FilterSet) : ofMembers? filters.toMembers = some filters := by
  have text (name : FilterName) {value : Option String}
      (here : filters.memberOf name = Json.member name.text .string value) :
      Json.optional? Json.toString? name.text filters.toMembers = some value :=
    value_read here (fun _ => rfl) (by simp)
  have number (name : FilterName) {value : Option Int64}
      (here : filters.memberOf name = Json.member name.text int64Json value) :
      Json.optional? Json.toInt64? name.text filters.toMembers = some value :=
    value_read here Json.toInt64_int (by simp [int64Json])
  have choice (name : FilterName) {value : Option Choice}
      (here : filters.memberOf name = Json.member name.text Choice.toJson value) :
      Json.optional? Choice.ofJson? name.text filters.toMembers = some value :=
    value_read here Choice.ofJson_toJson Choice.toJson_ne_null
  have inProject : Json.optional? Json.toBool? FilterName.inProject.text filters.toMembers =
      some filters.inProject := value_read rfl (fun _ => rfl) (by simp)
  have latDays : Json.optional? Json.toUInt32? FilterName.latDays.text filters.toMembers =
      some filters.latDays := value_read rfl Json.toUInt32_int (by simp)
  rw [ofMembers?, tags_read .tagsInclude rfl, tags_read .tagsExclude rfl,
    inProject, latDays, choice .category rfl, choice .format rfl, number .minRating rfl,
    text .dateAddedStart rfl, text .dateAddedEnd rfl, text .lastViewedStart rfl,
    text .lastViewedEnd rfl, number .minFileSize rfl, number .maxFileSize rfl]
  rfl

theorem forall_toMembers {P : Json → Prop} (filters : FilterSet)
    (strings : ∀ texts, P (Json.strings texts)) (bool : ∀ value, P (.bool value))
    (days : ∀ n : UInt32, P (.int n.toNat)) (number : ∀ n : Int64, P (.int n.toInt))
    (text : ∀ text, P (.string text)) : ∀ found ∈ filters.toMembers, P found.2 := by
  have choice (choice : Choice) : P choice.toJson := by
    cases choice with
    | one value => exact text value
    | many values => exact strings values
  intro found inMembers
  rw [toMembers_eq] at inMembers
  obtain ⟨name, _, inName⟩ := List.mem_flatMap.mp inMembers
  cases name with
  | tagsInclude | tagsExclude =>
    rw [memberOf, tagsMember_eq] at inName
    exact Json.forall_member strings found inName
  | inProject => exact Json.forall_member bool found inName
  | latDays => exact Json.forall_member days found inName
  | category | format => exact Json.forall_member choice found inName
  | minRating | minFileSize | maxFileSize => exact Json.forall_member number found inName
  | dateAddedStart | dateAddedEnd | lastViewedStart | lastViewedEnd =>
    exact Json.forall_member text found inName

theorem toMembers_plain (filters : FilterSet) : ∀ found ∈ filters.toMembers, found.2.Plain :=
  forall_toMembers filters Json.plain_strings Json.Plain.bool Json.plain_uint32 Json.plain_int64
    Json.Plain.string

theorem ofJson_toJson (filters : FilterSet) : ofJson? filters.toJson = some filters := by
  have fields : Json.fieldsOf? fieldNames filters.toJson = some filters.toMembers := rfl
  rw [ofJson?, fields, Option.bind_eq_bind, Option.bind_some, ofMembers_toMembers]

theorem decode_encode (filters : FilterSet) : decode filters.encode = some filters := by
  rw [decode, encode, toJson, Json.readFields_compact fieldNames filters.toMembers_plain,
    Option.bind_eq_bind, Option.bind_some, ofMembers_toMembers]

def isAbsent (filters : FilterSet) : FilterName → Bool
  | .tagsInclude => filters.tagsInclude.isEmpty
  | .tagsExclude => filters.tagsExclude.isEmpty
  | .inProject => filters.inProject.isNone
  | .latDays => filters.latDays.isNone
  | .category => filters.category.isNone
  | .format => filters.format.isNone
  | .minRating => filters.minRating.isNone
  | .dateAddedStart => filters.dateAddedStart.isNone
  | .dateAddedEnd => filters.dateAddedEnd.isNone
  | .lastViewedStart => filters.lastViewedStart.isNone
  | .lastViewedEnd => filters.lastViewedEnd.isNone
  | .minFileSize => filters.minFileSize.isNone
  | .maxFileSize => filters.maxFileSize.isNone

theorem keys_memberOf (filters : FilterSet) (name : FilterName) :
    (filters.memberOf name).map Prod.fst = if filters.isAbsent name then [] else [name.text] := by
  have scalar {α : Type} (write : α → Json) (value : Option α) :
      (Json.member name.text write value).map Prod.fst =
        if value.isNone then [] else [name.text] := by
    cases value <;> rfl
  have tags (tags : List String) : (tagsMember name tags).map Prod.fst =
      if tags.isEmpty then [] else [name.text] := by
    cases tags <;> rfl
  cases name with
  | tagsInclude | tagsExclude => exact tags _
  | inProject | latDays | category | format | minRating | dateAddedStart | dateAddedEnd
  | lastViewedStart | lastViewedEnd | minFileSize | maxFileSize => exact scalar _ _

theorem keys_toMembers (filters : FilterSet) : filters.toMembers.map Prod.fst =
    (FilterName.all.filter fun name => !filters.isAbsent name).map FilterName.text := by
  rw [toMembers_eq]
  induction FilterName.all with
  | nil => rfl
  | cons name names ih =>
    rw [List.flatMap_cons, List.map_append, ih, keys_memberOf, List.filter_cons]
    cases filters.isAbsent name <;> rfl

/-- Every filter set reads back as itself from the text under which it is stored. The text is an
object that has a member for each filter that is there and for no other, so that no filters at all
are the empty object. -/
theorem encode_faithful (filters : FilterSet) :
    decode filters.encode = some filters ∧
      (∃ members, Json.read filters.encode = some (.object members) ∧
        members.map Prod.fst =
          (FilterName.all.filter fun name => !filters.isAbsent name).map FilterName.text) ∧
      ({} : FilterSet).encode = "\x7b\x7d" := by
  have read : Json.read filters.encode = some (.object filters.toMembers) :=
    Json.read_compact (.object filters.toMembers_plain)
  exact ⟨decode_encode filters, ⟨filters.toMembers, read, keys_toMembers filters⟩, rfl⟩

end FilterSet

end ModelCatalog
