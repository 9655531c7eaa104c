import ModelCatalog.Catalog.Line
import ModelCatalog.Proofs.Filter.Codec

/-!
Catalog lines survive their JSON text, whatever texts and numbers they hold.
-/

namespace ModelCatalog

namespace Json

theorem toOption_orNull {α : Type} {decode : Json → Option α} {write : α → Json}
    (reads : ∀ value, decode (write value) = some value) (notNull : ∀ value, write value ≠ .null)
    (value : Option α) : toOption? decode (orNull write value) = some value := by
  cases value with
  | none => rfl
  | some value =>
    rw [orNull, toOption?, reads]
    · rfl
    · exact notNull value

theorem forall_orNull {α : Type} {P : Json → Prop} {write : α → Json} (null : P .null)
    (written : ∀ value, P (write value)) (value : Option α) : P (orNull write value) := by
  cases value with
  | none => exact null
  | some value => exact written value

end Json

namespace CatalogEntry

theorem ofMembers_toMembers (entry : CatalogEntry) : ofMembers? entry.toMembers = some entry := by
  have string (text : String) : Json.toString? (.string text) = some text := rfl
  have text (value : Option String) :
      Json.toOption? Json.toString? (Json.orNull .string value) = some value :=
    Json.toOption_orNull string (by simp) value
  have number (value : Option Int64) :
      Json.toOption? Json.toInt64? (Json.orNull (fun n => .int n.toInt) value) = some value :=
    Json.toOption_orNull Json.toInt64_int (by simp) value
  simp only [ofMembers?, toMembers, Json.required?, Json.optional?, Json.defaulted?, Json.field?]
  simp [Json.toStrings_strings, text, number, string]

theorem forall_toMembers {P : Json → Prop} (entry : CatalogEntry) (null : P .null)
    (text : ∀ text, P (.string text)) (number : ∀ n : Int64, P (.int n.toInt))
    (strings : ∀ texts, P (Json.strings texts)) : ∀ found ∈ entry.toMembers, P found.2 := by
  have optionalText := Json.forall_orNull null text
  have optionalNumber := Json.forall_orNull null number
  simp only [toMembers, List.forall_mem_cons, text, optionalText, optionalNumber, strings,
    true_and]
  simp

end CatalogEntry

namespace Json

theorem depth_object {members : List (String × Json)} {least : Nat}
    (shallow : ∀ member ∈ members, member.2.depth ≤ least) :
    (object members).depth ≤ least + 1 := by
  have inside : depthOfMembers members ≤ least := by
    induction members with
    | nil => exact Nat.zero_le least
    | cons member members ih =>
      obtain ⟨key, value⟩ := member
      have first := shallow (key, value) (by simp)
      have rest := ih fun member inRest => shallow member (List.mem_cons_of_mem _ inRest)
      exact Nat.max_le.mpr ⟨first, rest⟩
  rw [depth]
  omega

theorem depth_strings (texts : List String) : (strings texts).depth ≤ 1 := by
  have inside : depthOfItems (texts.map string) = 0 := by
    induction texts with
    | nil => rfl
    | cons text texts ih =>
      rw [List.map_cons, depthOfItems, ih]
      rfl
  have whole : (strings texts).depth = 1 := by rw [strings, depth, inside]
  exact Nat.le_of_eq whole

end Json

namespace CatalogLine

theorem toJson_plain (line : CatalogLine) : line.toJson.Plain := by
  cases line with
  | model entry =>
    apply Json.Plain.object
    have members := entry.forall_toMembers Json.Plain.null Json.Plain.string Json.plain_int64
      Json.plain_strings
    exact List.forall_mem_cons.mpr ⟨Json.Plain.string _, members⟩
  | savedSearch name query filters =>
    apply Json.Plain.object
    have members : filters.toJson.Plain := Json.Plain.object filters.toMembers_plain
    simp only [List.forall_mem_cons, Json.Plain.string, members, true_and]
    simp

theorem toJson_depth (line : CatalogLine) : line.toJson.depth ≤ greatestDepth := by
  cases line with
  | model entry =>
    have members := entry.forall_toMembers (P := fun value => value.depth ≤ 1)
      (Nat.zero_le 1) (fun _ => Nat.zero_le 1) (fun _ => Nat.zero_le 1) Json.depth_strings
    have all : ∀ found ∈ (typeName, Json.string modelType) :: entry.toMembers, found.2.depth ≤ 1 :=
      List.forall_mem_cons.mpr ⟨Nat.zero_le 1, members⟩
    exact Nat.le_trans (Json.depth_object all) (by decide)
  | savedSearch name query filters =>
    have members := filters.forall_toMembers (P := fun value => value.depth ≤ 1)
      Json.depth_strings (fun _ => Nat.zero_le 1) (fun _ => Nat.zero_le 1) (fun _ => Nat.zero_le 1)
      (fun _ => Nat.zero_le 1)
    have inner : filters.toJson.depth ≤ 2 := Json.depth_object members
    have string (text : String) : (Json.string text).depth ≤ 2 := Nat.zero_le 2
    have all : ∀ found ∈ [(typeName, Json.string savedSearchType), ("name", .string name),
        ("query", .string query), ("filters", filters.toJson)], found.2.depth ≤ 2 := by
      simp only [List.forall_mem_cons, string, inner, true_and]
      simp
    exact Nat.le_trans (Json.depth_object all) (by decide)

theorem decode_compact (line : CatalogLine) : decode line.toJson.compact = some line := by
  rw [decode, Json.read_compact line.toJson_plain]
  simp only [Option.bind_eq_bind, Option.bind_some, line.toJson_depth, if_true]
  cases line with
  | model entry =>
    have kept : ((typeName, Json.string modelType) :: entry.toMembers).filter
        (fun member => member.1 != typeName) = entry.toMembers := by
      simp [CatalogEntry.toMembers, typeName]
    have type : Json.required? Json.toString? typeName
        ((typeName, Json.string modelType) :: entry.toMembers) = some modelType := by
      simp [Json.required?, Json.field?, CatalogEntry.toMembers, typeName, Json.toString?]
    simp only [toJson, ofJson?, type, kept, Option.bind_eq_bind, Option.bind_some, ofMembers?,
      if_true, CatalogEntry.ofMembers_toMembers, Option.map_some]
  | savedSearch name query filters =>
    have differ : savedSearchType ≠ modelType := by decide
    simp [toJson, ofJson?, ofMembers?, Json.required?, Json.defaulted?, Json.field?, typeName,
      Json.toString?, differ, FilterSet.ofJson_toJson]

end CatalogLine

end ModelCatalog
