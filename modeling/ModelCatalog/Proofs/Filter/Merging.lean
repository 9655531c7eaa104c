import ModelCatalog.Proofs.Filter.Reordering
import ModelCatalog.Proofs.Text.Trimming
import ModelCatalog.Query.Parsed

/-!
Filters laid over filters. What is added to a list of tags is what the list does not have up to letter
case, each tag where it is first seen. So merging is associative for lists of any texts, and the tags of
merged filters stay as well-formed as those that queries, kinds and pairs give.
-/

namespace ModelCatalog

def HasTag (tags : List String) (tag : String) : Prop :=
  ∃ present ∈ tags, lowered present = lowered tag

instance (tags : List String) (tag : String) : Decidable (HasTag tags tag) :=
  inferInstanceAs (Decidable (∃ present ∈ tags, lowered present = lowered tag))

def IsNewTag (tags : List String) (tag : String) : Prop := tag ≠ "" ∧ ¬HasTag tags tag

instance (tags : List String) (tag : String) : Decidable (IsNewTag tags tag) :=
  inferInstanceAs (Decidable (_ ∧ _))

/-- Trimmed tags, none of them blank, and no two alike but for letter case. -/
structure AreTags (tags : List String) : Prop where
  trimmed : ∀ tag ∈ tags, trimmed tag = tag
  nonblank : ∀ tag ∈ tags, tag ≠ ""
  different : tags.Pairwise fun tag other => lowered tag ≠ lowered other

/-- The trimmed tags that are not among the first ones, each where it is first seen. -/
def newTags (tags more : List String) : List String :=
  ((more.map trimmed).filter fun tag => IsNewTag tags tag).eraseDupsBy fun tag other =>
    lowered tag == lowered other

section Adding

variable {tags : List String} {tag : String}

theorem hasTag_append {more : List String} :
    HasTag (tags ++ more) tag ↔ HasTag tags tag ∨ HasTag more tag := by
  simp only [HasTag, List.mem_append, or_and_right, exists_or]

theorem isNewTag_append {other : String} : IsNewTag (tags ++ [other]) tag ↔
    IsNewTag tags tag ∧ lowered tag ≠ lowered other := by
  simp only [IsNewTag, HasTag, List.mem_append, List.mem_singleton, or_and_right, exists_or,
    exists_eq_left, not_or, and_assoc, ne_eq, eq_comm (a := lowered other)]

theorem addTag_eq : addTag tags tag =
    if IsNewTag tags (trimmed tag) then tags ++ [trimmed tag] else tags := by
  have known : ((trimmed tag).isEmpty ||
      tags.any fun present => lowered present == lowered (trimmed tag)) = true ↔
        ¬IsNewTag tags (trimmed tag) := by
    simp [IsNewTag, HasTag, Decidable.imp_iff_not_or]
  rw [addTag]
  by_cases new : IsNewTag tags (trimmed tag)
  · rw [if_pos new, if_neg (mt known.mp (not_not.mpr new))]
  · rw [if_neg new, if_pos (known.mpr new)]

theorem newTags_cons (more : List String) : newTags tags (tag :: more) =
    if IsNewTag tags (trimmed tag) then
      trimmed tag :: newTags (tags ++ [trimmed tag]) more
    else newTags tags more := by
  have kept : ((more.map trimmed).filter fun other => IsNewTag tags other).filter
        (fun other => (lowered other == lowered (trimmed tag)) = false) =
      (more.map trimmed).filter fun other => IsNewTag (tags ++ [trimmed tag]) other := by
    rw [List.filter_filter]
    apply List.filter_congr
    intro other _
    rw [Bool.eq_iff_iff]
    simp [isNewTag_append, and_comm]
  rw [newTags, List.map_cons, List.filter_cons]
  simp only [decide_eq_true_eq]
  split
  next => rw [List.eraseDupsBy_cons, kept, newTags]
  next => rw [newTags]

theorem addTags_cons (more : List String) :
    addTags tags (tag :: more) = addTags (addTag tags tag) more := by
  rw [addTags, List.foldl_cons, addTags]

variable (tags) in
theorem addTags_eq (more : List String) : addTags tags more = tags ++ newTags tags more := by
  induction more generalizing tags with
  | nil => exact (List.append_nil tags).symm
  | cons tag more ih =>
    rw [addTags_cons, addTag_eq, newTags_cons]
    split
    next => rw [ih, List.append_assoc, List.singleton_append]
    next => exact ih tags

theorem addTag_areTags (areTags : AreTags tags) : AreTags (addTag tags tag) := by
  rw [addTag_eq]
  split
  next new =>
    refine ⟨?_, ?_, ?_⟩
    · simpa [or_imp, forall_and] using areTags.trimmed
    · simpa [or_imp, forall_and] using ⟨areTags.nonblank, new.1⟩
    · rw [List.pairwise_append]
      refine ⟨areTags.different, List.pairwise_singleton _ _, ?_⟩
      intro present member other added same
      rw [List.mem_singleton.mp added] at same
      exact new.2 ⟨present, member, same⟩
  next => exact areTags

theorem addTags_areTags (areTags : AreTags tags) (more : List String) :
    AreTags (addTags tags more) :=
  List.foldlRecOn more addTag areTags fun _ areTags _ _ => addTag_areTags areTags

theorem addTags_of_known {more : List String}
    (known : ∀ tag ∈ more, ¬IsNewTag tags (trimmed tag)) : addTags tags more = tags := by
  induction more with
  | nil => rfl
  | cons tag more ih =>
    obtain ⟨first, later⟩ := List.forall_mem_cons.mp known
    rw [addTags_cons, addTag_eq, if_neg first]
    exact ih later

end Adding

section Associating

theorem eq_empty_of_lowered {text : String} (empty : lowered text = "") : text = "" := by
  have inLower : Text.lower text.toList = [] := by simpa [lowered] using empty
  cases chars : text.toList with
  | nil => simpa using chars
  | cons c rest =>
    obtain ⟨front, stands, parts⟩ := Text.lowerAfter_cons [] c rest
    rw [chars, Text.lower, parts, List.append_eq_nil_iff] at inLower
    exact absurd inLower.1 stands.blank.1

theorem hasTag_addTags {tag : String} (nonblank : trimmed tag ≠ "") {more : List String}
    (added : tag ∈ more) (tags : List String) : HasTag (addTags tags more) (trimmed tag) := by
  induction more generalizing tags with
  | nil => cases added
  | cons first more ih =>
    rw [addTags_cons]
    rcases List.mem_cons.mp added with rfl | later
    · rw [addTags_eq, hasTag_append, addTag_eq]
      left
      split
      next => exact hasTag_append.mpr (.inr ⟨_, List.mem_singleton_self _, rfl⟩)
      next known => exact not_not.mp fun absent => known ⟨nonblank, absent⟩
    · exact ih later _

theorem addTags_newTags {known tags : List String}
    (covered : ∀ tag, IsNewTag tags (trimmed tag) → IsNewTag known (trimmed tag))
    (more : List String) : addTags tags (newTags known more) = addTags tags more := by
  induction more generalizing known tags with
  | nil => rfl
  | cons tag more ih =>
    rw [newTags_cons]
    split
    next =>
      rw [addTags_cons, addTags_cons, addTag_eq, trimmed_trimmed, ← addTag_eq]
      apply ih
      intro other new
      rw [isNewTag_append]
      rw [addTag_eq] at new
      split at new
      next => exact (isNewTag_append.mp new).imp_left (covered other)
      next present =>
        refine ⟨covered other new, fun same => present ⟨?_, ?_⟩⟩
        · rintro blank
          rw [blank] at same
          exact new.1 (eq_empty_of_lowered same)
        · rintro ⟨found, member, alike⟩
          exact new.2 ⟨found, member, alike.trans same.symm⟩
    next present =>
      rw [addTags_cons, addTag_eq, if_neg (mt (covered tag) present)]
      exact ih covered

theorem addTags_assoc (tags more later : List String) :
    addTags (addTags tags more) later = addTags tags (addTags more later) := by
  have covered (tag : String) (new : IsNewTag (addTags tags more) (trimmed tag)) :
      IsNewTag more (trimmed tag) := by
    refine ⟨new.1, ?_⟩
    rintro ⟨present, member, same⟩
    -- Alike but for letter case, the tag of the list is trimmed and not blank, and was added as it is.
    have isTrimmed := trimmed_of_lowered_eq same (trimmed_trimmed tag)
    have nonblank : trimmed present ≠ "" := by
      rw [isTrimmed]
      rintro rfl
      exact new.1 (eq_empty_of_lowered same.symm)
    obtain ⟨found, added, alike⟩ := hasTag_addTags nonblank member tags
    rw [isTrimmed] at alike
    exact new.2 ⟨found, added, alike.trans same⟩
  calc addTags (addTags tags more) later
    _ = addTags (addTags tags more) (newTags more later) := (addTags_newTags covered later).symm
    _ = addTags tags (more ++ newTags more later) := List.foldl_append.symm
    _ = addTags tags (addTags more later) := by rw [addTags_eq more later]

end Associating

namespace FilterSet

structure TagsWellFormed (filters : FilterSet) : Prop where
  included : AreTags filters.tagsInclude
  excluded : AreTags filters.tagsExclude

theorem tagsWellFormed_empty : TagsWellFormed {} := by
  constructor <;> constructor <;> simp

section Giving

variable {filters : FilterSet} (wellFormed : filters.TagsWellFormed)
include wellFormed

theorem insert_tagsWellFormed (kind : FilterKind) : (filters.insert kind).TagsWellFormed := by
  cases kind with
  | tagsInclude tags => exact ⟨addTags_areTags wellFormed.included tags, wellFormed.excluded⟩
  | tagsExclude tags => exact ⟨wellFormed.included, addTags_areTags wellFormed.excluded tags⟩
  | _ =>
    rw [insert]
    exact ⟨wellFormed.included, wellFormed.excluded⟩

theorem addTo_tagsWellFormed (predicate : Query.Predicate) :
    (predicate.addTo filters).TagsWellFormed := by
  cases predicate with
  | tagInclude tag => exact ⟨addTags_areTags wellFormed.included _, wellFormed.excluded⟩
  | tagExclude tag => exact ⟨wellFormed.included, addTags_areTags wellFormed.excluded _⟩
  | _ => exact ⟨wellFormed.included, wellFormed.excluded⟩

theorem mergedWith_tagsWellFormed (query : FilterSet) : (filters.mergedWith query).TagsWellFormed :=
  ⟨addTags_areTags wellFormed.included _, addTags_areTags wellFormed.excluded _⟩

theorem mergedWith_self : filters.mergedWith filters = filters := by
  have known {tags : List String} (areTags : AreTags tags) : addTags tags tags = tags := by
    apply addTags_of_known
    intro tag member new
    exact new.2 ⟨tag, member, by rw [areTags.trimmed tag member]⟩
  rw [mergedWith, known wellFormed.included, known wellFormed.excluded, Option.or_self,
    Option.or_self]

end Giving

theorem ofKinds_tagsWellFormed (kinds : List FilterKind) : (ofKinds kinds).TagsWellFormed :=
  List.foldlRecOn kinds insert tagsWellFormed_empty
    fun _ wellFormed kind _ => insert_tagsWellFormed wellFormed kind

theorem parse_tagsWellFormed (query : String) : (Query.parse query).filters.TagsWellFormed :=
  List.foldlRecOn (Query.predicates (Query.tokens query.toList)) Query.Predicate.addTo
    tagsWellFormed_empty fun _ wellFormed predicate _ => addTo_tagsWellFormed wellFormed predicate

theorem mergedWith_assoc (first second third : FilterSet) :
    (first.mergedWith second).mergedWith third = first.mergedWith (second.mergedWith third) := by
  simp only [mergedWith, addTags_assoc, Option.or_assoc]

/-- The tags of queries, kinds and pairs are well-formed, and so are those of filters that are laid over
well-formed ones: these stand first, as they are, and the new ones follow in the order in which they are
first seen. Merging is associative; laying filters over themselves changes nothing if their tags are
well-formed, laying no filters over them never does; and only tags, membership and recency ever
change. -/
theorem mergedWith_laws :
    (∀ query, (Query.parse query).filters.TagsWellFormed) ∧
    (∀ kinds, (ofKinds kinds).TagsWellFormed) ∧
    (∀ pairs filters, ofPairs pairs = .ok filters → filters.TagsWellFormed) ∧
    (∀ filters query : FilterSet, filters.TagsWellFormed →
      (filters.mergedWith query).TagsWellFormed) ∧
    (∀ filters query : FilterSet,
      (filters.mergedWith query).tagsInclude =
        filters.tagsInclude ++ newTags filters.tagsInclude query.tagsInclude ∧
      (filters.mergedWith query).tagsExclude =
        filters.tagsExclude ++ newTags filters.tagsExclude query.tagsExclude) ∧
    (∀ first second third : FilterSet, (first.mergedWith second).mergedWith third =
      first.mergedWith (second.mergedWith third)) ∧
    (∀ filters : FilterSet, filters.TagsWellFormed → filters.mergedWith filters = filters) ∧
    (∀ filters : FilterSet, filters.mergedWith {} = filters) ∧
    ∀ filters query : FilterSet,
      { filters.mergedWith query with
        tagsInclude := filters.tagsInclude, tagsExclude := filters.tagsExclude,
        inProject := filters.inProject, latDays := filters.latDays } = filters := by
  refine ⟨parse_tagsWellFormed, ofKinds_tagsWellFormed, ?ofPairs, ?merged, ?added, mergedWith_assoc,
    fun _ wellFormed => mergedWith_self wellFormed, fun _ => rfl, fun _ _ => rfl⟩
  case ofPairs =>
    intro pairs filters accepted
    obtain ⟨kinds, -, rfl⟩ := ofPairs_eq_ok_iff.mp accepted
    exact ofKinds_tagsWellFormed kinds
  case merged => exact fun filters query wellFormed => mergedWith_tagsWellFormed wellFormed query
  case added => exact fun filters query =>
    ⟨addTags_eq filters.tagsInclude query.tagsInclude, addTags_eq filters.tagsExclude query.tagsExclude⟩

/-- Tags of a caller and of a query, some of them alike but for letter case or blanks. The last letter of
a word in capitals is a final one in lower case. -/
theorem mergedWith_laws_final_sigma :
    let pairs := ["tag=Wood, ΟΔΟΣ ,wood", "format=stl"]
    let caller : FilterSet := { tagsInclude := ["Wood", "ΟΔΟΣ"], format := some (.one "stl") }
    let query : FilterSet := { tagsInclude := ["οδος", " Metal ", "metal"], inProject := some true }
    let merged : FilterSet :=
      { tagsInclude := ["Wood", "ΟΔΟΣ", "Metal"], inProject := some true,
        format := some (.one "stl") }
    ofPairs pairs = .ok caller ∧ caller.TagsWellFormed ∧ caller.mergedWith query = merged ∧
      merged.TagsWellFormed ∧ merged.mergedWith merged = merged := by
  intro pairs caller query merged
  obtain ⟨-, -, ofPairsLaw, mergedLaw, -, -, selfLaw, -⟩ := mergedWith_laws
  have accepted : ofPairs pairs = .ok caller := by decide +kernel
  have wellFormed : caller.TagsWellFormed := ofPairsLaw pairs caller accepted
  have laid : caller.mergedWith query = merged := by decide +kernel
  have stays : merged.TagsWellFormed := laid ▸ mergedLaw caller query wellFormed
  exact ⟨accepted, wellFormed, laid, stays, selfLaw merged stays⟩

end FilterSet

end ModelCatalog
