import ModelCatalog.Proofs.Filter.TagForms
import ModelCatalog.Proofs.Search.Filtering

/-!
Searching for a tag by its name. Whether the models that have the tag are found turns on its letters:
keywords keep those outside ASCII in the case in which they were written, and blanks that are no
blank, tab or line feed.
-/

namespace ModelCatalog

theorem soughtTag_lower {a b : List Char} (same : Text.lower a = Text.lower b) :
    soughtTag a = soughtTag b := by
  rw [soughtTag, soughtTag, same]

theorem soughtTag_trimmed (tag : String) :
    soughtTag (trimmed tag).toList = soughtTag tag.toList := by
  rw [trimmed, String.toList_ofList, soughtTag_trim]

theorem FilterSet.ofKinds_tag {tag : String} (sought : soughtTag tag.toList ≠ []) :
    ofKinds [.tagsInclude [tag]] = { tagsInclude := [trimmed tag] } ∧
      ofKinds [.tagsExclude [tag]] = { tagsExclude := [trimmed tag] } := by
  have visible : (trimmed tag).isEmpty = false := by
    rw [Bool.eq_false_iff, ne_eq, String.isEmpty_iff]
    intro blank
    rw [← soughtTag_trimmed, blank] at sought
    exact sought rfl
  have added : addTags [] [tag] = [trimmed tag] := by
    simp [addTags, addTag, visible]
  constructor
  · rw [ofKinds, List.foldl_cons, List.foldl_nil, insert, added]
  · rw [ofKinds, List.foldl_cons, List.foldl_nil, insert, added]

theorem soughtTag_ne_nil {piece : List Char} (visible : ∃ c ∈ piece, Text.isBlank c = false) :
    soughtTag piece ≠ [] := by
  intro none
  obtain ⟨c, inPiece, shown⟩ := visible
  have blank : ∀ d ∈ Text.lower piece, Text.isBlank d = true := by
    simpa [soughtTag, List.filter_eq_nil_iff] using none
  rw [Text.blank_of_lowerAfter blank c inPiece] at shown
  cases shown

namespace Store

theorem depth_lt (condition : Condition) : condition.depth < 89 := by
  fun_cases Condition.depth condition <;> omega

theorem filterPlan_condition (config : Config) {now : Time.Instant} {filters : FilterSet}
    (limit : Option UInt64) {condition : Condition} (only : filters.conditions now = [condition])
    (single : condition.fragment.params.length = 1) :
    filters.isEmpty = false ∧ (filterPlan config now filters limit 0).refusal? = none := by
  have demands : filters.isEmpty = false := by
    rw [Bool.eq_false_iff, ne_eq, ← FilterSet.conditions_eq_nil_iff filters now, only]
    simp
  have depths : (filterPlan config now filters limit 0).clauseDepths = [condition.depth] := by
    rw [SearchPlan.clauseDepths, SearchPlan.conditions]
    change _ ++ (filters.conditions now).map _ = _
    rw [only]
    rfl
  have bound : (filterPlan config now filters limit 0).count.params.length = 1 := by
    have conditions : (filterPlan config now filters limit 0).conditions = [condition] := only
    rw [SearchPlan.params_count_eq, conditions, List.flatMap_singleton]
    exact single
  refine ⟨demands, SearchPlan.refusal?_eq_none_iff _ |>.mpr ⟨?_, ?_⟩⟩
  · have shallow := depth_lt condition
    simp only [SearchPlan.isTooDeep, SearchPlan.depth, depths, SearchPlan.refusedDepth,
      SearchPlan.depthAfter, List.length_nil, decide_eq_false_iff_not]
    omega
  · rw [Sql.Fragment.bindsTooMany, SearchPlan.length_params_page, bound]
    rfl

section Searching

variable {store : Store} (reachable : store.Reachable) {present : Time.Instant}
include reachable

theorem search_condition (config : Config) (now : Time.Instant) {filters : FilterSet}
    (limit : Option UInt64) {condition : Condition} (only : filters.conditions now = [condition])
    (single : condition.fragment.params.length = 1) :
    ∃ result, (((engine config now present).search "" (some filters) limit 0).run store).1 =
        .ok result ∧
      (result.totalCount ≤ config.clampLimit limit → ∀ row ∈ store.rows,
        (Int64.ofNat row.model.id ∈ result.items.map SearchItem.id ↔
          condition.holds present row = true)) := by
  obtain ⟨demands, allowed⟩ := filterPlan_condition config limit only single
  obtain ⟨result, ran, shown⟩ := search_filters_ids reachable config now limit demands allowed
  refine ⟨result, ran, ?_⟩
  intro whole row member
  rw [shown whole row member, only, List.forall_mem_singleton]

theorem finds_condition (config : Config) (now : Time.Instant) {filters : FilterSet}
    (limit : Option UInt64) {condition : Condition} (only : filters.conditions now = [condition])
    (single : condition.fragment.params.length = 1) {row : CatalogRow} (member : row ∈ store.rows) :
    store.Finds config now present "" (some filters) limit (Int64.ofNat row.model.id) ↔
      config.clampLimit limit ≠ 0 ∧ condition.holds present row = true := by
  obtain ⟨demands, allowed⟩ := filterPlan_condition config limit only single
  have accepted : ¬store.Refuses present (filterPlan config now filters limit 0) :=
    not_refuses allowed (.inl rfl)
  have conditions : (filterPlan config now filters limit 0).conditions = [condition] := only
  have found := finds_iff reachable config now present "" (some filters) limit
    (Int64.ofNat row.model.id)
  dsimp only at found
  rw [planOf_filters, wanted_filters filters demands, mem_idsOf_everything reachable _ member,
    conditions, List.forall_mem_singleton] at found
  rw [found]
  exact and_iff_right accepted

/-- A tag of a model is sought under its own name, in any letter case. The model is among the models
with the tag, and not among those without it, exactly if what is sought is stored between two commas
of its keywords. The tag is stored there in its stored form, which is what is sought of it exactly if
each of its characters folds alike. -/
theorem search_by_tag {row : CatalogRow} (member : row ∈ store.rows) {keywords piece : List Char}
    (stored : row.keywords? = some keywords) (isTag : piece ∈ keywords.splitOn ',')
    (visible : ∃ c ∈ piece, Text.isBlank c = false) {tag : String}
    (named : Text.lower tag.toList = Text.lower piece) (config : Config) (now : Time.Instant)
    (limit : Option UInt64) :
    let search (kind : FilterKind) : Except SearchError SearchResult :=
      (((engine config now present).search "" (some (.ofKinds [kind])) limit 0).run store).1
    let Shows (result : SearchResult) : Prop :=
      Int64.ofNat row.model.id ∈ result.items.map SearchItem.id
    (∃ included excluded, search (.tagsInclude [tag]) = .ok included ∧
      search (.tagsExclude [tag]) = .ok excluded ∧
      (included.totalCount ≤ config.clampLimit limit →
        (Shows included ↔ soughtTag piece ∈ storedTags keywords)) ∧
      (excluded.totalCount ≤ config.clampLimit limit →
        (Shows excluded ↔ soughtTag piece ∉ storedTags keywords))) ∧
    storedTag piece ∈ storedTags keywords ∧
    (soughtTag piece = storedTag piece ↔ ∀ c ∈ piece, FoldsAlike c) := by
  intro search Shows
  have sought : soughtTag tag.toList = soughtTag piece := soughtTag_lower named
  have single : ',' ∉ soughtTag (trimmed tag).toList := by
    rw [soughtTag_trimmed, sought]
    exact comma_not_mem_soughtTag (delimiter_not_mem_splitOn isTag)
  have found : (Condition.tagged (Condition.needle (trimmed tag))).holds present row = true ↔
      soughtTag piece ∈ storedTags keywords := by
    rw [tagged_holds_iff single, soughtTag_trimmed, sought, stored]
    simp
  have seeks : soughtTag tag.toList ≠ [] := by
    rw [sought]
    exact soughtTag_ne_nil visible
  have includes : (FilterSet.ofKinds [.tagsInclude [tag]]).conditions now =
      [.tagged (Condition.needle (trimmed tag))] := by
    rw [(FilterSet.ofKinds_tag seeks).1]
    rfl
  have excludes : (FilterSet.ofKinds [.tagsExclude [tag]]).conditions now =
      [.untagged (Condition.needle (trimmed tag))] := by
    rw [(FilterSet.ofKinds_tag seeks).2]
    rfl
  refine ⟨?_, ?_, soughtTag_eq_storedTag_iff piece⟩
  · obtain ⟨included, ranIncluded, shownIncluded⟩ :=
      search_condition reachable config now limit includes rfl
    obtain ⟨excluded, ranExcluded, shownExcluded⟩ :=
      search_condition reachable config now limit excludes rfl
    refine ⟨included, excluded, ranIncluded, ranExcluded, ?_, ?_⟩
    · exact fun whole => (shownIncluded whole row member).trans found
    · intro whole
      refine (shownExcluded whole row member).trans ?_
      rw [untagged_holds, Bool.not_eq_true', Bool.eq_false_iff, ne_eq, found]
  · rw [storedTags_eq]
    exact List.mem_map_of_mem isTag

end Searching

/-- A tag of two words, under its name in capitals. -/
theorem search_by_tag_capitals :
    let now : Time.Instant := ⟨1700000000, 0⟩
    let vise : CatalogEntry :=
      { filename := "vise.stl", filePath := "/vise.stl", keywords := some "brass, Lathe parts" }
    let store := ({} : Store).after {} now now (.catalog (.upsert vise now))
    let search (kind : FilterKind) : Except SearchError SearchResult :=
      (((engine {} now now).search "" (some (.ofKinds [kind])) none 0).run store).1
    ∃ row ∈ store.rows, row.keywords? = some "brass, Lathe parts".toList ∧
      " Lathe parts".toList ∈ "brass, Lathe parts".toList.splitOn ',' ∧
      (∃ c ∈ " Lathe parts".toList, Text.isBlank c = false) ∧
      Text.lower " LATHE PARTS".toList = Text.lower " Lathe parts".toList ∧
      ∃ included excluded, search (.tagsInclude [" LATHE PARTS"]) = .ok included ∧
        search (.tagsExclude [" LATHE PARTS"]) = .ok excluded ∧
        (included.totalCount ≤ 100 → 1 ∈ included.items.map SearchItem.id) ∧
        (excluded.totalCount ≤ 100 → 1 ∉ excluded.items.map SearchItem.id) := by
  intro now vise store search
  have reachable : store.Reachable := .call .empty {} now now _ (by decide)
  let row : CatalogRow := ⟨⟨1, "vise.stl", none, "/vise.stl", none, "2023-11-14T22:13:20Z", none⟩,
    some ⟨1, none, none, some "brass, Lathe parts", none, none, none⟩, false⟩
  have rows : store.rows = [row] := by decide
  have member : row ∈ store.rows := by rw [rows]; exact List.mem_singleton_self row
  have stored : row.keywords? = some "brass, Lathe parts".toList := rfl
  have isTag : " Lathe parts".toList ∈ "brass, Lathe parts".toList.splitOn ',' := by decide
  have visible : ∃ c ∈ " Lathe parts".toList, Text.isBlank c = false := ⟨'L', by decide, by decide⟩
  have named : Text.lower " LATHE PARTS".toList = Text.lower " Lathe parts".toList := by
    decide
  have found : soughtTag " Lathe parts".toList ∈ storedTags "brass, Lathe parts".toList := by decide
  obtain ⟨⟨included, excluded, ran, ranExcluded, shown, shownExcluded⟩, -, -⟩ :=
    search_by_tag reachable member stored isTag visible named {} now none
  refine ⟨row, member, stored, isTag, visible, named, included, excluded, ran, ranExcluded, ?_, ?_⟩
  · exact fun whole => (shown whole).mpr found
  · exact fun whole shows => (shownExcluded whole).mp shows found

/-- A tag that begins with a letter outside ASCII in upper case: the model that has it is not among
the models with it, and is among those without it. -/
theorem tag_not_found :
    let now : Time.Instant := ⟨1700000000, 0⟩
    let vase : CatalogEntry :=
      { filename := "vase.stl", filePath := "/vase.stl", keywords := some "Été" }
    let store := ({} : Store).after {} now now (.catalog (.upsert vase now))
    let shown (kind : FilterKind) : Except SearchError (UInt64 × List Int64) :=
      (((engine {} now now).search "" (some (.ofKinds [kind])) none 0).run store).1.map
        fun result => (result.totalCount, result.items.map SearchItem.id)
    store.rows.map CatalogRow.keywords? = [some "Été".toList] ∧
      "Été".toList ∈ "Été".toList.splitOn ',' ∧
      shown (.tagsInclude ["Été"]) = .ok (0, []) ∧ shown (.tagsExclude ["Été"]) = .ok (1, [1]) := by
  intro now vase store shown
  refine ⟨by decide, by decide, ?_, ?_⟩
  · decide +kernel
  · decide +kernel

end Store

end ModelCatalog
