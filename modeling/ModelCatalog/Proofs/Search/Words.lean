import ModelCatalog.Proofs.Search.Filtering
import ModelCatalog.Proofs.TextMatch.Wording

/-!
Searching for plain words. A search finds the models that have all of the words, in their own texts or
in those of their metadata; in which order and how often the words are said does not matter, and more
words find less.
-/

namespace ModelCatalog

open Query (IsWording words)

/-- All of the words stand in the texts of the model itself, or all of them in those of its
metadata. -/
def CatalogRow.holdsWords (row : CatalogRow) (words : List (List Char)) : Bool :=
  TextMatch.holdsWords words (.ofEntry row.model.indexEntry) ||
    row.metadata.any fun metadata => TextMatch.holdsWords words (.ofEntry metadata.indexEntry)

theorem TextMatch.holdsWords_of_subset {fewer more : List (List Char)} (subset : fewer ⊆ more)
    {row : IndexRow} (holds : holdsWords more row = true) : holdsWords fewer row = true := by
  rw [holdsWords, List.all_eq_true] at holds ⊢
  exact fun word member => holds word (subset member)

theorem CatalogRow.holdsWords_of_subset {fewer more : List (List Char)} (subset : fewer ⊆ more)
    {row : CatalogRow} (holds : row.holdsWords more = true) : row.holdsWords fewer = true := by
  rw [holdsWords, Bool.or_eq_true, Option.any_eq_true] at holds ⊢
  rcases holds with inModel | ⟨metadata, isMetadata, inMetadata⟩
  · exact .inl (TextMatch.holdsWords_of_subset subset inModel)
  · exact .inr ⟨metadata, isMetadata, TextMatch.holdsWords_of_subset subset inMetadata⟩

namespace Engine

variable {query : String} (wording : IsWording query) (filters : Option FilterSet)
include wording

theorem mergedFilters_wording : mergedFilters query filters = filters.getD {} := by
  rw [mergedFilters, wording.parse_eq, FilterSet.mergedWith_empty]

theorem asksNothing_wording :
    AsksNothing query filters ↔ words query = [] ∧ (filters.getD {}).isEmpty = true := by
  have noText : (Query.parse query).freeText = "" ↔ words query = [] := by
    rw [wording.parse_eq, ← String.toList_inj, String.toList_ofList]
    constructor
    · intro empty
      calc words query
        _ = words (Query.saying (words query)) := (Query.words_saying wording).symm
        _ = [] := congrArg Text.words empty
    · intro empty
      rw [empty]
      rfl
  rw [AsksNothing, noText, mergedFilters_wording wording]

theorem hasText_wording {σ : Type} (engine : Engine σ) (limit : Option UInt64) (offset : UInt64) :
    (engine.planOf query filters limit offset).hasText = !(words query).isEmpty := by
  have compiled : (engine.planOf query filters limit offset).expression =
      TextMatch.compile (Query.saying (words query)) := by
    rw [Engine.planOf, SearchPlan.ofQuery, wording.parse_eq]
  rw [SearchPlan.hasText, compiled, Bool.eq_iff_iff, Bool.not_eq_true', Bool.not_eq_true',
    String.isEmpty_eq_false_iff, List.isEmpty_eq_false_iff]
  exact (TextMatch.compile_words_eq_empty_iff wording).not

theorem filters_wording {σ : Type} (engine : Engine σ) (limit : Option UInt64) (offset : UInt64) :
    (engine.planOf query filters limit offset).filters = filters.getD {} :=
  mergedFilters_wording wording filters

end Engine

namespace Store

section Wording

variable {store : Store} (reachable : store.Reachable) (config : Config) (now present : Time.Instant)
  {query : String} (wording : IsWording query) (filters : Option FilterSet) (limit : Option UInt64)

include reachable wording in
theorem rankOf_wording {row : CatalogRow} (member : row ∈ store.rows) :
    (store.rankOf? (Engine.wanted query filters) row).isSome = true ↔
      ¬Engine.AsksNothing query filters ∧ row.holdsWords (words query) = true := by
  by_cases nothing : Engine.AsksNothing query filters
  · simp [Engine.wanted, nothing, rankOf?]
  · have compiled := congrArg TextMatch.compile (congrArg ParsedQuery.freeText wording.parse_eq)
    rw [Engine.wanted, if_neg nothing, TextMatch.wanted, compiled]
    simp only [nothing, not_false_eq_true, true_and]
    by_cases none : words query = []
    · rw [if_pos ((TextMatch.compile_words_eq_empty_iff wording).mpr none), none]
      simp [rankOf?, CatalogRow.holdsWords, TextMatch.holdsWords]
    · obtain ⟨expression, read, isAll⟩ := TextMatch.parseExpression_words wording none
      have ranked := rank_eq_some_iff reachable.sound.tables reachable.sound.indexes member expression
      rw [if_neg ((TextMatch.compile_words_eq_empty_iff wording).not.mpr none), read, rankOf?,
        Option.isSome_iff_exists]
      simp only [ranked, exists_and_left, exists_eq, and_true]
      simp only [CatalogRow.isMatch, isAll, CatalogRow.holdsWords]

include wording in
theorem readable_wording (offset : UInt64) :
    ((engine config now present).planOf query filters limit offset).expression = "" ∨
      ∃ expression, TextMatch.parseExpression
        ((engine config now present).planOf query filters limit offset).expression =
          .ok expression := by
  change TextMatch.compile (Query.parse query).freeText = "" ∨
    ∃ expression, TextMatch.parseExpression (TextMatch.compile (Query.parse query).freeText) =
      .ok expression
  rw [wording.parse_eq]
  by_cases none : words query = []
  · exact .inl ((TextMatch.compile_words_eq_empty_iff wording).mpr none)
  · obtain ⟨expression, read, -⟩ := TextMatch.parseExpression_words wording none
    exact .inr ⟨expression, read⟩

include wording in
theorem refuses_wording (offset : UInt64) :
    store.Refuses present ((engine config now present).planOf query filters limit offset) ↔
      ((engine config now present).planOf query filters limit offset).refusal? ≠ none :=
  refuses_iff_of_readable (readable_wording config now present wording filters limit offset)

include wording in
theorem search_wording_error {offset : UInt64} {error : SearchError}
    (failed : (((engine config now present).search query filters limit offset).run store).1 =
      .error error) :
    ((engine config now present).planOf query filters limit offset).refusal? = some error := by
  have refused : store.Refuses present
      ((engine config now present).planOf query filters limit offset) := by
    by_contra accepted
    obtain ⟨result, ran, -⟩ :=
      search_shows store config now present query filters limit offset accepted
    rw [ran] at failed
    cases failed
  have something : ¬Engine.AsksNothing query filters := by
    intro nothing
    rw [Engine.search_nothing _ query filters limit offset nothing] at failed
    cases failed
  obtain ⟨cause, told⟩ := Option.ne_none_iff_exists'.mp
    ((refuses_wording config now present wording filters limit offset).mp refused)
  obtain ⟨rows, found⟩ := found_of_readable store present
    (readable_wording config now present wording filters limit offset)
  have ran := runSearch_fails store present _ (Query.parse query)
    (SearchPlan.rejectsText_refusal told) (runPlan_refused store present _ told found)
  rw [Engine.search_value _ query filters limit offset something, engine_backend, ran] at failed
  exact told.trans (congrArg some (Except.error.inj failed))

end Wording

theorem listing_length (store : Store) (present : Time.Instant) (plan : SearchPlan)
    (wanted : Wanted) : (store.listing present plan wanted).length =
      (store.candidates present plan).countP fun row => (store.rankOf? wanted row).isSome := by
  rw [listing, List.length_mergeSort, List.length_filterMap_eq_countP]
  simp

section Narrowing

variable {store : Store} {config : Config} {now present : Time.Instant} {wide narrow : String}
  (filters : Option FilterSet) (limit : Option UInt64) (wideWording : IsWording wide)
  (narrowWording : IsWording narrow)

include wideWording narrowWording in
theorem sameFilters_wording {σ : Type} (engine : Engine σ) (offset : UInt64) :
    (engine.planOf wide filters limit offset).filters =
      (engine.planOf narrow filters limit offset).filters :=
  (Engine.filters_wording wideWording filters engine limit offset).trans
    (Engine.filters_wording narrowWording filters engine limit offset).symm

variable (more : words wide ⊆ words narrow)
include wideWording narrowWording more

theorem not_refuses_fewer {offset : UInt64}
    (accepted : ¬store.Refuses present
      ((engine config now present).planOf narrow filters limit offset)) :
    ¬store.Refuses present ((engine config now present).planOf wide filters limit offset) := by
  have same := sameFilters_wording filters limit wideWording narrowWording
    (engine config now present) offset
  have wideText := Engine.hasText_wording wideWording filters (engine config now present) limit
    offset
  have narrowText := Engine.hasText_wording narrowWording filters (engine config now present) limit
    offset
  rw [refuses_wording config now present narrowWording, ne_eq, Classical.not_not] at accepted
  rw [refuses_wording config now present wideWording, ne_eq, Classical.not_not]
  refine SearchPlan.refusal?_fewer same accepted fun text => ?_
  rw [wideText, Bool.not_eq_true', List.isEmpty_eq_false_iff] at text
  rw [narrowText, Bool.not_eq_true', List.isEmpty_eq_false_iff]
  exact fun empty => text (List.subset_nil.mp (empty ▸ more))

variable (reachable : store.Reachable)
  (something : Engine.AsksNothing wide filters → Engine.AsksNothing narrow filters)
include reachable something

theorem rankOf_fewer {row : CatalogRow} (member : row ∈ store.rows)
    (ranked : (store.rankOf? (Engine.wanted narrow filters) row).isSome = true) :
    (store.rankOf? (Engine.wanted wide filters) row).isSome = true := by
  rw [rankOf_wording reachable narrowWording filters member] at ranked
  rw [rankOf_wording reachable wideWording filters member]
  exact ⟨fun nothing => ranked.1 (something nothing), CatalogRow.holdsWords_of_subset more ranked.2⟩

/-- With more words a search counts no more models, unless it counted none because it asked for
nothing. -/
theorem totalCount_le {offset : UInt64} {found : SearchResult}
    (ran : (((engine config now present).search narrow filters limit offset).run store).1 =
      .ok found) :
    ∃ wider, (((engine config now present).search wide filters limit offset).run store).1 =
      .ok wider ∧ found.totalCount ≤ wider.totalCount := by
  obtain ⟨accepted, -, -, shows⟩ := shows_of_search ran
  obtain ⟨wider, ranWide, -, -, showsWide⟩ := search_shows store config now present wide filters limit
    offset (not_refuses_fewer filters limit wideWording narrowWording more accepted)
  have candidates := store.candidates_congr present (sameFilters_wording filters limit wideWording
    narrowWording (engine config now present) offset) rfl
  refine ⟨wider, ranWide, ?_⟩
  rw [UInt64.le_iff_toNat_le, shown_total reachable shows, shown_total reachable showsWide,
    listing_length, listing_length, candidates]
  apply List.countP_mono_left
  intro row candidate
  exact rankOf_fewer filters wideWording narrowWording more reachable something
    (List.mem_filter.mp candidate).1

theorem finds_fewer {id : Int64} (found : store.Finds config now present narrow filters limit id) :
    store.Finds config now present wide filters limit id := by
  obtain ⟨accepted, positive, listed⟩ :=
    (finds_iff reachable config now present narrow filters limit id).mp found
  have candidates := store.candidates_congr present (sameFilters_wording filters limit wideWording
    narrowWording (engine config now present) 0) rfl
  refine (finds_iff reachable config now present wide filters limit id).mpr
    ⟨not_refuses_fewer filters limit wideWording narrowWording more accepted, positive, ?_⟩
  rw [mem_idsOf_iff] at listed ⊢
  obtain ⟨row, candidate, ranked, same⟩ := listed
  refine ⟨row, by rwa [candidates], ?_, same⟩
  exact rankOf_fewer filters wideWording narrowWording more reachable something
    (List.mem_filter.mp candidate).1 ranked

end Narrowing

section Agreeing

variable {store : Store} (reachable : store.Reachable) {config : Config} {now present : Time.Instant}
  {query other : String} (filters : Option FilterSet) (limit : Option UInt64)
  (wording : IsWording query) (otherWording : IsWording other)
  (same : ∀ word, word ∈ words query ↔ word ∈ words other)

include wording otherWording same in
theorem asksNothing_congr :
    Engine.AsksNothing query filters ↔ Engine.AsksNothing other filters := by
  have none : words query = [] ↔ words other = [] := by
    simp only [List.eq_nil_iff_forall_not_mem, same]
  rw [Engine.asksNothing_wording wording, Engine.asksNothing_wording otherWording, none]

include reachable wording otherWording same in
theorem totalCount_congr (offset : UInt64) :
    (((engine config now present).search query filters limit offset).run store).1.map
        SearchResult.totalCount =
      (((engine config now present).search other filters limit offset).run store).1.map
        SearchResult.totalCount := by
  have asked := asksNothing_congr filters wording otherWording same
  have fewer : words query ⊆ words other := fun word => (same word).mp
  have back : words other ⊆ words query := fun word => (same word).mpr
  cases ran : (((engine config now present).search query filters limit offset).run store).1 with
  | ok result =>
    obtain ⟨alike, ranAlike, notMore⟩ :=
      totalCount_le filters limit otherWording wording back reachable asked.mpr ran
    obtain ⟨again, ranAgain, notLess⟩ :=
      totalCount_le filters limit wording otherWording fewer reachable asked.mp ranAlike
    obtain rfl : again = result := Except.ok.inj (ranAgain.symm.trans ran)
    rw [ranAlike, Except.map, Except.map, UInt64.le_antisymm notMore notLess]
  | error error =>
    cases ranOther : (((engine config now present).search other filters limit offset).run
        store).1 with
    | ok result =>
      obtain ⟨found, ranBack, -⟩ :=
        totalCount_le filters limit wording otherWording fewer reachable asked.mp ranOther
      cases ran.symm.trans ranBack
    | error otherError =>
      have text := Engine.hasText_wording wording filters (engine config now present) limit offset
      have otherText :=
        Engine.hasText_wording otherWording filters (engine config now present) limit offset
      have none : (words query).isEmpty = (words other).isEmpty := by
        rw [Bool.eq_iff_iff, List.isEmpty_iff, List.isEmpty_iff]
        simp only [List.eq_nil_iff_forall_not_mem, same]
      have refusals := SearchPlan.refusal?_congr
        (sameFilters_wording filters limit wording otherWording (engine config now present) offset)
        (text.trans (none ▸ otherText.symm))
      rw [search_wording_error config now present wording filters limit ran,
        search_wording_error config now present otherWording filters limit ranOther] at refusals
      rw [Option.some.inj refusals]

end Agreeing

/-- Plain words are an unordered conjunction, and every list of them is said by the text that blanks
make of it. Searches that say the same words, in any order, any number of times and with any blanks
around them, count as many models and find the same ones on their pages, or are refused alike. A
search that says more words finds only models that it finds with fewer, unless there are no words at
all and no filter that imposes anything: then nothing is asked for. -/
theorem words_conjoin {store : Store} (reachable : store.Reachable) (config : Config)
    (now present : Time.Instant) (filters : Option FilterSet) (limit : Option UInt64) :
    let outcome (query : String) (offset : UInt64) : Except SearchError SearchResult :=
      (((engine config now present).search query filters limit offset).run store).1
    let Finds (query : String) (id : Int64) : Prop :=
      store.Finds config now present query filters limit id
    (∀ list : List (List Char), (∀ word ∈ list, IsPlainWord word) →
      IsWording (Query.saying list) ∧ words (Query.saying list) = list) ∧
    ∀ query other, IsWording query → IsWording other →
      ((∀ word, word ∈ words query ↔ word ∈ words other) →
        (∀ offset, (outcome query offset).map SearchResult.totalCount =
          (outcome other offset).map SearchResult.totalCount) ∧
        ∀ id, Finds query id ↔ Finds other id) ∧
      (words query ⊆ words other → words query ≠ [] ∨ (filters.getD {}).isEmpty = false →
        (∀ offset found, outcome other offset = .ok found →
          ∃ wider, outcome query offset = .ok wider ∧ found.totalCount ≤ wider.totalCount) ∧
        ∀ id, Finds other id → Finds query id) := by
  intro outcome Finds
  refine ⟨?_, ?_⟩
  · intro list plain
    have said := Query.words_saying plain
    exact ⟨by rwa [IsWording, said], said⟩
  intro query other wording otherWording
  constructor
  · intro same
    have asked := asksNothing_congr filters wording otherWording same
    refine ⟨totalCount_congr reachable filters limit wording otherWording same, ?_⟩
    intro id
    constructor
    · exact finds_fewer filters limit otherWording wording (fun word => (same word).mpr) reachable
        asked.mpr
    · exact finds_fewer filters limit wording otherWording (fun word => (same word).mp) reachable
        asked.mp
  · intro more demands
    have something : Engine.AsksNothing query filters → Engine.AsksNothing other filters := by
      intro nothing
      obtain ⟨none, noFilters⟩ := (Engine.asksNothing_wording wording filters).mp nothing
      rw [none, noFilters] at demands
      simp at demands
    constructor
    · intro offset found
      exact totalCount_le filters limit wording otherWording more reachable something
    · intro id
      exact finds_fewer filters limit wording otherWording more reachable something

/-- The same words said in another order and once more, between other blanks. -/
theorem words_conjoin_gear :
    let now : Time.Instant := ⟨1700000000, 0⟩
    let gear : CatalogEntry := { filename := "brass gear.stl", filePath := "/gear.stl" }
    let store := ({} : Store).after {} now now (.catalog (.upsert gear now))
    let outcome (query : String) : Except SearchError SearchResult :=
      (((engine {} now now).search query none none 0).run store).1
    store.Reachable ∧ IsWording "brass gear" ∧ IsWording " gear  brass gear" ∧ IsWording "brass" ∧
      (∀ word, word ∈ words "brass gear" ↔ word ∈ words " gear  brass gear") ∧
      words "brass" ⊆ words "brass gear" ∧ words "brass" ≠ [] ∧
      (outcome "brass gear").map SearchResult.totalCount = .ok 1 ∧
      (outcome " gear  brass gear").map SearchResult.totalCount = .ok 1 ∧
      ∃ wider, outcome "brass" = .ok wider ∧ 1 ≤ wider.totalCount := by
  intro now gear store outcome
  have reachable : store.Reachable := .call .empty {} now now _ (by decide)
  have plain {list : List (List Char)}
      (listed : ∀ word ∈ list, word ∈ ["brass".toList, "gear".toList]) :
      ∀ word ∈ list, IsPlainWord word := by
    intro word member
    have two := listed word member
    simp only [List.mem_cons, List.not_mem_nil, or_false] at two
    rcases two with rfl | rfl
    · exact ⟨by decide, List.all_eq_true.mp (by decide), by decide, by decide⟩
    · exact ⟨by decide, List.all_eq_true.mp (by decide), by decide, by decide⟩
  have wording : IsWording "brass gear" := plain (by decide)
  have otherWording : IsWording " gear  brass gear" := plain (by decide)
  have fewerWording : IsWording "brass" := plain (by decide)
  have said : words "brass gear" = ["brass".toList, "gear".toList] := by decide
  have otherSaid : words " gear  brass gear" = ["gear".toList, "brass".toList, "gear".toList] := by
    decide
  have fewerSaid : words "brass" = ["brass".toList] := by decide
  have same : ∀ word, word ∈ words "brass gear" ↔ word ∈ words " gear  brass gear" := by
    intro word
    rw [said, otherSaid]
    simp [or_comm]
  have more : words "brass" ⊆ words "brass gear" := by
    rw [said, fewerSaid]
    simp
  have worded : words "brass" ≠ [] := by simp [fewerSaid]
  have counted : (outcome "brass gear").map SearchResult.totalCount = .ok 1 := by decide
  have conjoin := (words_conjoin reachable {} now now none none).2
  obtain ⟨counts, -⟩ := (conjoin _ _ wording otherWording).1 same
  obtain ⟨wider, -⟩ := (conjoin _ _ fewerWording wording).2 more (.inl worded)
  refine ⟨reachable, wording, otherWording, fewerWording, same, more, worded, counted, ?_, ?_⟩
  · exact (counts 0).symm.trans counted
  · cases ran : outcome "brass gear" with
    | error error =>
      rw [ran] at counted
      cases counted
    | ok found =>
      rw [ran] at counted
      obtain ⟨result, ranWider, notMore⟩ := wider 0 found ran
      exact ⟨result, ranWider, Except.ok.inj counted ▸ notMore⟩

/-- Without words and filters nothing is asked for, so that the first word adds a model. -/
theorem words_not_conjoined :
    let now : Time.Instant := ⟨1700000000, 0⟩
    let gear : CatalogEntry := { filename := "gear.stl", filePath := "/gear.stl" }
    let store := ({} : Store).after {} now now (.catalog (.upsert gear now))
    let shown (list : List (List Char)) : Except SearchError (UInt64 × List Int64) :=
      (((engine {} now now).search (Query.saying list) none none 0).run store).1.map
        fun result => (result.totalCount, result.items.map SearchItem.id)
    IsPlainWord "gear".toList ∧ shown ["gear".toList] = .ok (1, [1]) ∧ shown [] = .ok (0, []) := by
  intro now gear store shown
  refine ⟨?_, ?_, ?_⟩
  · exact ⟨by decide, List.all_eq_true.mp (by decide), by decide, by decide⟩
  · decide +kernel
  · decide

end Store

end ModelCatalog
