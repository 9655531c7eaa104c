import ModelCatalog.Proofs.Query.Tokens
import ModelCatalog.Proofs.Search.Pages

/-!
Membership in projects splits every search: what it finds is what it finds within projects and what
it finds outside of them.
-/

namespace ModelCatalog

namespace Query

def withProject (query : String) (value : Bool) : String :=
  query ++ if value then " inProject" else " !inProject"

def projectToken (value : Bool) : List Char :=
  if value then "inProject".toList else "!inProject".toList

theorem toList_withProject (query : String) (value : Bool) :
    (withProject query value).toList = query.toList ++ ' ' :: projectToken value := by
  cases value <;> simp [withProject, projectToken]

theorem projectToken_inner (value : Bool) : IsInner (projectToken value) where
  nonempty := by cases value <;> decide
  visible := by
    have shown : (projectToken value).all (fun c => !Text.isBlank c) = true := by
      cases value <;> decide
    intro c member
    simpa using List.all_eq_true.mp shown c member
  stillOpen := by cases value <;> decide

theorem ofToken?_projectToken (value : Bool) :
    Predicate.ofToken? (projectToken value) = some (.inProject value) := by
  cases value <;> decide

theorem tokens_withProject (query : String) (value : Bool) :
    tokens (withProject query value).toList = tokens query.toList ++ [projectToken value] := by
  rw [toList_withProject, tokens, tokensFrom_word (projectToken_inner value), tokens]

/-- A predicate at the end does not show in the text, and no connector stays before it. -/
theorem textTokens_predicate {last : List Char} {predicate : Predicate}
    (read : role last = .predicate predicate) (afterPlain : Bool) (tokens : List (List Char)) :
    textTokens afterPlain (tokens ++ [last]) = textTokens afterPlain tokens := by
  have begins (rest : List (List Char)) : beginsPlain (rest ++ [last]) = beginsPlain rest := by
    cases rest with
    | nil =>
      change (role last == .plain) = false
      rw [read]
      rfl
    | cons token rest => rfl
  induction tokens generalizing afterPlain with
  | nil => simp only [List.nil_append, textTokens, read]
  | cons token rest ih =>
    rw [List.cons_append, textTokens, textTokens, begins]
    simp only [ih]

theorem parse_withProject (query : String) (value : Bool) :
    parse (withProject query value) =
      { parse query with filters := { (parse query).filters with inProject := some value } } := by
  have read := ofToken?_projectToken value
  have isPredicate : role (projectToken value) = .predicate (.inProject value) := by
    rw [role, read]
  have last : predicates [projectToken value] = [.inProject value] := by
    rw [predicates, List.filterMap_cons_some read, List.filterMap_nil]
  rw [parse, parse, tokens_withProject, textTokens_predicate isPredicate, predicates,
    List.filterMap_append, List.foldl_append]
  change ParsedQuery.mk _ ((predicates [projectToken value]).foldl Predicate.addTo _) = _
  rw [last]
  rfl

theorem foldl_addTo_inProject {predicates : List Predicate}
    (others : ∀ value, .inProject value ∉ predicates) {filters : FilterSet}
    (isOpen : filters.inProject = none) :
    (predicates.foldl Predicate.addTo filters).inProject = none := by
  induction predicates generalizing filters with
  | nil => exact isOpen
  | cons predicate rest ih =>
    apply ih fun value member => others value (List.mem_cons_of_mem _ member)
    cases predicate with
    | inProject value => exact absurd List.mem_cons_self (others value)
    | latDays days => exact isOpen
    | tagInclude tag => exact isOpen
    | tagExclude tag => exact isOpen

/-- No token of the query says anything about projects. -/
def IsSilent (query : String) : Prop :=
  ∀ token ∈ tokens query.toList, ∀ value, Predicate.ofToken? token ≠ some (.inProject value)

instance (query : String) : Decidable (IsSilent query) :=
  inferInstanceAs (Decidable (∀ token ∈ tokens query.toList, ∀ value,
    Predicate.ofToken? token ≠ some (.inProject value)))

theorem IsSilent.inProject {query : String} (silent : IsSilent query) :
    (parse query).filters.inProject = none := by
  refine foldl_addTo_inProject ?_ rfl
  intro value member
  obtain ⟨token, inQuery, read⟩ := List.mem_filterMap.mp member
  exact silent token inQuery value read

end Query

/-! Filters with the demand. -/

namespace FilterSet

theorem mem_conditions_inProject {filters : FilterSet} (silent : filters.inProject = none)
    (value : Bool) (now : Time.Instant) (condition : Condition) :
    condition ∈ { filters with inProject := some value }.conditions now ↔
      condition ∈ filters.conditions now ∨ condition = .inProject value := by
  simp only [conditions, silent, List.mem_append, Option.toList_some, Option.toList_none,
    List.map_cons, List.map_nil, List.mem_singleton, List.not_mem_nil, or_false]
  grind

theorem params_inProject {filters : FilterSet} (silent : filters.inProject = none) (value : Bool)
    (now : Time.Instant) :
    ({ filters with inProject := some value }.conditions now).flatMap
        (fun condition : Condition => condition.fragment.params) =
      (filters.conditions now).flatMap fun condition => condition.fragment.params := by
  have none : (Condition.inProject value).fragment.params = [] := by cases value <;> rfl
  simp only [conditions, silent, List.flatMap_append, Option.toList_some, Option.toList_none,
    List.map_cons, List.map_nil, List.flatMap_singleton, none, List.append_nil]

theorem isEmpty_inProject (filters : FilterSet) (value : Bool) :
    { filters with inProject := some value }.isEmpty = false := by
  simp [isEmpty]

end FilterSet

namespace Engine

variable {σ : Type} (engine : Engine σ) (query : String) (filters : Option FilterSet)
  (limit : Option UInt64) (offset : UInt64)

theorem mergedFilters_withProject (value : Bool) :
    mergedFilters (Query.withProject query value) filters =
      { mergedFilters query filters with inProject := some value } := by
  rw [mergedFilters, Query.parse_withProject]
  rfl

theorem planOf_withProject (value : Bool) :
    engine.planOf (Query.withProject query value) filters limit offset =
      { engine.planOf query filters limit offset with
        filters := { mergedFilters query filters with inProject := some value } } := by
  rw [planOf, SearchPlan.ofQuery, Query.parse_withProject]
  rfl

variable {query filters}

theorem wanted_withProject (something : ¬AsksNothing query filters) (value : Bool) :
    wanted (Query.withProject query value) filters = wanted query filters := by
  have asks : ¬AsksNothing (Query.withProject query value) filters := by
    intro nothing
    have empty := nothing.2
    rw [mergedFilters_withProject, FilterSet.isEmpty_inProject] at empty
    cases empty
  rw [wanted, wanted, if_neg something, if_neg asks, Query.parse_withProject]

theorem mergedFilters_inProject (silent : Query.IsSilent query)
    (own : (filters.getD {}).inProject = none) : (mergedFilters query filters).inProject = none := by
  change (Query.parse query).filters.inProject.or _ = none
  rw [silent.inProject, own]
  rfl

end Engine

namespace Store

variable (store : Store) (present : Time.Instant)

/-- The plan with the demand on projects beside its other filters. -/
def splitPlan (plan : SearchPlan) (value : Bool) : SearchPlan :=
  { plan with filters := { plan.filters with inProject := some value } }

section Splitting

variable {plan : SearchPlan} (silent : plan.filters.inProject = none)
include silent

theorem candidates_split (value : Bool) : store.candidates present (splitPlan plan value) =
    (store.candidates present plan).filter fun row => row.inProject == value := by
  have more (condition : Condition) : condition ∈ (splitPlan plan value).conditions ↔
      condition ∈ plan.conditions ∨ condition = .inProject value :=
    FilterSet.mem_conditions_inProject silent value plan.now condition
  exact store.candidates_and present more

/-- What is listed is what is listed in projects and what is listed outside of them. -/
theorem listing_split (wanted : Wanted) : (store.listing present plan wanted).Perm
    (store.listing present (splitPlan plan true) wanted ++
      store.listing present (splitPlan plan false) wanted) := by
  let ranked (row : CatalogRow) : Option RankedRow :=
    (store.rankOf? wanted row).map fun rank => ⟨row, rank⟩
  have unsorted (plan : SearchPlan) : (store.listing present plan wanted).Perm
      ((store.candidates present plan).filterMap ranked) := List.mergeSort_perm _ _
  have outside : (store.candidates present plan).filter (fun row => row.inProject == false) =
      (store.candidates present plan).filter fun row => !(row.inProject == true) := by
    apply List.filter_congr
    intro row _
    cases row.inProject <;> rfl
  have parts := List.filter_append_perm (fun row : CatalogRow => row.inProject == true)
    (store.candidates present plan)
  rw [← outside, ← candidates_split store present silent,
    ← candidates_split store present silent] at parts
  calc
    (store.listing present plan wanted).Perm ((store.candidates present plan).filterMap ranked) :=
      unsorted plan
    List.Perm _ ((store.candidates present (splitPlan plan true) ++
        store.candidates present (splitPlan plan false)).filterMap ranked) :=
      (parts.filterMap ranked).symm
    _ = (store.candidates present (splitPlan plan true)).filterMap ranked ++
        (store.candidates present (splitPlan plan false)).filterMap ranked :=
      List.filterMap_append
    List.Perm _ (store.listing present (splitPlan plan true) wanted ++
        store.listing present (splitPlan plan false) wanted) :=
      ((unsorted _).append (unsorted _)).symm

theorem inProject_of_listed {wanted : Wanted} {value : Bool} {found : RankedRow}
    (listed : found ∈ store.listing present (splitPlan plan value) wanted) :
    found.row.inProject = value := by
  rw [listing, List.mem_mergeSort, candidates_split store present silent] at listed
  obtain ⟨row, member, ranked⟩ := List.mem_filterMap.mp listed
  obtain ⟨rank, _, rfl⟩ := Option.map_eq_some_iff.mp ranked
  exact eq_of_beq (List.mem_filter.mp member).2

theorem params_count_split (value : Bool) :
    (splitPlan plan value).count.params = plan.count.params := by
  have text : (splitPlan plan value).hasText = plan.hasText := rfl
  have expression : (splitPlan plan value).expression = plan.expression := rfl
  rw [SearchPlan.params_count_eq, SearchPlan.params_count_eq, text, expression]
  exact congrArg _ (FilterSet.params_inProject silent value plan.now)

/-- A text may be skipped where a page would bind too many values. It is skipped again with the demand
if some model is left. -/
theorem not_refuses_split (accepted : ¬store.Refuses present plan) {value : Bool}
    (shallow : (splitPlan plan value).isTooDeep = false)
    (found : (splitPlan plan value).page.bindsTooMany = true →
      store.candidates present (splitPlan plan value) ≠ []) :
    ¬store.Refuses present (splitPlan plan value) := by
  have counted : (splitPlan plan value).count.bindsTooMany = plan.count.bindsTooMany := by
    rw [Sql.Fragment.bindsTooMany, params_count_split silent, Sql.Fragment.bindsTooMany]
  have paged : (splitPlan plan value).page.bindsTooMany = plan.page.bindsTooMany := by
    rw [Sql.Fragment.bindsTooMany, SearchPlan.length_params_page, params_count_split silent,
      ← SearchPlan.length_params_page, Sql.Fragment.bindsTooMany]
  rintro (deep | many | ⟨many, asked⟩ | ⟨some, unread⟩)
  · rw [shallow] at deep
    cases deep
  · exact accepted (.inr (.inl (counted ▸ many)))
  · refine accepted (.inr (.inr (.inl ⟨paged ▸ many, ?_⟩)))
    rintro ⟨-, skipped⟩
    exact asked ⟨found many, skipped⟩
  · have rows : store.candidates present plan ≠ [] := by
      intro none
      rw [candidates_split store present silent, none] at some
      exact some rfl
    exact accepted (.inr (.inr (.inr ⟨rows, unread⟩)))

end Splitting

variable {store}

theorem row_eq_of_id (reachable : store.Reachable) {row other : CatalogRow}
    (member : row ∈ store.rows) (member' : other ∈ store.rows)
    (same : Int64.ofNat row.model.id = Int64.ofNat other.model.id) : row = other := by
  have tables := reachable.sound.tables
  have signed {row : CatalogRow} (member : row ∈ store.rows) : row.model.id < 2 ^ 63 :=
    Nat.lt_of_le_of_lt (row_id_le tables member) reachable.fits
  have numbers := congrArg Int64.toInt same
  rw [Int64.toInt_ofNat_of_lt (signed member), Int64.toInt_ofNat_of_lt (signed member')] at numbers
  exact eq_of_key_eq (fun row : CatalogRow => row.model.id) (rows_distinct tables) member member'
    (Int.ofNat.inj numbers)

def idsOf (rows : List RankedRow) : List Int64 :=
  rows.map fun found => Int64.ofNat found.row.model.id

theorem idsOf_split (reachable : store.Reachable) {plan : SearchPlan}
    (silent : plan.filters.inProject = none) (wanted : Wanted) :
    (∀ id ∈ idsOf (store.listing present (splitPlan plan true) wanted),
      id ∉ idsOf (store.listing present (splitPlan plan false) wanted)) ∧
    ∀ id, id ∈ idsOf (store.listing present plan wanted) ↔
      id ∈ idsOf (store.listing present (splitPlan plan true) wanted) ∨
        id ∈ idsOf (store.listing present (splitPlan plan false) wanted) := by
  have sound := reachable.sound
  have inTable {value : Bool} {found : RankedRow}
      (listed : found ∈ store.listing present (splitPlan plan value) wanted) :
      found.row ∈ store.rows :=
    (((listing_lists sound.tables sound.indexes present _ wanted).exact found).mp listed).1.1
  constructor
  · intro id inside outside
    obtain ⟨found, listed, rfl⟩ := List.mem_map.mp inside
    obtain ⟨other, listedOutside, same⟩ := List.mem_map.mp outside
    have sameRow := row_eq_of_id reachable (inTable listedOutside) (inTable listed) same
    have is := inProject_of_listed store present silent listed
    have isNot := inProject_of_listed store present silent listedOutside
    rw [sameRow, is] at isNot
    cases isNot
  · intro id
    have perm := (listing_split store present silent wanted).map fun found =>
      Int64.ofNat found.row.model.id
    rw [List.map_append] at perm
    exact perm.mem_iff.trans List.mem_append

end Store

theorem SearchResult.Shows.ids {result : SearchResult} {highlighter : Highlighter}
    {rows : List RankedRow} (shows : result.Shows highlighter rows) (start : result.offset = 0)
    (fits : rows.length < 2 ^ 63) (whole : rows.length ≤ result.limit.toNat) :
    result.items.map SearchItem.id = Store.idsOf rows := by
  rw [shows.items, start, window_start _ fits, List.take_of_length_le whole, List.map_map]
  rfl

namespace Store

variable {store : Store} (config : Config) (now present : Time.Instant) {query : String}
  {filters : Option FilterSet} (limit : Option UInt64) (offset : UInt64)

theorem search_withProject (silent : Query.IsSilent query)
    (own : (filters.getD {}).inProject = none) (something : ¬Engine.AsksNothing query filters)
    (accepted : ¬store.Refuses present
      ((engine config now present).planOf query filters limit offset)) {value : Bool}
    (shallow : ((engine config now present).planOf (Query.withProject query value) filters limit
      offset).isTooDeep = false)
    (left : ((engine config now present).planOf (Query.withProject query value) filters limit
        offset).page.bindsTooMany = true →
      store.candidates present ((engine config now present).planOf (Query.withProject query value)
        filters limit offset) ≠ []) :
    ∃ result, (((engine config now present).search (Query.withProject query value) filters limit
        offset).run store).1 = .ok result ∧
      result.limit = config.clampLimit limit ∧ result.offset = offset ∧
      result.Shows (config.highlighter (Query.withProject query value)) (store.listing present
        (splitPlan ((engine config now present).planOf query filters limit offset) value)
        (Engine.wanted query filters)) := by
  have none := Engine.mergedFilters_inProject silent own
  have split := Engine.planOf_withProject (engine config now present) query filters limit offset
    value
  change _ = splitPlan ((engine config now present).planOf query filters limit offset) value at split
  rw [split] at shallow left
  have shows := search_shows store config now present (Query.withProject query value) filters limit
    offset
  rw [split, Engine.wanted_withProject something] at shows
  exact shows (not_refuses_split store present none accepted shallow left)

/-- Every search splits into what it finds within projects and what it finds outside of them. A demand
on projects at the end of a query changes nothing else about what it says. It may be the one too many
of a statement; and where a page would bind too many values, so that only a text that is skipped can
be searched for, it may leave no model to skip the text for. -/
theorem search_splits {store : Store} (reachable : store.Reachable) (query : String) :
    (∀ value, Query.parse (Query.withProject query value) =
      { Query.parse query with
        filters := { (Query.parse query).filters with inProject := some value } }) ∧
    ∀ (config : Config) (now present : Time.Instant) (filters : Option FilterSet)
      (limit : Option UInt64) (offset : UInt64) (result : SearchResult),
      Query.IsSilent query → (filters.getD {}).inProject = none →
      ¬Engine.AsksNothing query filters →
      (((engine config now present).search query filters limit offset).run store).1 = .ok result →
      (∀ value, ((engine config now present).planOf (Query.withProject query value) filters limit
        offset).isTooDeep = false) →
      (∀ value, ((engine config now present).planOf (Query.withProject query value) filters limit
          offset).page.bindsTooMany = true →
        store.candidates present ((engine config now present).planOf (Query.withProject query value)
          filters limit offset) ≠ []) →
      ∃ inside outside,
        (((engine config now present).search (query ++ " inProject") filters limit offset).run
          store).1 = .ok inside ∧
        (((engine config now present).search (query ++ " !inProject") filters limit offset).run
          store).1 = .ok outside ∧
        result.totalCount.toNat = inside.totalCount.toNat + outside.totalCount.toNat ∧
        let ids (found : SearchResult) := found.items.map SearchItem.id
        (offset = 0 → result.totalCount ≤ config.clampLimit limit →
          (∀ id ∈ ids inside, id ∉ ids outside) ∧
          ∀ id, id ∈ ids result ↔ id ∈ ids inside ∨ id ∈ ids outside) := by
  refine ⟨Query.parse_withProject query, ?_⟩
  intro config now present filters limit offset result silent own something found shallow left
  let plan := (engine config now present).planOf query filters limit offset
  let rows := store.listing present plan (Engine.wanted query filters)
  let part (value : Bool) :=
    store.listing present (splitPlan plan value) (Engine.wanted query filters)
  have none : plan.filters.inProject = none := Engine.mergedFilters_inProject silent own
  obtain ⟨accepted, limitOf, offsetOf, shows⟩ := shows_of_search found
  obtain ⟨inside, ranInside, limitInside, offsetInside, showsInside⟩ :=
    search_withProject config now present limit offset silent own something accepted (shallow true)
      (left true)
  obtain ⟨outside, ranOutside, limitOutside, offsetOutside, showsOutside⟩ :=
    search_withProject config now present limit offset silent own something accepted
      (shallow false) (left false)
  have lengths : rows.length = (part true).length + (part false).length := by
    rw [(listing_split store present none _).length_eq, List.length_append]
  have fits (plan : SearchPlan) :
      (store.listing present plan (Engine.wanted query filters)).length < 2 ^ 63 :=
    Nat.lt_of_le_of_lt (listing_length_le store present plan _) reachable.fits
  have total : result.totalCount.toNat = rows.length := by
    rw [shows.total, countOf_ofNat (fits _)]
  refine ⟨inside, outside, ranInside, ranOutside, ?_, ?_⟩
  · rw [total, showsInside.total, showsOutside.total, countOf_ofNat (fits _),
      countOf_ofNat (fits _)]
    exact lengths
  · intro ids start whole
    have holds : rows.length ≤ (config.clampLimit limit).toNat := by
      rw [← total]
      exact UInt64.le_iff_toNat_le.mp whole
    have holdsInside : (part true).length ≤ (config.clampLimit limit).toNat := by omega
    have holdsOutside : (part false).length ≤ (config.clampLimit limit).toNat := by omega
    have all : ids result = idsOf rows :=
      shows.ids (offsetOf.trans start) (fits _) (limitOf.symm ▸ holds)
    have idsInside : ids inside = idsOf (part true) :=
      showsInside.ids (offsetInside.trans start) (fits _) (limitInside.symm ▸ holdsInside)
    have idsOutside : ids outside = idsOf (part false) :=
      showsOutside.ids (offsetOutside.trans start) (fits _) (limitOutside.symm ▸ holdsOutside)
    rw [all, idsInside, idsOutside]
    exact idsOf_split present reachable none _

/-- Two gears, of which one belongs to a project, and a query that ends with a connector. -/
theorem search_splits_gears :
    let now : Time.Instant := ⟨1700000000, 0⟩
    let gear : CatalogEntry :=
      { filename := "gear.stl", filePath := "/gear.stl", projects := ["clock"] }
    let spur : CatalogEntry := { filename := "spur.stl", filePath := "/spur.stl" }
    let store := (({} : Store).after {} now now (.catalog (.upsert gear now))).after {} now now
      (.catalog (.upsert spur now))
    let calls := engine {} now now
    store.Reachable ∧ Query.IsSilent "LAT>=9 or" ∧ ¬Engine.AsksNothing "LAT>=9 or" none ∧
      ∃ result inside outside, ((calls.search "LAT>=9 or" none none 0).run store).1 = .ok result ∧
        ((calls.search "LAT>=9 or inProject" none none 0).run store).1 = .ok inside ∧
        ((calls.search "LAT>=9 or !inProject" none none 0).run store).1 = .ok outside ∧
        result.totalCount.toNat = inside.totalCount.toNat + outside.totalCount.toNat := by
  intro now gear spur store calls
  have reachable : store.Reachable :=
    .call (.call .empty {} now now _ (by decide)) {} now now _ (by decide)
  have silent : Query.IsSilent "LAT>=9 or" := by decide
  have something : ¬Engine.AsksNothing "LAT>=9 or" none := by decide
  have shallow (value : Bool) : (calls.planOf (Query.withProject "LAT>=9 or" value) none none
      0).isTooDeep = false := by
    cases value <;> decide
  have few (value : Bool) : (calls.planOf (Query.withProject "LAT>=9 or" value) none none
      0).page.bindsTooMany ≠ true := by
    cases value <;> decide
  have accepted : ¬store.Refuses now (calls.planOf "LAT>=9 or" none none 0) :=
    not_refuses (by decide) (Or.inl (by decide))
  obtain ⟨result, found, _⟩ :=
    search_shows store {} now now "LAT>=9 or" none none 0 accepted
  obtain ⟨inside, outside, ranInside, ranOutside, total, _⟩ :=
    (search_splits reachable "LAT>=9 or").2 {} now now none none 0 result silent rfl something
      found shallow fun value many => absurd many (few value)
  exact ⟨reachable, silent, something, result, inside, outside, found, ranInside, ranOutside, total⟩

/-- Sixty-one tags nest as deeply as a statement may, so that one more demand is one too many. A text
that is skipped is no longer so with a demand that leaves no model, and so many formats are too many
values for a page. -/
theorem search_not_split :
    let now : Time.Instant := ⟨1700000000, 0⟩
    let filters : FilterSet := { tagsInclude := List.replicate 61 "a" }
    let part : CatalogEntry := { filename := "part.stl", filePath := "/a", format := some "stl" }
    let store := ({} : Store).after {} now now (.catalog (.upsert part now))
    let formats : FilterSet := { format := some (.many (List.replicate 32763 "stl")) }
    let calls := engine {} now now
    (Reachable {} ∧ Query.IsSilent "" ∧ filters.inProject = none ∧
      ¬Engine.AsksNothing "" (some filters) ∧
      (∃ result, ((calls.search "" (some filters) none 0).run {}).1 = .ok result) ∧
      ∃ error, ((calls.search " inProject" (some filters) none 0).run {}).1 = .error error) ∧
    store.Reachable ∧ Query.IsSilent "(" ∧ formats.inProject = none ∧
      ¬Engine.AsksNothing "(" (some formats) ∧
      (∃ result, ((calls.search "(" (some formats) none 0).run store).1 = .ok result) ∧
      ∃ error, ((calls.search "( inProject" (some formats) none 0).run store).1 = .error error := by
  intro now filters part store formats calls
  constructor
  · have silent : Query.IsSilent "" := by decide
    have accepted : ¬Refuses {} now (calls.planOf "" (some filters) none 0) :=
      not_refuses (by decide +kernel) (Or.inl (by decide +kernel))
    have refused : Refuses {} now (calls.planOf " inProject" (some filters) none 0) :=
      Or.inl (by decide +kernel)
    obtain ⟨result, found, _⟩ := search_shows {} {} now now "" (some filters) none 0 accepted
    exact ⟨.empty, silent, rfl, by decide, ⟨result, found⟩,
      search_refused {} {} now now " inProject" (some filters) none 0 refused⟩
  · have reachable : store.Reachable := .call .empty {} now now _ (by decide)
    have silent : Query.IsSilent "(" := by decide
    have nonempty : List.replicate 32763 "stl" ≠ [] := List.cons_ne_nil _ _
    let plan := calls.planOf "(" (some formats) none 0
    have expression : plan.expression = "(" := by decide
    have read : TextMatch.parseExpression "(" = .error .malformed := rfl
    have few : plan.count.params.length = 32765 := by
      have hasText : plan.hasText = true := by rw [SearchPlan.hasText, expression]; rfl
      rw [SearchPlan.length_params_of_formats nonempty rfl, hasText, List.length_replicate]
      rfl
    have skips : store.Skips now plan := by
      refine ⟨by decide +kernel, ?_, ?_, ?_⟩
      · rw [expression]
        decide
      · rw [expression]
        decide
      · rw [expression, read]
        exact .inl rfl
    have accepted : ¬store.Refuses now plan := by
      rintro (deep | many | ⟨-, asked⟩ | ⟨-, limit⟩)
      · revert deep
        decide +kernel
      · rw [SearchPlan.bindsTooMany_iff, few] at many
        revert many
        decide
      · exact asked skips
      · rw [expression, read] at limit
        simp at limit
    have empty : store.candidates now (splitPlan plan true) = [] := by decide +kernel
    have many : (splitPlan plan true).page.bindsTooMany = true := by
      rw [SearchPlan.bindsTooMany_iff, SearchPlan.length_params_page, params_count_split rfl, few]
      decide
    have split : calls.planOf "( inProject" (some formats) none 0 = splitPlan plan true :=
      Engine.planOf_withProject calls "(" (some formats) none 0 true
    have refused : store.Refuses now (calls.planOf "( inProject" (some formats) none 0) := by
      rw [split]
      exact .inr (.inr (.inl ⟨many, fun skips => skips.1 empty⟩))
    obtain ⟨result, found, _⟩ := search_shows store {} now now "(" (some formats) none 0 accepted
    exact ⟨reachable, silent, rfl, by decide, ⟨result, found⟩,
      search_refused store {} now now "( inProject" (some formats) none 0 refused⟩

end Store

end ModelCatalog
