import ModelCatalog.Proofs.Search.Membership

/-!
Which models the pages of a search show, and what a search by filters alone comes to.
-/

namespace ModelCatalog

theorem Query.parse_empty : parse "" = ⟨"", {}⟩ := by decide

theorem FilterSet.mergedWith_empty (filters : FilterSet) : filters.mergedWith {} = filters := rfl

namespace Store

theorem mem_idsOf_iff (store : Store) (present : Time.Instant) (plan : SearchPlan) (wanted : Wanted)
    (id : Int64) : id ∈ idsOf (store.listing present plan wanted) ↔
      ∃ row ∈ store.candidates present plan,
        (store.rankOf? wanted row).isSome = true ∧ Int64.ofNat row.model.id = id := by
  simp only [idsOf, listing, List.mem_map, List.mem_mergeSort, List.mem_filterMap]
  constructor
  · rintro ⟨found, ⟨row, member, ranked⟩, rfl⟩
    obtain ⟨rank, same, rfl⟩ := Option.map_eq_some_iff.mp ranked
    exact ⟨row, member, by rw [same]; rfl, rfl⟩
  · rintro ⟨row, member, ranked, rfl⟩
    obtain ⟨rank, same⟩ := Option.isSome_iff_exists.mp ranked
    exact ⟨⟨row, rank⟩, ⟨row, member, by rw [same]; rfl⟩, rfl⟩

section Showing

variable {store : Store} (reachable : store.Reachable) {present : Time.Instant} {plan : SearchPlan}
  {wanted : Wanted} {highlighter : Highlighter} {result : SearchResult}
  (shows : result.Shows highlighter (store.listing present plan wanted))
include reachable shows

theorem shown_total : result.totalCount.toNat = (store.listing present plan wanted).length := by
  rw [shows.total]
  exact countOf_ofNat (Nat.lt_of_le_of_lt (listing_length_le _ _ _ _) reachable.fits)

theorem shown_ids (start : result.offset = 0) (whole : result.totalCount ≤ result.limit) :
    result.items.map SearchItem.id = idsOf (store.listing present plan wanted) := by
  have fits : (store.listing present plan wanted).length < 2 ^ 63 :=
    Nat.lt_of_le_of_lt (listing_length_le _ _ _ _) reachable.fits
  have length := UInt64.le_iff_toNat_le.mp whole
  rw [shown_total reachable shows] at length
  exact shows.ids start fits length

end Showing

theorem exists_mem_window {α : Type} {limit : UInt64} {rows : List α} (fits : rows.length < 2 ^ 63)
    (row : α) : (∃ offset, row ∈ window limit offset rows) ↔ limit ≠ 0 ∧ row ∈ rows := by
  constructor
  · rintro ⟨offset, member⟩
    rw [window] at member
    constructor
    · rintro rfl
      have none : (0 : UInt64).toInt64.toInt.toNat = 0 := rfl
      rw [if_neg (by decide), none, List.take_zero] at member
      cases member
    · split at member
      · exact List.mem_of_mem_drop member
      · exact List.mem_of_mem_drop (List.mem_of_mem_take member)
  · rintro ⟨positive, member⟩
    obtain ⟨before, after, rfl⟩ := List.append_of_mem member
    rw [List.length_append] at fits
    have place : (UInt64.ofNat before.length).toNat = before.length := by
      rw [UInt64.toNat_ofNat']
      omega
    have start : (UInt64.ofNat before.length).toInt64.toInt.toNat = before.length := by
      rw [toInt_toInt64 (by omega), place, Int.toNat_natCast]
    refine ⟨UInt64.ofNat before.length, ?_⟩
    rw [window, start, List.drop_left]
    split
    next => exact List.mem_cons_self
    next notBelow =>
      have nonzero : limit.toInt64.toInt ≠ 0 :=
        fun zero => positive (congrArg Int64.toUInt64 (Int64.toInt_inj.mp zero))
      have notNegative : ¬limit.toInt64.toInt < 0 := Int64.lt_iff_toInt_lt.not.mp notBelow
      obtain ⟨more, shows⟩ : ∃ more, limit.toInt64.toInt.toNat = more + 1 :=
        ⟨limit.toInt64.toInt.toNat - 1, by omega⟩
      rw [shows, List.take_succ_cons]
      exact List.mem_cons_self

/-- The search shows the model on one of its pages. -/
def Finds (store : Store) (config : Config) (now present : Time.Instant) (query : String)
    (filters : Option FilterSet) (limit : Option UInt64) (id : Int64) : Prop :=
  ∃ offset result, (((engine config now present).search query filters limit offset).run store).1 =
    .ok result ∧ id ∈ result.items.map SearchItem.id

theorem finds_iff {store : Store} (reachable : store.Reachable) (config : Config)
    (now present : Time.Instant) (query : String) (filters : Option FilterSet)
    (limit : Option UInt64) (id : Int64) :
    let plan := (engine config now present).planOf query filters limit 0
    store.Finds config now present query filters limit id ↔
      ¬store.Refuses present plan ∧ config.clampLimit limit ≠ 0 ∧
        id ∈ idsOf (store.listing present plan (Engine.wanted query filters)) := by
  intro plan
  let rows := store.listing present plan (Engine.wanted query filters)
  have still (offset : UInt64) :
      store.candidates present ((engine config now present).planOf query filters limit offset) =
        store.candidates present plan :=
    store.candidates_congr present rfl rfl
  have refuses (offset : UInt64) :
      store.Refuses present ((engine config now present).planOf query filters limit offset) ↔
        store.Refuses present plan :=
    refuses_congr rfl (still offset) rfl rfl
  have listed (offset : UInt64) :
      store.listing present ((engine config now present).planOf query filters limit offset)
        (Engine.wanted query filters) = rows :=
    listing_congr rfl (still offset) _
  have fits : rows.length < 2 ^ 63 :=
    Nat.lt_of_le_of_lt (listing_length_le _ _ _ _) reachable.fits
  have ids {result : SearchResult} {highlighter : Highlighter}
      (shows : result.Shows highlighter rows) : result.items.map SearchItem.id =
        (window result.limit result.offset rows).map fun found => Int64.ofNat found.row.model.id := by
    rw [shows.items, List.map_map]
    rfl
  constructor
  · rintro ⟨offset, result, ran, member⟩
    obtain ⟨accepted, limitOf, -, shows⟩ := shows_of_search ran
    rw [refuses] at accepted
    rw [listed] at shows
    rw [ids shows, limitOf] at member
    obtain ⟨found, onPage, rfl⟩ := List.mem_map.mp member
    obtain ⟨positive, inRows⟩ := (exists_mem_window fits found).mp ⟨_, onPage⟩
    exact ⟨accepted, positive, List.mem_map_of_mem inRows⟩
  · rintro ⟨accepted, positive, member⟩
    obtain ⟨found, inRows, rfl⟩ := List.mem_map.mp member
    obtain ⟨offset, onPage⟩ := (exists_mem_window fits found).mpr ⟨positive, inRows⟩
    obtain ⟨result, ran, limitOf, offsetOf, shows⟩ := store.search_shows config now present query
      filters limit offset ((refuses offset).not.mpr accepted)
    rw [listed] at shows
    refine ⟨offset, result, ran, ?_⟩
    rw [ids shows, limitOf, offsetOf]
    exact List.mem_map_of_mem onPage

section Filters

variable (store : Store) (config : Config) (now present : Time.Instant) (filters : FilterSet)
  (limit : Option UInt64) (offset : UInt64)

def filterPlan : SearchPlan := ⟨"", filters, config.clampLimit limit, offset, now⟩

theorem planOf_filters : (engine config now present).planOf "" (some filters) limit offset =
    filterPlan config now filters limit offset := by
  have compiled : TextMatch.compile "" = "" := by decide
  rw [Engine.planOf, SearchPlan.ofQuery, Query.parse_empty, compiled]
  rfl

theorem asksNothing_filters : Engine.AsksNothing "" (some filters) ↔ filters.isEmpty = true := by
  rw [Engine.AsksNothing, Engine.mergedFilters, Query.parse_empty]
  simp [FilterSet.mergedWith_empty]

theorem wanted_filters (demands : filters.isEmpty = false) :
    Engine.wanted "" (some filters) = .everything := by
  have something : ¬Engine.AsksNothing "" (some filters) := by
    rw [asksNothing_filters, demands]
    exact Bool.false_ne_true
  rw [Engine.wanted, if_neg something, Query.parse_empty, TextMatch.wanted, if_pos]
  decide

theorem search_filters (demands : filters.isEmpty = false)
    (accepted : (filterPlan config now filters limit offset).refusal? = none) :
    ∃ result, (((engine config now present).search "" (some filters) limit offset).run store).1 =
        .ok result ∧
      result.limit = config.clampLimit limit ∧ result.offset = offset ∧
      result.Shows (config.highlighter "") (store.listing present
        (filterPlan config now filters limit offset) .everything) := by
  have shows := search_shows store config now present "" (some filters) limit offset
  rw [planOf_filters, wanted_filters filters demands] at shows
  exact shows (not_refuses accepted (.inl rfl))

end Filters

section Meeting

variable {store : Store} (reachable : store.Reachable) {present : Time.Instant}
include reachable

theorem mem_idsOf_everything (plan : SearchPlan) {row : CatalogRow} (member : row ∈ store.rows) :
    Int64.ofNat row.model.id ∈ idsOf (store.listing present plan .everything) ↔
      ∀ condition ∈ plan.conditions, condition.holds present row = true := by
  rw [mem_idsOf_iff]
  constructor
  · rintro ⟨other, candidate, -, same⟩
    obtain ⟨inTable, meets⟩ := List.mem_filter.mp candidate
    rw [row_eq_of_id reachable member inTable same.symm]
    exact List.all_eq_true.mp meets
  · intro meets
    exact ⟨row, List.mem_filter.mpr ⟨member, List.all_eq_true.mpr meets⟩, rfl, rfl⟩

theorem search_filters_ids (config : Config) (now : Time.Instant) {filters : FilterSet}
    (limit : Option UInt64) (demands : filters.isEmpty = false)
    (accepted : (filterPlan config now filters limit 0).refusal? = none) :
    ∃ result, (((engine config now present).search "" (some filters) limit 0).run store).1 =
        .ok result ∧
      (result.totalCount ≤ config.clampLimit limit → ∀ row ∈ store.rows,
        (Int64.ofNat row.model.id ∈ result.items.map SearchItem.id ↔
          ∀ condition ∈ filters.conditions now, condition.holds present row = true)) := by
  obtain ⟨result, ran, limitOf, offsetOf, shows⟩ :=
    search_filters store config now present filters limit 0 demands accepted
  refine ⟨result, ran, ?_⟩
  intro whole row member
  rw [shown_ids reachable shows offsetOf (limitOf ▸ whole)]
  exact mem_idsOf_everything reachable _ member

end Meeting

end Store

end ModelCatalog
