import ModelCatalog.Proofs.Search.Answer

/-!
Walking through the pages of a search. Each page is asked for at a moment of its own, at the offset
that the page before it names, and the store may change between two pages in all but its models.
-/

namespace ModelCatalog

namespace Store

def shelf (store : Store) : Store :=
  { store with history := [], nextHistoryId := 1, saved := [] }

def SameModels (before after : Store) : Prop := after.shelf = before.shelf

theorem SameCatalog.sameModels {before after : Store} (same : SameCatalog before after) :
    SameModels before after := by
  have shelves := congrArg shelf same
  exact shelves

theorem SameModels.trans {first second third : Store} (same : SameModels first second)
    (same' : SameModels second third) : SameModels first third :=
  Eq.trans same' same

theorem candidates_shelf (store : Store) (present : Time.Instant) (plan : SearchPlan) :
    store.shelf.candidates present plan = store.candidates present plan := rfl

theorem rankOf_shelf (store : Store) (wanted : Wanted) (row : CatalogRow) :
    store.shelf.rankOf? wanted row = store.rankOf? wanted row := by
  cases wanted <;> rfl

theorem candidates_congr (store : Store) (present : Time.Instant) {plan next : SearchPlan}
    (filters : next.filters = plan.filters) (now : next.now = plan.now) :
    store.candidates present next = store.candidates present plan := by
  rw [candidates, candidates, SearchPlan.conditions, SearchPlan.conditions, filters, now]

theorem candidates_and (store : Store) (present : Time.Instant) {plan other : SearchPlan}
    {condition : Condition}
    (more : ∀ c, c ∈ plan.conditions ↔ c ∈ other.conditions ∨ c = condition) :
    store.candidates present plan =
      (store.candidates present other).filter fun row => condition.holds present row := by
  rw [candidates, candidates, List.filter_filter]
  apply List.filter_congr
  intro row _
  rw [Bool.eq_iff_iff, Bool.and_eq_true, List.all_eq_true, List.all_eq_true]
  constructor
  · intro all
    exact ⟨all _ ((more _).mpr (Or.inr rfl)), fun c member => all c ((more c).mpr (Or.inl member))⟩
  · intro both c member
    rcases (more c).mp member with inOther | rfl
    · exact both.2 c inOther
    · exact both.1

theorem listing_congr {store other : Store} (same : SameModels store other)
    {present later : Time.Instant} {plan next : SearchPlan}
    (steady : store.candidates later next = store.candidates present plan) (wanted : Wanted) :
    other.listing later next wanted = store.listing present plan wanted := by
  have ranks (row : CatalogRow) : other.rankOf? wanted row = store.rankOf? wanted row := by
    rw [← rankOf_shelf other, same, rankOf_shelf]
  have rows : other.candidates later next = store.candidates present plan := by
    rw [← candidates_shelf other, same, candidates_shelf, steady]
  simp only [listing, ranks, rows]

theorem refuses_congr {store other : Store} (same : SameModels store other)
    {present later : Time.Instant} {plan next : SearchPlan}
    (steady : store.candidates later next = store.candidates present plan)
    (text : next.expression = plan.expression) (filters : next.filters = plan.filters) :
    other.Refuses later next ↔ store.Refuses present plan := by
  have rows : other.candidates later next = store.candidates present plan := by
    rw [← candidates_shelf other, same, candidates_shelf, steady]
  have hasText : next.hasText = plan.hasText := by
    rw [SearchPlan.hasText, SearchPlan.hasText, text]
  have shape := SearchPlan.shape_congr hasText filters
  rw [Refuses, Refuses, Skips, Skips, rows, SearchPlan.isTooDeep_congr hasText filters,
    SearchPlan.count_bindsTooMany_congr shape, SearchPlan.page_bindsTooMany_congr shape, text]

theorem listing_length_le (store : Store) (present : Time.Instant) (plan : SearchPlan)
    (wanted : Wanted) : (store.listing present plan wanted).length ≤ store.models.length := by
  rw [listing, List.length_mergeSort]
  calc
    _ ≤ (store.candidates present plan).length := List.length_filterMap_le _ _
    _ ≤ store.rows.length := List.length_filter_le _ _
    _ = store.models.length := List.length_map _

theorem Reachable.fits {store : Store} (reachable : store.Reachable) :
    store.models.length < 2 ^ 63 := by
  cases reachable with
  | empty => decide
  | call _ config now present call fits => exact fits

end Store

structure Moment where
  now : Time.Instant
  present : Time.Instant

/-- A search that is asked for page by page: the moment of each page, and what happens to the store
after it. -/
structure Walk where
  config : Config
  query : String
  filters : Option FilterSet
  limit : Option UInt64
  moments : Nat → Moment
  pause : Nat → Store → Store
  keeps : ∀ i store, Store.SameModels store (pause i store)

namespace Walk

variable (walk : Walk)

def length : Nat := (walk.config.clampLimit walk.limit).toNat

def engine (i : Nat) : Engine Store :=
  Store.engine walk.config (walk.moments i).now (walk.moments i).present

def plan (i : Nat) (offset : UInt64) : SearchPlan :=
  .ofQuery (Query.parse walk.query) (walk.filters.getD {}) (walk.config.clampLimit walk.limit)
    offset (walk.moments i).now

def ask (i : Nat) (offset : UInt64) : Session Store SearchResult :=
  (walk.engine i).search walk.query walk.filters walk.limit offset

/-- The pages from that number on, until one names no next one; nothing if so many calls are not
enough. -/
def pages : (calls : Nat) → (i : Nat) → (offset : UInt64) → Store →
    Option (Except SearchError (List SearchResult))
  | 0, _, _, _ => none
  | calls + 1, i, offset, store =>
    match (walk.ask i offset).run store with
    | (.error error, _) => some (.error error)
    | (.ok page, after) =>
      match page.nextOffset with
      | none => some (.ok [page])
      | some next =>
        (pages calls (i + 1) next (walk.pause i after)).map fun rest =>
          rest.map fun later => page :: later

def admitted (i : Nat) (store : Store) : List CatalogRow :=
  store.candidates (walk.moments i).present (walk.plan i 0)

theorem candidates_plan (i : Nat) (offset : UInt64) (store : Store) :
    store.candidates (walk.moments i).present (walk.plan i offset) = walk.admitted i store := by
  have filters : (walk.plan i offset).filters = (walk.plan i 0).filters := rfl
  have now : (walk.plan i offset).now = (walk.plan i 0).now := rfl
  exact store.candidates_congr _ filters now

/-- Time that passes between the pages does not change which models meet the conditions. -/
def IsSteady (store : Store) : Prop := ∀ i, walk.admitted i store = walk.admitted 0 store

def IsAccepted (i : Nat) (store : Store) : Prop :=
  ¬store.Refuses (walk.moments i).present (walk.plan i 0)

def listing (i : Nat) (store : Store) : List RankedRow :=
  store.listing (walk.moments i).present (walk.plan i 0) (Engine.wanted walk.query walk.filters)

theorem isAccepted_of_readable (accepted : (walk.plan 0 0).refusal? = none)
    (readable : (walk.plan 0 0).expression = "" ∨
      ∃ expression, TextMatch.parseExpression (walk.plan 0 0).expression = .ok expression)
    (i : Nat) (store : Store) : walk.IsAccepted i store := by
  have text : (walk.plan i 0).hasText = (walk.plan 0 0).hasText := rfl
  have filters : (walk.plan i 0).filters = (walk.plan 0 0).filters := rfl
  have still : (walk.plan i 0).refusal? = none :=
    (SearchPlan.refusal?_congr filters text).trans accepted
  exact Store.not_refuses still readable

theorem isSteady_of_isEmpty
    (noFilters : (Engine.mergedFilters walk.query walk.filters).isEmpty = true) (store : Store) :
    walk.IsSteady store := by
  have all (i : Nat) : walk.admitted i store = store.rows := by
    have none : (walk.plan i 0).conditions = [] :=
      (FilterSet.conditions_eq_nil_iff _ _).mpr noFilters
    simp [admitted, Store.candidates, none]
  exact fun i => (all i).trans (all 0).symm

def item (found : RankedRow) : SearchItem :=
  found.item.highlighted (walk.config.highlighter walk.query)

structure Shows (rows : List RankedRow) (offset : UInt64) (page : SearchResult) : Prop where
  total : page.totalCount.toNat = rows.length
  items : page.items = ((rows.drop offset.toNat).take walk.length).map walk.item
  offset : page.offset = offset

variable {walk} {store : Store}

theorem IsSteady.listing (steady : walk.IsSteady store) (i : Nat) :
    walk.listing i store = walk.listing 0 store :=
  Store.listing_congr rfl (steady i) _

theorem IsSteady.isAccepted (steady : walk.IsSteady store) (accepted : walk.IsAccepted 0 store)
    (i : Nat) : walk.IsAccepted i store := by
  rw [IsAccepted, Store.refuses_congr rfl (steady i) rfl rfl]
  exact accepted

/-- A call that is not refused succeeds, and shows its part of the listing. -/
theorem ask_shows {i : Nat} (accepted : walk.IsAccepted i store) (signed : walk.length < 2 ^ 63)
    (fits : (walk.listing i store).length < 2 ^ 63) {other : Store}
    (same : store.SameModels other) {offset : UInt64}
    (reached : offset.toNat ≤ (walk.listing i store).length) :
    ∃ page after, (walk.ask i offset).run other = (.ok page, after) ∧ store.SameModels after ∧
      walk.Shows (walk.listing i store) offset page := by
  have still : store.candidates (walk.moments i).present (walk.plan i offset) =
      store.candidates (walk.moments i).present (walk.plan i 0) :=
    (walk.candidates_plan i offset store).trans (walk.candidates_plan i 0 store).symm
  have allowed : ¬other.Refuses (walk.moments i).present (walk.plan i offset) := by
    rw [Store.refuses_congr same still rfl rfl]
    exact accepted
  have moved : store.SameModels ((walk.ask i offset).run other).2 :=
    same.trans (Store.search_sameCatalog walk.config _ _ walk.query walk.filters walk.limit offset
      other).sameModels
  obtain ⟨page, value, limit, start, shows⟩ := other.search_shows walk.config (walk.moments i).now
    (walk.moments i).present walk.query walk.filters walk.limit offset allowed
  have answered : ((walk.ask i offset).run other).1 = .ok page := value
  rcases ran : (walk.ask i offset).run other with ⟨outcome, after⟩
  rw [ran] at moved answered
  obtain rfl : outcome = .ok page := answered
  have listed : other.listing (walk.moments i).present (walk.plan i offset)
      (Engine.wanted walk.query walk.filters) = walk.listing i store :=
    Store.listing_congr same still _
  refine ⟨page, after, rfl, moved, ?_, ?_, start⟩
  · rw [shows.total]
    change (countOf (Int64.ofNat (other.listing _ (walk.plan i offset) _).length)).toNat = _
    rw [listed]
    exact countOf_ofNat fits
  · rw [shows.items, limit, start]
    change (window _ _ (other.listing _ (walk.plan i offset) _)).map _ = _
    rw [listed, window_eq signed (by omega)]
    rfl

section Stepping

variable {rows : List RankedRow} {offset : UInt64} {page : SearchResult}
  (shows : walk.Shows rows offset page) (fits : rows.length < 2 ^ 63)
  (reached : offset.toNat ≤ rows.length)
include shows

theorem Shows.items_length : page.items.length = min walk.length (rows.length - offset.toNat) := by
  rw [shows.items]
  simp

include fits reached

theorem Shows.next_toNat : (page.offset + UInt64.ofNat page.items.length).toNat =
    offset.toNat + page.items.length := by
  have length := shows.items_length
  rw [shows.offset, UInt64.toNat_add, UInt64.toNat_ofNat']
  omega

theorem Shows.nextOffset_eq :
    page.nextOffset =
      if 0 < page.items.length ∧ offset.toNat + page.items.length < rows.length then
        some (page.offset + UInt64.ofNat page.items.length)
      else none := by
  have goesOn : (!page.items.isEmpty &&
      decide (page.offset + UInt64.ofNat page.items.length < page.totalCount)) = true ↔
        0 < page.items.length ∧ offset.toNat + page.items.length < rows.length := by
    rw [Bool.and_eq_true, decide_eq_true_eq, UInt64.lt_iff_toNat_lt, shows.next_toNat fits reached,
      shows.total, Bool.not_eq_true', List.isEmpty_eq_false_iff, List.length_pos_iff]
  exact if_congr goesOn rfl rfl

theorem Shows.last (positive : 1 ≤ walk.length) (last : page.nextOffset = none) :
    page.items = (rows.drop offset.toNat).map walk.item := by
  have length := shows.items_length
  rw [shows.nextOffset_eq fits reached, ite_eq_right_iff] at last
  have ended : ¬(0 < page.items.length ∧ offset.toNat + page.items.length < rows.length) :=
    fun more => Option.some_ne_none _ (last more)
  rw [shows.items, List.take_of_length_le]
  rw [List.length_drop]
  omega

theorem Shows.next {next : UInt64} (more : page.nextOffset = some next) :
    offset.toNat < next.toNat ∧ next.toNat < rows.length ∧
      page.items ++ (rows.drop next.toNat).map walk.item =
        (rows.drop offset.toNat).map walk.item := by
  have length := shows.items_length
  have start := shows.next_toNat fits reached
  rw [shows.nextOffset_eq fits reached, Option.ite_none_right_eq_some] at more
  obtain ⟨⟨some, within⟩, same⟩ := more
  obtain rfl := Option.some.inj same
  have full : page.items.length = walk.length := by omega
  rw [start]
  refine ⟨by omega, by omega, ?_⟩
  calc page.items ++ (rows.drop (offset.toNat + page.items.length)).map walk.item
    _ = ((rows.drop offset.toNat).take walk.length).map walk.item ++
          ((rows.drop offset.toNat).drop walk.length).map walk.item := by
          rw [full, List.drop_drop, shows.items]
    _ = (rows.drop offset.toNat).map walk.item := by
          rw [← List.map_append, List.take_append_drop]

end Stepping

structure Gives (walk : Walk) (rows : List RankedRow) (i : Nat) (offset : UInt64) (store : Store)
    (pages : List SearchResult) : Prop where
  ends : ∀ calls, rows.length - offset.toNat < calls →
    walk.pages calls i offset store = some (.ok pages)
  totals : ∀ page ∈ pages, page.totalCount.toNat = rows.length
  items : pages.flatMap SearchResult.items = (rows.drop offset.toNat).map walk.item

/-- From every offset that is reached, the walk ends and shows all rows that are left. -/
theorem gives_pages (steady : walk.IsSteady store) (accepted : walk.IsAccepted 0 store)
    (positive : 1 ≤ walk.length) (signed : walk.length < 2 ^ 63)
    (fits : (walk.listing 0 store).length < 2 ^ 63) {other : Store}
    (same : store.SameModels other) (i : Nat) {offset : UInt64}
    (reached : offset.toNat ≤ (walk.listing 0 store).length) :
    ∃ pages, walk.Gives (walk.listing 0 store) i offset other pages := by
  -- What is left to show shrinks with every page that names a next one.
  induction left : (walk.listing 0 store).length - offset.toNat using Nat.strong_induction_on
    generalizing other i offset with
  | _ left ih =>
    have listed := steady.listing i
    obtain ⟨page, after, ran, kept, shows⟩ :=
      ask_shows (steady.isAccepted accepted i) signed (by rw [listed]; exact fits) same
        (by rw [listed]; exact reached)
    rw [listed] at shows
    cases more : page.nextOffset with
    | none =>
      refine ⟨[page], ?_, by simp [shows.total], ?_⟩
      · intro calls enough
        cases calls with
        | zero => omega
        | succ calls => simp only [pages, ran, more]
      · rw [List.flatMap_singleton]
        exact shows.last fits reached positive more
    | some next =>
      obtain ⟨onward, within, joined⟩ := shows.next fits reached more
      obtain ⟨rest, ends, totals, items⟩ := ih ((walk.listing 0 store).length - next.toNat)
        (by omega) (kept.trans (walk.keeps i after)) (i + 1) (by omega) rfl
      refine ⟨page :: rest, ?_, ?_, ?_⟩
      · intro calls enough
        cases calls with
        | zero => omega
        | succ calls =>
          simp only [pages, ran, more]
          rw [ends calls (by omega)]
          rfl
      · intro shown member
        rcases List.mem_cons.mp member with rfl | later
        · exact shows.total
        · exact totals shown later
      · rw [List.flatMap_cons, items, joined]

/-- Walking through the pages of a search ends; every page counts all rows that the search is after,
and the pages together show these rows in order, each model once. -/
theorem pages_listing (walk : Walk) {store : Store} (reachable : store.Reachable)
    (positive : 1 ≤ walk.length) (signed : walk.length < 2 ^ 63) (steady : walk.IsSteady store)
    (accepted : walk.IsAccepted 0 store) :
    ∃ rows pages,
      store.Lists (walk.moments 0).present (walk.plan 0 0) (Engine.wanted walk.query walk.filters)
        rows ∧
      (∀ calls, rows.length < calls → walk.pages calls 0 0 store = some (.ok pages)) ∧
      (∀ page ∈ pages, page.totalCount.toNat = rows.length) ∧
      pages.flatMap SearchResult.items = rows.map walk.item ∧
      ((pages.flatMap SearchResult.items).map SearchItem.id).Nodup := by
  have sound := reachable.sound
  have lists := Store.listing_lists sound.tables sound.indexes (walk.moments 0).present
    (walk.plan 0 0) (Engine.wanted walk.query walk.filters)
  have bounded := reachable.fits
  have fits : (walk.listing 0 store).length < 2 ^ 63 :=
    Nat.lt_of_le_of_lt (Store.listing_length_le _ _ _ _) bounded
  have start : (0 : UInt64).toNat ≤ (walk.listing 0 store).length := Nat.zero_le _
  obtain ⟨pages, ends, totals, items⟩ := gives_pages steady accepted positive signed fits
    (rfl : store.SameModels store) 0 start
  refine ⟨walk.listing 0 store, pages, lists, ?_, totals, items, ?_⟩
  · exact fun calls enough => ends calls (Nat.lt_of_le_of_lt (Nat.sub_le _ _) enough)
  · have ids : ((walk.listing 0 store).map walk.item).map SearchItem.id =
        (walk.listing 0 store).map fun found => Int64.ofNat found.row.model.id := by
      rw [List.map_map]
      rfl
    have small (found : RankedRow) (member : found ∈ walk.listing 0 store) :
        found.row.model.id < 2 ^ 63 :=
      Nat.lt_of_le_of_lt (Store.row_id_le sound.tables ((lists.exact found).mp member).1.1) bounded
    rw [items]
    change (((walk.listing 0 store).map walk.item).map SearchItem.id).Nodup
    rw [ids, List.Nodup, List.pairwise_map]
    refine (List.pairwise_map.mp lists.distinct).imp_of_mem ?_
    intro a b member member' different same
    have numbers := congrArg Int64.toInt same
    rw [Int64.toInt_ofNat_of_lt (small a member), Int64.toInt_ofNat_of_lt (small b member')]
      at numbers
    exact different (Int.ofNat.inj numbers)

/-- Two gears, of which one is asked for at a time while the clock goes on. -/
theorem pages_listing_gears :
    let now : Time.Instant := ⟨1700000000, 0⟩
    let gear : CatalogEntry := { filename := "gear.stl", filePath := "/gear.stl" }
    let spur : CatalogEntry := { gear with filePath := "/spur.stl", title := some "Spur gear" }
    let store := (({} : Store).after {} now now (.catalog (.upsert gear now))).after {} now now
      (.catalog (.upsert spur now))
    let walk : Walk :=
      { config := {}, query := "gear", filters := none, limit := some 1
        moments := fun i => ⟨⟨1700000000 + i, 0⟩, ⟨1700000000 + i, 0⟩⟩
        pause := fun _ store => { store with history := [] }
        keeps := fun _ _ => rfl }
    store.Reachable ∧ 1 ≤ walk.length ∧ walk.length < 2 ^ 63 ∧ walk.IsSteady store ∧
      walk.IsAccepted 0 store ∧
      ∃ rows pages,
        store.Lists (walk.moments 0).present (walk.plan 0 0)
          (Engine.wanted walk.query walk.filters) rows ∧
        (∀ calls, rows.length < calls → walk.pages calls 0 0 store = some (.ok pages)) ∧
        (∀ page ∈ pages, page.totalCount.toNat = rows.length) ∧
        pages.flatMap SearchResult.items = rows.map walk.item ∧
        ((pages.flatMap SearchResult.items).map SearchItem.id).Nodup := by
  intro now gear spur store walk
  have reachable : store.Reachable :=
    .call (.call .empty {} now now _ (by decide)) {} now now _ (by decide)
  have positive : 1 ≤ walk.length := by decide
  have signed : walk.length < 2 ^ 63 := by decide
  have steady : walk.IsSteady store := walk.isSteady_of_isEmpty (by decide) store
  have readable : ∃ expression,
      TextMatch.parseExpression (walk.plan 0 0).expression = .ok expression := by
    have read : (TextMatch.parseExpression (walk.plan 0 0).expression).toBool = true := by
      decide
    cases outcome : TextMatch.parseExpression (walk.plan 0 0).expression with
    | error error =>
      rw [outcome] at read
      cases read
    | ok expression => exact ⟨expression, rfl⟩
  have accepted : walk.IsAccepted 0 store :=
    walk.isAccepted_of_readable
      ((walk.plan 0 0).refusal?_eq_none_iff.mpr ⟨by decide, by decide⟩) (Or.inr readable) 0 store
  exact ⟨reachable, positive, signed, steady, accepted,
    pages_listing walk reachable positive signed steady accepted⟩

theorem pages_refused (walk : Walk) {store : Store}
    (refused : store.Refuses (walk.moments 0).present (walk.plan 0 0)) :
    ∃ error, ∀ calls, walk.pages (calls + 1) 0 0 store = some (.error error) := by
  obtain ⟨error, failed⟩ := store.search_refused walk.config (walk.moments 0).now
    (walk.moments 0).present walk.query walk.filters walk.limit 0 refused
  have answered : ((walk.ask 0 0).run store).1 = .error error := failed
  rcases ran : (walk.ask 0 0).run store with ⟨outcome, after⟩
  rw [ran] at answered
  obtain rfl : outcome = .error error := answered
  exact ⟨error, fun calls => by simp only [pages, ran]⟩

/-- Without text, a page counts the rows that meet the conditions at its moment: where time changes
their number between two pages, these count differently. -/
theorem pages_apart (walk : Walk) {store : Store} (reachable : store.Reachable)
    (wordless : Engine.wanted walk.query walk.filters = .everything)
    (accepted : ∀ i, walk.IsAccepted i store) (positive : 1 ≤ walk.length)
    (signed : walk.length < 2 ^ 63) (more : walk.length < (walk.admitted 0 store).length)
    (apart : (walk.admitted 0 store).length < (walk.admitted 1 store).length) :
    ∃ first second next after, (walk.ask 0 0).run store = (.ok first, after) ∧
      first.nextOffset = some next ∧
      ((walk.ask 1 next).run (walk.pause 0 after)).1 = .ok second ∧
      first.totalCount < second.totalCount := by
  have length (i : Nat) : (walk.listing i store).length = (walk.admitted i store).length := by
    rw [listing, wordless]
    exact Store.listing_everything_length store _ _
  have fits (i : Nat) : (walk.listing i store).length < 2 ^ 63 :=
    Nat.lt_of_le_of_lt (Store.listing_length_le _ _ _ _) reachable.fits
  have start : (0 : UInt64).toNat ≤ (walk.listing 0 store).length := Nat.zero_le _
  obtain ⟨first, after, ran, kept, shows⟩ :=
    ask_shows (accepted 0) signed (fits 0) (rfl : store.SameModels store) start
  have shown := shows.items_length
  have named := shows.nextOffset_eq (fits 0) start
  have skipped := shows.next_toNat (fits 0) start
  have zero : (0 : UInt64).toNat = 0 := rfl
  rw [zero, length 0] at shown
  rw [zero, length 0, if_pos (by omega)] at named
  rw [zero] at skipped
  obtain ⟨second, _, ranLater, _, showsLater⟩ :=
    ask_shows (accepted 1) signed (fits 1) (kept.trans (walk.keeps 0 after))
      (by rw [skipped, length 1]; omega : (first.offset + UInt64.ofNat first.items.length).toNat ≤ _)
  refine ⟨first, second, _, after, ran, named, by rw [ranLater], ?_⟩
  rw [UInt64.lt_iff_toNat_lt, shows.total, showsLater.total, length 0, length 1]
  exact apart

/-- A text of too many open groups is refused, and so are too many tags and too long a list of
formats; the pages of models not viewed for nine days count differently on two days. -/
theorem pages_not_whole :
    let now : Time.Instant := ⟨1700000000, 0⟩
    let later : Time.Instant := ⟨1700086400, 0⟩
    let viewed (path day : String) : StoreCall :=
      .catalog (.upsert { filename := "part.stl", filePath := path, lastViewed := some day } now)
    let store := ((({} : Store).after {} now now (viewed "/a" "2023-11-04T22:13:20Z")).after {} now
      now (viewed "/b" "2023-11-05T22:13:20Z")).after {} now now (viewed "/c" "2023-11-06T22:13:20Z")
    let crowded : Walk :=
      { config := {}, query := String.ofList (List.replicate 100 '('), filters := none
        limit := some 1, moments := fun _ => ⟨now, now⟩, pause := fun _ store => store
        keeps := fun _ _ => rfl }
    let tagged : Walk :=
      { config := {}, query := "", filters := some { tagsInclude := List.replicate 64 "a" }
        limit := some 1, moments := fun _ => ⟨now, now⟩, pause := fun _ store => store
        keeps := fun _ _ => rfl }
    let listed : Walk :=
      { config := {}, query := ""
        filters := some { format := some (.many (List.replicate 32765 "stl")) }
        limit := some 1, moments := fun _ => ⟨now, now⟩, pause := fun _ store => store
        keeps := fun _ _ => rfl }
    let overnight : Walk :=
      { config := {}, query := "", filters := some { latDays := some 9 }, limit := some 1
        moments := fun i => if i = 0 then ⟨now, now⟩ else ⟨later, later⟩
        pause := fun _ store => store, keeps := fun _ _ => rfl }
    store.Reachable ∧
      (∃ error, ∀ calls, crowded.pages (calls + 1) 0 0 store = some (.error error)) ∧
      (∃ error, ∀ calls, tagged.pages (calls + 1) 0 0 store = some (.error error)) ∧
      (∃ error, ∀ calls, listed.pages (calls + 1) 0 0 store = some (.error error)) ∧
      ∃ first second next after, (overnight.ask 0 0).run store = (.ok first, after) ∧
        first.nextOffset = some next ∧
        ((overnight.ask 1 next).run (overnight.pause 0 after)).1 = .ok second ∧
        first.totalCount < second.totalCount := by
  intro now later viewed store crowded tagged listed overnight
  have reachable : store.Reachable :=
    .call (.call (.call .empty {} now now _ (by decide)) {} now now _ (by decide)) {} now now _
      (by decide)
  have noText : (Query.parse "").freeText = "" := by decide
  have unworded (walk : Walk) (silent : walk.query = "") : (walk.plan 0 0).expression = "" := by
    change TextMatch.compile (Query.parse walk.query).freeText = _
    rw [silent, noText]
    rfl
  refine ⟨reachable, pages_refused crowded ?_, pages_refused tagged ?_, pages_refused listed ?_, ?_⟩
  · have some : crowded.admitted 0 store ≠ [] := by decide +kernel
    have tokens : Query.textTokens false (Query.tokens (List.replicate 100 '(')) =
        [List.replicate 100 '('] := by decide
    have freeText : (Query.parse crowded.query).freeText =
        String.ofList (List.replicate 100 '(') := by
      change (Query.parse (String.ofList (List.replicate 100 '('))).freeText = _
      rw [Query.parse, String.toList_ofList]
      simp only [tokens]
      rfl
    have overflow : TextMatch.parseExpression (crowded.plan 0 0).expression =
        .error .overflow := by
      change TextMatch.parseExpression (TextMatch.compile (Query.parse crowded.query).freeText) = _
      rw [freeText]
      exact TextMatch.parseExpression_openings
    exact .inr (.inr (.inr ⟨some, .inl overflow⟩))
  · have deep : (tagged.plan 0 0).isTooDeep = true := by decide +kernel
    exact .inl deep
  · have only : (listed.plan 0 0).filters =
        { format := some (.many (List.replicate 32765 "stl")) } := rfl
    have noText : (listed.plan 0 0).hasText = false := by
      rw [SearchPlan.hasText, unworded listed rfl]
      rfl
    have nonempty : List.replicate 32765 "stl" ≠ [] := List.cons_ne_nil _ _
    have many : (listed.plan 0 0).page.bindsTooMany = true := by
      rw [SearchPlan.bindsTooMany_iff, SearchPlan.length_params_page,
        SearchPlan.length_params_of_formats nonempty only, noText, List.length_replicate]
      decide
    have asked : ¬store.Skips now (listed.plan 0 0) :=
      fun skips => skips.2.1 (unworded listed rfl)
    exact .inr (.inr (.inl ⟨many, asked⟩))
  · have wordless : Engine.wanted overnight.query overnight.filters = .everything := by
      have something : ¬Engine.AsksNothing overnight.query overnight.filters := by decide
      have query : overnight.query = "" := rfl
      rw [Engine.wanted, if_neg something, query, noText]
      rfl
    have accepted (i : Nat) : overnight.IsAccepted i store :=
      overnight.isAccepted_of_readable
        ((overnight.plan 0 0).refusal?_eq_none_iff.mpr ⟨by decide, by decide⟩)
        (Or.inl (unworded overnight rfl)) i store
    have two : (overnight.admitted 0 store).length = 2 := by decide
    have three : (overnight.admitted 1 store).length = 3 := by decide
    have one : overnight.length = 1 := by decide
    exact pages_apart overnight reachable wordless accepted (by omega) (by omega) (by omega)
      (by omega)

end Walk

end ModelCatalog
