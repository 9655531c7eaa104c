import ModelCatalog.Proofs.Search.Pages

/-!
Every page of a search is a slice of one list of rows, whatever bounds are asked for. Where it begins is
what a statement makes of the offset.
-/

namespace ModelCatalog

/-- If the next offset is a number that can be told, it is told exactly if the page is not empty and
rows remain after it. -/
theorem SearchResult.nextOffset_eq_some_iff {result : SearchResult}
    (told : result.offset.toNat + result.items.length < 2 ^ 64) (next : UInt64) :
    result.nextOffset = some next ↔
      0 < result.items.length ∧
        result.offset.toNat + result.items.length < result.totalCount.toNat ∧
        next.toNat = result.offset.toNat + result.items.length := by
  have sum : (result.offset + UInt64.ofNat result.items.length).toNat =
      result.offset.toNat + result.items.length := by
    rw [UInt64.toNat_add, UInt64.toNat_ofNat']
    omega
  have goesOn : (!result.items.isEmpty &&
      decide (result.offset + UInt64.ofNat result.items.length < result.totalCount)) = true ↔
        0 < result.items.length ∧
          result.offset.toNat + result.items.length < result.totalCount.toNat := by
    rw [Bool.and_eq_true, decide_eq_true_eq, UInt64.lt_iff_toNat_lt, sum, Bool.not_eq_true',
      List.isEmpty_eq_false_iff, List.length_pos_iff]
  rw [nextOffset, Option.ite_none_right_eq_some, goesOn, and_assoc, Option.some.injEq,
    ← UInt64.toNat_inj, sum, eq_comm (a := next.toNat)]

/-- The result is the slice of the rows that begins with the row of that number. -/
structure SearchResult.IsSlice (result : SearchResult) (highlighter : Highlighter)
    (rows : List RankedRow) (start size : Nat) : Prop where
  total : result.totalCount.toNat = rows.length
  items : result.items = ((rows.drop start).take size).map fun found =>
    found.item.highlighted highlighter

namespace SearchResult.IsSlice

variable {result : SearchResult} {highlighter : Highlighter} {rows : List RankedRow}
  {start size : Nat}

theorem items_length (slice : result.IsSlice highlighter rows start size) :
    result.items.length = min size (rows.length - start) := by
  rw [slice.items, List.length_map, List.length_take, List.length_drop]

theorem items_eq_nil (slice : result.IsSlice highlighter rows start size)
    (beyond : rows.length ≤ start) : result.items = [] := by
  rw [slice.items, List.drop_eq_nil_of_le beyond, List.take_nil, List.map_nil]

end SearchResult.IsSlice

namespace Store

section Slicing

variable {store : Store} {config : Config} {now present : Time.Instant} {query : String}
  {filters : Option FilterSet} (limit : Option UInt64) (offset : UInt64)

theorem listing_bounds :
    store.listing present ((engine config now present).planOf query filters limit offset)
        (Engine.wanted query filters) =
      store.listing present ((engine config now present).planOf query filters none 0)
        (Engine.wanted query filters) :=
  listing_congr rfl (store.candidates_congr present rfl rfl) _

theorem refuses_bounds :
    store.Refuses present ((engine config now present).planOf query filters limit offset) ↔
      store.Refuses present ((engine config now present).planOf query filters none 0) :=
  refuses_congr rfl (store.candidates_congr present rfl rfl) rfl rfl

theorem search_isSlice (fits : store.models.length < 2 ^ 63)
    (accepted : ¬store.Refuses present ((engine config now present).planOf query filters none 0)) :
    ∃ result, (((engine config now present).search query filters limit offset).run store).1 =
        .ok result ∧ result.offset = offset ∧
      result.IsSlice (config.highlighter query) (store.listing present
          ((engine config now present).planOf query filters none 0) (Engine.wanted query filters))
        (pageStart offset) (config.clampLimit limit).toNat := by
  rw [← refuses_bounds limit offset] at accepted
  obtain ⟨result, ran, size, start, shows⟩ :=
    search_shows store config now present query filters limit offset accepted
  rw [listing_bounds] at shows
  have few := Nat.lt_of_le_of_lt (listing_length_le store present
    ((engine config now present).planOf query filters none 0) (Engine.wanted query filters)) fits
  refine ⟨result, ran, start, ?_, ?_⟩
  · rw [shows.total]
    exact countOf_ofNat few
  · rw [shows.items, size, start, window_slice _ _ few]

end Slicing

/-- A search that is refused is so whatever its bounds are. In every other case there is one list of
all rows that it is after, in order, and the result for every limit and offset is a slice of it: as
many rows as the limit in effect, from the row on that the offset names. An offset that is below 2^63
names itself: beyond the rows there is nothing to show, and the next offset is told, as the number that
it is, exactly if some rows are shown and more remain. Any other offset is taken for none. -/
theorem search_slices {store : Store} (reachable : store.Reachable) (config : Config)
    (now present : Time.Instant) (query : String) (filters : Option FilterSet) :
    let plan := (engine config now present).planOf query filters none 0
    let search (limit : Option UInt64) (offset : UInt64) : Except SearchError SearchResult :=
      (((engine config now present).search query filters limit offset).run store).1
    (store.Refuses present plan → ∀ limit offset, ∃ error, search limit offset = .error error) ∧
    (¬store.Refuses present plan →
      ∃ rows, store.Lists present plan (Engine.wanted query filters) rows ∧
        ∀ limit offset, ∃ result, search limit offset = .ok result ∧
          result.IsSlice (config.highlighter query) rows (pageStart offset)
            (config.clampLimit limit).toNat ∧
          (offset.toNat < 2 ^ 63 → pageStart offset = offset.toNat ∧
            (rows.length ≤ offset.toNat → result.items = []) ∧
            offset.toNat + result.items.length < 2 ^ 64 ∧
            ∀ next, result.nextOffset = some next ↔
              0 < result.items.length ∧ offset.toNat + result.items.length < rows.length ∧
                next.toNat = offset.toNat + result.items.length)) := by
  intro plan search
  have sound := reachable.sound
  have fits := reachable.fits
  constructor
  · intro refused limit offset
    exact search_refused store config now present query filters limit offset
      ((refuses_bounds limit offset).mpr refused)
  · intro accepted
    have few : (store.listing present ((engine config now present).planOf query filters none 0)
        (Engine.wanted query filters)).length < 2 ^ 63 :=
      Nat.lt_of_le_of_lt (listing_length_le store present _ _) fits
    refine ⟨store.listing present plan (Engine.wanted query filters),
      listing_lists sound.tables sound.indexes present plan _, ?_⟩
    intro limit offset
    obtain ⟨result, ran, named, slice⟩ := search_isSlice limit offset fits accepted
    refine ⟨result, ran, slice, ?_⟩
    intro signed
    have start : pageStart offset = offset.toNat := if_pos signed
    rw [start] at slice
    have shown := slice.items_length
    have told : result.offset.toNat + result.items.length < 2 ^ 64 := by
      rw [named]
      omega
    refine ⟨start, slice.items_eq_nil, ?_, ?_⟩
    · rwa [named] at told
    · intro next
      rw [SearchResult.nextOffset_eq_some_iff told, slice.total, named]

/-- The second of two gears, asked for by itself. -/
theorem search_slices_gears :
    let now : Time.Instant := ⟨1700000000, 0⟩
    let gear : CatalogEntry := { filename := "gear.stl", filePath := "/gear.stl" }
    let spur : CatalogEntry := { gear with filePath := "/spur.stl", title := some "Spur gear" }
    let store := (({} : Store).after {} now now (.catalog (.upsert gear now))).after {} now now
      (.catalog (.upsert spur now))
    let plan := (engine {} now now).planOf "gear" none none 0
    store.Reachable ∧ ¬store.Refuses now plan ∧
      ∃ rows result, store.Lists now plan (Engine.wanted "gear" none) rows ∧
        (((engine {} now now).search "gear" none (some 1) 1).run store).1 = .ok result ∧
        result.IsSlice (Config.highlighter {} "gear") rows 1 1 ∧
        (result.nextOffset = some 2 ↔ 0 < result.items.length ∧
          1 + result.items.length < rows.length ∧ 2 = 1 + result.items.length) := by
  intro now gear spur store plan
  have reachable : store.Reachable :=
    .call (.call .empty {} now now _ (by decide)) {} now now _ (by decide)
  have read : (TextMatch.parseExpression plan.expression).toBool = true := by decide
  have readable : ∃ expression, TextMatch.parseExpression plan.expression = .ok expression := by
    cases outcome : TextMatch.parseExpression plan.expression with
    | error error =>
      rw [outcome] at read
      cases read
    | ok expression => exact ⟨expression, rfl⟩
  have accepted : ¬store.Refuses now plan := not_refuses (by decide) (Or.inr readable)
  obtain ⟨rows, lists, shows⟩ := (search_slices reachable {} now now "gear" none).2 accepted
  obtain ⟨result, ran, slice, told⟩ := shows (some 1) 1
  obtain ⟨-, -, -, next⟩ := told (by decide)
  exact ⟨reachable, accepted, rows, result, lists, ran, slice, next 2⟩

/-- An offset that is taken for a negative number: the only model is shown, though the offset is far
beyond it. -/
theorem search_not_sliced :
    let now : Time.Instant := ⟨1700000000, 0⟩
    let part : CatalogEntry := { filename := "part.stl", filePath := "/a", format := some "stl" }
    let store := ({} : Store).after {} now now (.catalog (.upsert part now))
    let offset : UInt64 := 9223372036854775808
    ((((engine {} now now).search "" (some { format := some (.one "stl") }) (some 5) offset).run
        store).1.map fun result => (result.totalCount, result.offset, result.items.map SearchItem.id)) =
      .ok (1, offset, [1]) ∧ 1 ≤ offset := by
  intro now part store offset
  refine ⟨?_, by decide⟩
  decide +kernel

end Store

end ModelCatalog
