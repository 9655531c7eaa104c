import ModelCatalog.Proofs.Search.Tagging
import ModelCatalog.Proofs.Store.Stamps
import ModelCatalog.Proofs.Time.Embedding
import ModelCatalog.Proofs.Time.StoreReading

/-!
The filter for models that were not viewed of late. It is exact to the second, for any number of days;
and the more days it asks for, the fewer models it leaves.
-/

namespace ModelCatalog

open Time (Instant IsStamp)

theorem Time.IsStamp.ne_empty {text : String} (stamp : IsStamp text) : text ≠ "" := by
  intro empty
  have last := stamp.getLast
  rw [empty] at last
  cases last

namespace FilterSet

theorem mem_conditions_latDays (filters : FilterSet) (days : UInt32) (now : Instant)
    (condition : Condition) :
    condition ∈ { filters with latDays := some days }.conditions now ↔
      condition ∈ { filters with latDays := none }.conditions now ∨
        condition = .notViewedAfter (now.daysBefore days).timestamp := by
  simp only [conditions, List.mem_append, Option.toList_some, Option.toList_none, List.map_cons,
    List.map_nil, List.mem_singleton, List.not_mem_nil, or_false]
  grind

end FilterSet

def SearchPlan.withRecency (plan : SearchPlan) (days : Option UInt32) : SearchPlan :=
  { plan with filters := { plan.filters with latDays := days } }

namespace Time.Instant

/-- The second so many days before, or the first one of the year zero if that is later. -/
def cutoff (now : Instant) (days : UInt32) : Int :=
  max earliest.second (now.second - 86400 * days.toNat)

theorem cutoff_le {now : Instant} {days more : UInt32} (fewer : days ≤ more) :
    now.cutoff more ≤ now.cutoff days := by
  have counts := UInt32.le_iff_toNat_le.mp fewer
  simp only [cutoff]
  omega

/-- The time that the store compares with is the cutoff, whatever the number of days. -/
theorem milliseconds?_cutoff {now : Instant} (dated : now.IsDated) (days : UInt32)
    (present : Instant) :
    JulianDay.milliseconds? present (now.daysBefore days).timestamp =
      some (now.cutoff days * 1000) := by
  rw [milliseconds?_timestamp (isDated_daysBefore dated days), daysBefore_second, cutoff,
    secondsPerDay, Int.max_comm]

end Time.Instant

/-- The model was never viewed, or not after the cutoff. -/
def ModelRow.IsStale (row : ModelRow) (now : Instant) (days : UInt32) : Prop :=
  row.lastViewed = none ∨ row.lastViewed = some "" ∨
    ∃ viewed : Instant, viewed.IsDated ∧ row.lastViewed = some viewed.timestamp ∧
      viewed.second ≤ now.cutoff days

def Store.ViewsAreStamps (store : Store) : Prop :=
  ∀ row ∈ store.models, ∀ viewed, row.lastViewed = some viewed → viewed = "" ∨ IsStamp viewed

theorem ModelRow.IsStale.fewer {row : ModelRow} {now : Instant} {days more : UInt32}
    (stale : row.IsStale now more) (fewer : days ≤ more) : row.IsStale now days := by
  rcases stale with never | blank | ⟨viewed, dated, same, before⟩
  · exact Or.inl never
  · exact Or.inr (Or.inl blank)
  · exact Or.inr (Or.inr ⟨viewed, dated, same, Int.le_trans before (Instant.cutoff_le fewer)⟩)

namespace Store

variable {store : Store} {now present : Instant}

theorem model_mem_of_rows {row : CatalogRow} (member : row ∈ store.rows) :
    row.model ∈ store.models := by
  obtain ⟨model, inTable, rfl⟩ := List.mem_map.mp member
  exact inTable

theorem notViewedAfter_holds_iff (views : store.ViewsAreStamps) (dated : now.IsDated)
    (days : UInt32) {row : CatalogRow} (member : row ∈ store.rows) :
    (Condition.notViewedAfter (now.daysBefore days).timestamp).holds present row = true ↔
      row.model.IsStale now days := by
  have column : row.text? .modelLastViewed = row.model.lastViewed := rfl
  rw [Condition.holds, column, ModelRow.IsStale]
  cases known : row.model.lastViewed with
  | none => simp
  | some text =>
    rcases views row.model (model_mem_of_rows member) text known with rfl | ⟨viewed, viewedDated, rfl⟩
    · simp
    · have written : viewed.timestamp ≠ "" := IsStamp.ne_empty ⟨viewed, viewedDated, rfl⟩
      have compared : (viewed.timestamp == "" || Condition.compareTimes (· ≤ ·)
          (Time.JulianDay.milliseconds? present viewed.timestamp)
          (Time.JulianDay.milliseconds? present (now.daysBefore days).timestamp)) = true ↔
          viewed.second ≤ now.cutoff days := by
        rw [Instant.milliseconds?_timestamp viewedDated, Instant.milliseconds?_cutoff dated]
        simp only [Condition.compareTimes, beq_iff_eq, written, Bool.or_eq_true, false_or,
          decide_eq_true_eq]
        omega
      dsimp only
      rw [compared]
      constructor
      · intro before
        exact Or.inr (Or.inr ⟨viewed, viewedDated, rfl, before⟩)
      · intro stale
        rcases stale with never | blank | ⟨other, otherDated, same, before⟩
        · exact absurd never (Option.some_ne_none _)
        · exact absurd (Option.some.inj blank) written
        · rw [(Instant.timestamp_eq_iff viewedDated otherDated).mp (Option.some.inj same)]
          exact before

theorem mem_candidates_withRecency (views : store.ViewsAreStamps) {plan : SearchPlan}
    (dated : plan.now.IsDated) (days : UInt32) (row : CatalogRow) :
    row ∈ store.candidates present (plan.withRecency (some days)) ↔
      row ∈ store.candidates present (plan.withRecency none) ∧ row.model.IsStale plan.now days := by
  have more (c : Condition) : c ∈ (plan.withRecency (some days)).conditions ↔
      c ∈ (plan.withRecency none).conditions ∨
        c = .notViewedAfter (plan.now.daysBefore days).timestamp :=
    plan.filters.mem_conditions_latDays days plan.now c
  rw [store.candidates_and present more, List.mem_filter]
  refine and_congr_right fun candidate => ?_
  exact notViewedAfter_holds_iff views dated days (List.mem_filter.mp candidate).1

/-- Of the models that meet the other filters, that for views so many days ago leaves those that were
never viewed, or not after the second so many days before now, and at the latest in the first second of
the year zero; so it leaves no more of them if it is for more days. A search by it alone shows them. -/
theorem recency_exact (views : store.ViewsAreStamps) (dated : now.IsDated) (present : Instant) :
    (∀ plan : SearchPlan, plan.now = now → ∀ days row,
      (row ∈ store.candidates present (plan.withRecency (some days)) ↔
        row ∈ store.candidates present (plan.withRecency none) ∧ row.model.IsStale now days)) ∧
    (∀ plan : SearchPlan, plan.now = now → ∀ days more, days ≤ more →
      ∀ row ∈ store.candidates present (plan.withRecency (some more)),
        row ∈ store.candidates present (plan.withRecency (some days))) ∧
    (store.Reachable → ∀ config limit days, ∃ result,
      (((engine config now present).search "" (some { latDays := some days }) limit 0).run
        store).1 = .ok result ∧
      (result.totalCount ≤ config.clampLimit limit → ∀ row ∈ store.rows,
        (Int64.ofNat row.model.id ∈ result.items.map SearchItem.id ↔
          row.model.IsStale now days))) := by
  refine ⟨?_, ?_, ?_⟩
  · intro plan same days row
    subst same
    exact mem_candidates_withRecency views dated days row
  · intro plan same days more fewer row candidate
    subst same
    obtain ⟨others, stale⟩ := (mem_candidates_withRecency views dated more row).mp candidate
    exact (mem_candidates_withRecency views dated days row).mpr ⟨others, stale.fewer fewer⟩
  · intro reachable config limit days
    let filters : FilterSet := { latDays := some days }
    have only : filters.conditions now = [.notViewedAfter (now.daysBefore days).timestamp] := rfl
    obtain ⟨result, ran, shown⟩ :=
      search_condition reachable config now limit only rfl
    refine ⟨result, ran, ?_⟩
    intro whole row member
    rw [shown whole row member, notViewedAfter_holds_iff views dated days member]

/-- A model that was never viewed and one that was viewed ten days ago, a moment less: for ten days
both are shown, and for more days than there were only the first. -/
theorem recency_exact_views :
    let now : Instant := ⟨1700000000, 999999999⟩
    let gear : CatalogEntry := { filename := "gear.stl", filePath := "/gear.stl" }
    let vise : CatalogEntry :=
      { filename := "vise.stl", filePath := "/vise.stl", lastViewed := some "2023-11-04T22:13:20Z" }
    let store := (({} : Store).after {} now now (.catalog (.upsert gear now))).after {} now now
      (.catalog (.upsert vise now))
    let search (days : UInt32) : Except SearchError SearchResult :=
      (((engine {} now now).search "" (some { latDays := some days }) none 0).run store).1
    store.ViewsAreStamps ∧ now.IsDated ∧
      ∃ recent ancient, search 10 = .ok recent ∧ search 4294967295 = .ok ancient ∧
        (recent.totalCount ≤ 100 → 1 ∈ recent.items.map SearchItem.id ∧
          2 ∈ recent.items.map SearchItem.id) ∧
        (ancient.totalCount ≤ 100 → 1 ∈ ancient.items.map SearchItem.id ∧
          2 ∉ ancient.items.map SearchItem.id) := by
  intro now gear vise store search
  have dated : now.IsDated := by decide
  let view : Instant := ⟨1699136000, 0⟩
  have viewDated : view.IsDated := by decide
  have viewed : "2023-11-04T22:13:20Z" = view.timestamp := by decide
  let first : CatalogRow :=
    ⟨⟨1, "gear.stl", none, "/gear.stl", none, "2023-11-14T22:13:20Z", none⟩, none, false⟩
  let second : CatalogRow := ⟨⟨2, "vise.stl", none, "/vise.stl", none, "2023-11-14T22:13:20Z",
    some "2023-11-04T22:13:20Z"⟩, none, false⟩
  have rows : store.rows = [first, second] := by decide +kernel
  have models : store.models = [first.model, second.model] := by decide +kernel
  have member : first ∈ store.rows := by simp [rows]
  have member' : second ∈ store.rows := by simp [rows]
  have views : store.ViewsAreStamps := by
    intro row inTable text known
    rw [models] at inTable
    rcases List.mem_pair.mp inTable with rfl | rfl
    · cases known
    · exact Or.inr ⟨view, viewDated, (Option.some.inj known).symm.trans viewed⟩
  have reachable : store.Reachable :=
    .call (.call .empty {} now now _ (by decide)) {} now now _ (by decide +kernel)
  obtain ⟨-, -, shows⟩ := recency_exact views dated now
  obtain ⟨recent, ran, shown⟩ := shows reachable {} none 10
  obtain ⟨ancient, ran', shown'⟩ := shows reachable {} none 4294967295
  refine ⟨views, dated, recent, ancient, ran, ran', ?_, ?_⟩
  · intro whole
    have stale : second.model.IsStale now 10 :=
      Or.inr (Or.inr ⟨view, viewDated, congrArg some viewed, by decide⟩)
    exact ⟨(shown whole first member).mpr (Or.inl rfl), (shown whole second member').mpr stale⟩
  · intro whole
    refine ⟨(shown' whole first member).mpr (Or.inl rfl), ?_⟩
    intro shows
    rcases (shown' whole second member').mp shows with never | blank | ⟨other, otherDated, same, old⟩
    · cases never
    · exact absurd (Option.some.inj blank) (by decide)
    · have seconds : view.second = other.second :=
        (Instant.timestamp_eq_iff viewDated otherDated).mp
          (viewed.symm.trans (Option.some.inj same))
      rw [← seconds] at old
      exact absurd old (by decide)

end Store

end ModelCatalog
