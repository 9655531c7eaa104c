import ModelCatalog.Proofs.Search.Filtering

/-!
Searches whose text is rejected and leaves no words to search for. The whole search is skipped then,
not only its text: nothing is found, although there are models that meet the filters.
-/

namespace ModelCatalog

/-- On any backend, a text that is rejected and leaves no words brings the search to an empty
result. -/
theorem Engine.search_wordless {σ : Type} {engine : Engine σ} {query : String}
    {filters : Option FilterSet} {limit : Option UInt64} {offset : UInt64} {state : σ}
    {error : SearchError}
    (rejected : ((runPlan engine.backend (engine.planOf query filters limit offset)).run state).1 =
      .error error)
    (told : error.rejectsText = true)
    (worded : (trimmed (Query.parse query).freeText).isEmpty = false)
    (wordless : TextMatch.fallback (Query.parse query).freeText = "") :
    ((engine.search query filters limit offset).run state).1 =
      .ok (engine.resultOf query filters limit offset { warnings := [skippedWarning] }) := by
  have something : ¬AsksNothing query filters := by
    rintro ⟨noText, -⟩
    rw [noText] at worded
    cases worded
  rw [search_value engine query filters limit offset something, runSearch, run_tryCatch]
  cases outcome : (runPlan engine.backend (engine.planOf query filters limit offset)).run state with
  | mk result after =>
    rw [outcome] at rejected
    obtain rfl : result = .error error := rejected
    simp only [told, worded, Bool.not_false, Bool.and_self, if_true, runDegraded, wordless]
    rfl

namespace Store

theorem rejectsText_of_found {store : Store} {present : Time.Instant} {plan : SearchPlan}
    {rows : List RankedRow} (found : store.found present plan = .ok rows) {error : SearchError}
    (failed : ((Engine.runPlan (backend present) plan).run store).1 = .error error) :
    error.rejectsText = false := by
  cases refused : plan.refusal? with
  | none =>
    rw [runPlan_ok store present plan refused found] at failed
    cases failed
  | some late =>
    rw [runPlan_refused store present plan refused found] at failed
    rw [← Except.error.inj failed]
    exact SearchPlan.rejectsText_refusal refused

/-- An index rejects a text only if the statement can be read and some row meets the conditions. -/
theorem candidates_of_rejected {store : Store} {present : Time.Instant} {plan : SearchPlan}
    {error : SearchError}
    (rejected : ((Engine.runPlan (backend present) plan).run store).1 = .error error)
    (told : error.rejectsText = true) :
    plan.countRefusal? = none ∧ plan.expression ≠ "" ∧ store.candidates present plan ≠ [] := by
  have counted : plan.countRefusal? = none := by
    cases refused : plan.countRefusal? with
    | none => rfl
    | some early =>
      rw [runPlan_countRefused store present plan refused] at rejected
      rw [← Except.error.inj rejected, SearchPlan.rejectsText_countRefusal refused] at told
      cases told
  have unanswered {rows : List RankedRow} (found : store.found present plan = .ok rows) : False := by
    rw [rejectsText_of_found found rejected] at told
    cases told
  exact ⟨counted, fun noText => unanswered (found_everything store present plan noText),
    fun none => unanswered (found_none store present plan none .nothing)⟩

/-- A search whose text the index rejects, and which leaves no words, finds nothing and says so. The
search for its filters alone finds the models that meet them, of which there is at least one: for
want of any the index would not have been asked. -/
theorem search_skips {store : Store} (reachable : store.Reachable) (config : Config)
    (now present : Time.Instant) (query : String) (filters : Option FilterSet)
    (limit : Option UInt64) (offset : UInt64) {error : SearchError}
    (rejected : ((Engine.runPlan (backend present)
      ((engine config now present).planOf query filters limit offset)).run store).1 = .error error)
    (told : error.rejectsText = true)
    (wordless : TextMatch.fallback (Query.parse query).freeText = "")
    (demands : (Engine.mergedFilters query filters).isEmpty = false) :
    let search (query : String) (filters : Option FilterSet) : Except SearchError SearchResult :=
      (((engine config now present).search query filters limit offset).run store).1
    let merged := Engine.mergedFilters query filters
    ∃ skipped filtered, search query filters = .ok skipped ∧ search "" (some merged) = .ok filtered ∧
      skipped.items = [] ∧ skipped.totalCount = 0 ∧ skipped.warnings = [Engine.skippedWarning] ∧
      0 < filtered.totalCount.toNat ∧
      filtered.totalCount.toNat = store.rows.countP fun row =>
        (merged.conditions now).all (Condition.holds present row) := by
  intro search merged
  obtain ⟨counted, worded, some⟩ := candidates_of_rejected rejected told
  have visible : (trimmed (Query.parse query).freeText).isEmpty = false := by
    rw [Bool.eq_false_iff]
    exact fun blank => worded (TextMatch.compile_of_trimmed blank)
  have hasText : ((engine config now present).planOf query filters limit offset).hasText = true :=
    (SearchPlan.hasText_iff _).mpr worded
  have noText : (filterPlan config now merged limit offset).hasText = false := by
    rw [filterPlan, SearchPlan.hasText]
    rfl
  have sameFilters : (filterPlan config now merged limit offset).filters =
      ((engine config now present).planOf query filters limit offset).filters := by
    rw [filterPlan, Engine.planOf, SearchPlan.ofQuery]
    rfl
  have accepted : (filterPlan config now merged limit offset).refusal? = none :=
    SearchPlan.refusal?_of_noText sameFilters counted hasText noText
  obtain ⟨filtered, ran, -, -, shows⟩ :=
    search_filters store config now present merged limit offset demands accepted
  have same : store.candidates present (filterPlan config now merged limit offset) =
      store.candidates present ((engine config now present).planOf query filters limit offset) :=
    store.candidates_congr present sameFilters rfl
  have total : filtered.totalCount.toNat =
      (store.candidates present (filterPlan config now merged limit offset)).length := by
    rw [shown_total reachable shows, listing_everything_length]
  have skipped : search query filters = .ok ((engine config now present).resultOf query filters limit
      offset { warnings := [Engine.skippedWarning] }) :=
    Engine.search_wordless rejected told visible wordless
  refine ⟨_, filtered, skipped, ran, rfl, rfl, rfl, ?_, ?_⟩
  · rw [total, same]
    exact List.length_pos_iff.mpr some
  · rw [total, List.countP_eq_length_filter]
    rfl

/-- A parenthesis beside a filter that one model meets. -/
theorem search_skips_parenthesis :
    let now : Time.Instant := ⟨1700000000, 0⟩
    let part : CatalogEntry := { filename := "part.stl", filePath := "/a", format := some "stl" }
    let store := ({} : Store).after {} now now (.catalog (.upsert part now))
    let filters : FilterSet := { format := some (.one "stl") }
    let rejection := SearchError.storage "fts5: syntax error"
    let search (query : String) : Except SearchError SearchResult :=
      (((engine {} now now).search query (some filters) none 0).run store).1
    store.Reachable ∧
      ((Engine.runPlan (backend now)
        ((engine {} now now).planOf "(" (some filters) none 0)).run store).1 = .error rejection ∧
      rejection.rejectsText = true ∧ TextMatch.fallback (Query.parse "(").freeText = "" ∧
      (Engine.mergedFilters "(" (some filters)).isEmpty = false ∧
      ∃ skipped filtered, search "(" = .ok skipped ∧ search "" = .ok filtered ∧
        skipped.totalCount = 0 ∧ 0 < filtered.totalCount.toNat := by
  intro now part store filters rejection search
  have reachable : store.Reachable := .call .empty {} now now _ (by decide)
  let plan := (engine {} now now).planOf "(" (some filters) none 0
  have rejected : ((Engine.runPlan (backend now) plan).run store).1 = .error rejection := by
    have compiled : plan.expression = "(" := by decide
    have unread : TextMatch.parseExpression plan.expression = .error .malformed := by
      rw [compiled]
      rfl
    have found := found_error store now plan (by decide) (by decide) unread
    have counted : plan.countRefusal? = none :=
      plan.countRefusal?_eq_none_iff.mpr ⟨by decide, by decide⟩
    rw [runPlan_error store now counted found]
    rfl
  have told : rejection.rejectsText = true := by decide
  have wordless : TextMatch.fallback (Query.parse "(").freeText = "" := by decide
  have demands : (Engine.mergedFilters "(" (some filters)).isEmpty = false := by decide
  obtain ⟨skipped, filtered, ran, ranFiltered, -, none, -, some, -⟩ :=
    search_skips reachable {} now now "(" (some filters) none 0 rejected told wordless demands
  exact ⟨reachable, rejected, told, wordless, demands, skipped, filtered, ran, ranFiltered, none,
    some⟩

/-- The two searches for a parenthesis and a filter, and for the filter alone. -/
theorem search_not_kept :
    let now : Time.Instant := ⟨1700000000, 0⟩
    let part : CatalogEntry := { filename := "part.stl", filePath := "/a", format := some "stl" }
    let store := ({} : Store).after {} now now (.catalog (.upsert part now))
    let filters : FilterSet := { format := some (.one "stl") }
    let shown (query : String) : Except SearchError (UInt64 × List Int64 × List String) :=
      (((engine {} now now).search query (some filters) none 0).run store).1.map fun result =>
        (result.totalCount, result.items.map SearchItem.id, result.warnings)
    shown "(" = .ok (0, [], [Engine.skippedWarning]) ∧ shown "" = .ok (1, [1], []) := by
  intro now part store filters shown
  constructor
  · decide
  · decide +kernel

end Store

end ModelCatalog
