import ModelCatalog.Search.Limits

/-!
The conditions of filters. Whether there are any, and how deeply their statements nest, does not
depend on the time.
-/

namespace ModelCatalog

theorem Condition.ofChoice_eq_nil_iff (column : Sql.Column) (choice : Choice) :
    ofChoice column choice = [] ↔ choice.isEmpty = true := by
  cases choice with
  | one value => simp [ofChoice, Choice.isEmpty]
  | many values => simp [ofChoice, Choice.isEmpty]

theorem FilterSet.conditions_eq_nil_iff (filters : FilterSet) (now : Time.Instant) :
    filters.conditions now = [] ↔ filters.isEmpty = true := by
  have choice (column : Sql.Column) (choice : Option Choice) :
      choice.toList.flatMap (Condition.ofChoice column) = [] ↔
        choice.all Choice.isEmpty = true := by
    cases choice with
    | none => simp
    | some choice => simp [Condition.ofChoice_eq_nil_iff]
  simp only [conditions, isEmpty, List.append_eq_nil_iff, List.map_eq_nil_iff, choice,
    Bool.and_eq_true, List.isEmpty_iff, Option.isNone_iff_eq_none, Option.toList_eq_nil_iff]

/-- Only the time stamp of one condition depends on the time. -/
theorem FilterSet.conditions_depth (filters : FilterSet) (now later : Time.Instant) :
    (filters.conditions now).map Condition.depth =
      (filters.conditions later).map Condition.depth := by
  have recency (days : Option UInt32) :
      (days.toList.map fun days => Condition.notViewedAfter (now.daysBefore days).timestamp).map
          Condition.depth =
        (days.toList.map fun days =>
          Condition.notViewedAfter (later.daysBefore days).timestamp).map Condition.depth := by
    cases days <;> rfl
  simp only [conditions, List.map_append, recency]

namespace SearchPlan

theorem hasText_iff (plan : SearchPlan) : plan.hasText = true ↔ plan.expression ≠ "" := by
  simp [hasText]

theorem isTooDeep_congr {plan other : SearchPlan} (text : other.hasText = plan.hasText)
    (filters : other.filters = plan.filters) : other.isTooDeep = plan.isTooDeep := by
  have clauses : other.clauseDepths = plan.clauseDepths := by
    rw [clauseDepths, clauseDepths, text, conditions, conditions, filters,
      FilterSet.conditions_depth plan.filters other.now plan.now]
  rw [isTooDeep, depth, clauses]
  rfl

theorem isTooDeep_of_noText {plan other : SearchPlan} (noText : other.hasText = false)
    (filters : other.filters = plan.filters) (shallow : plan.isTooDeep = false) :
    other.isTooDeep = false := by
  by_cases text : plan.hasText = true
  · have clauses : plan.clauseDepths = 6 :: other.clauseDepths := by
      rw [clauseDepths, clauseDepths, text, noText, conditions, conditions, filters,
        FilterSet.conditions_depth plan.filters other.now plan.now]
      rfl
    rw [isTooDeep, depth, clauses, decide_eq_false_iff_not] at shallow
    rw [isTooDeep, depth, decide_eq_false_iff_not]
    cases rest : other.clauseDepths with
    | nil => decide
    | cons first rest' =>
      rw [rest] at shallow
      simp only [depthAfter, List.length_cons] at shallow ⊢
      omega
  · rw [isTooDeep_congr (by simpa [noText] using text) filters, shallow]

theorem isTooDeep_nothing {plan : SearchPlan} (noText : plan.expression = "")
    (noFilters : plan.filters.isEmpty = true) : plan.isTooDeep = false := by
  have clauses : plan.clauseDepths = [] := by
    rw [clauseDepths, conditions, (FilterSet.conditions_eq_nil_iff _ _).mpr noFilters]
    simp [hasText, noText]
  rw [isTooDeep, depth, clauses]
  rfl

end SearchPlan

end ModelCatalog
