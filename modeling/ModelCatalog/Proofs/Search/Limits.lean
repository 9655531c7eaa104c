import ModelCatalog.Proofs.Decimal.Digits
import ModelCatalog.Proofs.Filter.Conditions
import ModelCatalog.Proofs.Search.Quiet

/-!
The limits of the statements of a plan. How many values a plan binds depends on its filters and on
whether it has text; and the error of a statement that binds too many, which tells its SQL, is never
taken for one of the text.
-/

namespace ModelCatalog

open Sql (Fragment)

namespace SearchPlan

section Binding

theorem params_all (fragments : List Fragment) :
    (Sql.Select.filterFragment (Fragment.all? fragments)).params =
      fragments.flatMap Fragment.params := by
  have joined (first : Fragment) (rest : List Fragment) :
      (rest.foldl Fragment.and first).params = first.params ++ rest.flatMap Fragment.params := by
    induction rest generalizing first with
    | nil => simp
    | cons next rest ih => simp [ih, Fragment.and]
  cases fragments with
  | nil => rfl
  | cons first rest => exact joined first rest

/-- A count binds the expression for each of the two indexes, and what its conditions bind. -/
theorem params_count_eq (plan : SearchPlan) : plan.count.params =
    (if plan.hasText then [.text plan.expression, .text plan.expression] else []) ++
      plan.conditions.flatMap fun condition => condition.fragment.params := by
  have clauses : plan.clauses.flatMap Fragment.params =
      plan.conditions.flatMap fun condition => condition.fragment.params := by
    rw [clauses, List.flatMap_append, List.flatMap_map]
    split <;> simp [anyHit]
  have joins : (Sql.Select.joinFragments plan.select.joins).params =
      if plan.hasText then [.text plan.expression, .text plan.expression] else [] := by
    have parts : plan.select.joins =
      metadataJoin :: (if plan.hasText then hitJoins plan.expression else []) := rfl
    rw [parts]
    cases plan.hasText <;> rfl
  change (Sql.Select.joinFragments plan.select.joins).params ++
    (Sql.Select.filterFragment (Fragment.all? plan.clauses)).params ++ [] ++ [] = _
  rw [params_all, clauses, joins, List.append_nil, List.append_nil]

theorem length_params_page (plan : SearchPlan) :
    plan.page.params.length = plan.count.params.length + 2 := by
  rw [params_page_eq, List.length_append]
  rfl

theorem length_params_of_formats {plan : SearchPlan} {values : List String} (nonempty : values ≠ [])
    (only : plan.filters = { format := some (.many values) }) :
    plan.count.params.length = (if plan.hasText then 2 else 0) + values.length := by
  have conditions : plan.conditions = [.oneOf .modelFormat values] := by
    rw [SearchPlan.conditions, only]
    simp [FilterSet.conditions, Condition.ofChoice, nonempty]
  have listed : (Condition.oneOf .modelFormat values).fragment.params = values.map .text := rfl
  rw [params_count_eq, conditions, List.length_append, List.flatMap_singleton, listed, List.length_map]
  cases plan.hasText with
  | false => rfl
  | true => rfl

theorem bindsTooMany_iff (fragment : Fragment) :
    fragment.bindsTooMany = true ↔ Fragment.greatestParams < fragment.params.length :=
  decide_eq_true_iff

theorem count_few {plan : SearchPlan} (few : plan.page.bindsTooMany = false) :
    plan.count.bindsTooMany = false := by
  rw [Bool.eq_false_iff, ne_eq, bindsTooMany_iff] at few ⊢
  rw [length_params_page] at few
  omega

theorem shape_congr {plan other : SearchPlan} (text : other.hasText = plan.hasText)
    (filters : other.filters = plan.filters) : other.shape = plan.shape := by
  rw [shape, shape, text, filters]

variable {plan other : SearchPlan} (same : other.shape = plan.shape)
include same

theorem length_params_congr : other.count.params.length = plan.count.params.length := by
  rw [← (plan.reads_count fun _ => "").aligned, ← (other.reads_count fun _ => "").aligned,
    count_sql_eq same]

theorem count_bindsTooMany_congr : other.count.bindsTooMany = plan.count.bindsTooMany := by
  rw [Fragment.bindsTooMany, length_params_congr same, Fragment.bindsTooMany]

theorem page_bindsTooMany_congr : other.page.bindsTooMany = plan.page.bindsTooMany := by
  rw [Fragment.bindsTooMany, length_params_page, length_params_congr same, ← length_params_page,
    Fragment.bindsTooMany]

omit same

/-- Without text, a page binds its bounds in place of the expression. -/
theorem length_params_page_of_noText (hasText : plan.hasText = true) (noText : other.hasText = false)
    (filters : other.filters = plan.filters) :
    other.page.params.length = plan.count.params.length := by
  let silent : SearchPlan := { plan with expression := "" }
  have sameShape : other.shape = silent.shape := shape_congr (noText.trans rfl) filters
  have conditions : silent.conditions = plan.conditions := rfl
  have asked : silent.hasText = false := rfl
  rw [length_params_page, length_params_congr sameShape, params_count_eq, params_count_eq, hasText,
    asked, conditions]
  simp only [Bool.false_eq_true, if_false, if_true, List.nil_append, List.length_append,
    List.length_cons, List.length_nil]
  omega

end Binding

section Telling

theorem isQuiet_of_digits {text : List Char} (digits : ∀ c ∈ text, c.isDigit = true) :
    IsQuiet text := by
  induction text with
  | nil => rfl
  | cons c rest ih =>
    obtain ⟨digit, later⟩ := List.forall_mem_cons.mp digits
    have other {mark : Char} (noDigit : mark.isDigit = false) : c ≠ mark := by
      rintro rfl
      rw [digit] at noDigit
      cases noDigit
    have colon : (c != ':') = true := bne_iff_ne.mpr (other (by decide))
    have m : (c == 'm') = false := beq_eq_false_iff_ne.mpr (other (by decide))
    rw [IsQuiet, isQuietFrom, colon, m]
    exact ih later

theorem isQuietSql_naturalText (n : Nat) : IsQuietSql (naturalText n) :=
  .literal (isQuiet_of_digits fun _ member => Decimal.digits_isDigit member)

theorem rejectsText_tooManyParams {fragment : Fragment} (quiet : IsQuietSql fragment.sql) :
    fragment.tooManyParams.rejectsText = false := by
  apply rejectsText_of_isQuiet
  have message : IsQuietSql "too many SQL variables in " := .literal rfl
  have position : IsQuietSql " at offset " := .literal rfl
  exact ((message.append quiet).append position).append (isQuietSql_naturalText _)

end Telling

/-- The error with which the count of a plan is refused, whatever rows there are. -/
def countRefusal? (plan : SearchPlan) : Option SearchError :=
  if plan.isTooDeep then some (.storage "parser stack overflow")
  else if plan.count.bindsTooMany then some plan.count.tooManyParams
  else none

/-- The error with which one of the two statements of a plan is refused. -/
def refusal? (plan : SearchPlan) : Option SearchError :=
  plan.countRefusal?.or (if plan.page.bindsTooMany then some plan.page.tooManyParams else none)

section Refusing

theorem rejectsText_countRefusal {plan : SearchPlan} {error : SearchError}
    (refused : plan.countRefusal? = some error) : error.rejectsText = false := by
  rw [countRefusal?] at refused
  split at refused
  next =>
    obtain rfl := Option.some.inj refused
    decide
  next =>
    split at refused
    next =>
      obtain rfl := Option.some.inj refused
      exact rejectsText_tooManyParams plan.count_isQuietSql
    next => cases refused

theorem rejectsText_refusal {plan : SearchPlan} {error : SearchError}
    (refused : plan.refusal? = some error) : error.rejectsText = false := by
  rcases Option.or_eq_some_iff.mp refused with counted | ⟨-, paged⟩
  · exact rejectsText_countRefusal counted
  · split at paged
    next =>
      obtain rfl := Option.some.inj paged
      exact rejectsText_tooManyParams plan.page_isQuietSql
    next => cases paged

theorem countRefusal?_eq_none_iff (plan : SearchPlan) :
    plan.countRefusal? = none ↔ plan.isTooDeep = false ∧ plan.count.bindsTooMany = false := by
  rw [countRefusal?]
  cases plan.isTooDeep <;> cases plan.count.bindsTooMany <;> simp

theorem refusal?_eq_none_iff (plan : SearchPlan) :
    plan.refusal? = none ↔ plan.isTooDeep = false ∧ plan.page.bindsTooMany = false := by
  rw [refusal?, Option.or_eq_none_iff, countRefusal?_eq_none_iff]
  constructor
  · rintro ⟨⟨shallow, -⟩, paged⟩
    exact ⟨shallow, by simpa using paged⟩
  · rintro ⟨shallow, few⟩
    exact ⟨⟨shallow, count_few few⟩, by simp [few]⟩

theorem refusal?_of_page {plan : SearchPlan} (counted : plan.countRefusal? = none)
    (many : plan.page.bindsTooMany = true) : plan.refusal? = some plan.page.tooManyParams := by
  rw [refusal?, counted, many]
  rfl

variable {plan other : SearchPlan} (filters : other.filters = plan.filters)
include filters

theorem countRefusal?_congr (text : other.hasText = plan.hasText) :
    other.countRefusal? = plan.countRefusal? := by
  have same := shape_congr text filters
  rw [countRefusal?, countRefusal?, isTooDeep_congr text filters, count_bindsTooMany_congr same,
    Fragment.tooManyParams, Fragment.tooManyParams, count_sql_eq same]

theorem refusal?_congr (text : other.hasText = plan.hasText) : other.refusal? = plan.refusal? := by
  have same := shape_congr text filters
  rw [refusal?, refusal?, countRefusal?_congr filters text, page_bindsTooMany_congr same,
    Fragment.tooManyParams, Fragment.tooManyParams, page_sql_eq same]

/-- Where the count of a text is not refused, neither is the search for its filters alone. -/
theorem refusal?_of_noText (counted : plan.countRefusal? = none) (hasText : plan.hasText = true)
    (noText : other.hasText = false) : other.refusal? = none := by
  obtain ⟨shallow, few⟩ := plan.countRefusal?_eq_none_iff.mp counted
  refine other.refusal?_eq_none_iff.mpr ⟨isTooDeep_of_noText noText filters shallow, ?_⟩
  rwa [Fragment.bindsTooMany, length_params_page_of_noText hasText noText filters,
    ← Fragment.bindsTooMany]

theorem refusal?_fewer (accepted : plan.refusal? = none)
    (text : other.hasText = true → plan.hasText = true) : other.refusal? = none := by
  cases otherText : other.hasText with
  | true => exact (refusal?_congr filters (otherText.trans (text otherText).symm)).trans accepted
  | false =>
    cases planText : plan.hasText with
    | true =>
      exact refusal?_of_noText filters (Option.or_eq_none_iff.mp accepted).1 planText otherText
    | false => exact (refusal?_congr filters (otherText.trans planText.symm)).trans accepted

omit filters

theorem refusal?_nothing (noText : plan.expression = "")
    (noFilters : plan.filters.isEmpty = true) : plan.refusal? = none := by
  refine plan.refusal?_eq_none_iff.mpr ⟨isTooDeep_nothing noText noFilters, ?_⟩
  have none : plan.conditions = [] := (FilterSet.conditions_eq_nil_iff _ _).mpr noFilters
  have silent : plan.hasText = false := by simp [hasText, noText]
  rw [Bool.eq_false_iff, ne_eq, bindsTooMany_iff, length_params_page, params_count_eq, none, silent]
  change ¬Fragment.greatestParams < 2
  decide

end Refusing

end SearchPlan

end ModelCatalog
