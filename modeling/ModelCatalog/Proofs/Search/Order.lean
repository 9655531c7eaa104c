import ModelCatalog.Proofs.Store.Keyed
import ModelCatalog.Store.Search

/-!
The order of a page. It is a strict order in which any two rows of different models are comparable,
and sorting puts the rows of a search in it.
-/

namespace ModelCatalog

section Views

variable {a b c : Option String}

theorem viewedLater_irrefl (a : Option String) : viewedLater a a = false := by
  cases a <;> simp [viewedLater]

theorem viewedLater_trans (first : viewedLater a b = true) (second : viewedLater b c = true) :
    viewedLater a c = true := by
  cases a with
  | none => cases first
  | some a =>
    cases b with
    | none => cases second
    | some b =>
      cases c with
      | none => rfl
      | some c =>
        simp only [viewedLater, decide_eq_true_eq] at first second ⊢
        exact String.lt_trans second first

theorem viewedLater_total (different : a ≠ b) :
    viewedLater a b = true ∨ viewedLater b a = true := by
  cases a with
  | none =>
    cases b with
    | none => exact absurd rfl different
    | some b => exact Or.inr rfl
  | some a =>
    cases b with
    | none => exact Or.inl rfl
    | some b =>
      simp only [viewedLater, decide_eq_true_eq]
      apply Classical.byContradiction
      intro neither
      rw [not_or] at neither
      have same : a = b := String.le_antisymm neither.1 neither.2
      exact different (congrArg some same)

end Views

namespace RankedRow

/-- `a` stands before `b`: its rank is better; or the ranks are equal, and it was viewed later, where
never is before all times; or the views are equal as well, and it was added first. -/
def Before (a b : RankedRow) : Prop :=
  rankKey b.rank < rankKey a.rank ∨
    rankKey a.rank = rankKey b.rank ∧
      (viewedLater a.row.model.lastViewed b.row.model.lastViewed = true ∨
        a.row.model.lastViewed = b.row.model.lastViewed ∧ a.row.model.id < b.row.model.id)

variable {a b c : RankedRow}

theorem before_irrefl (a : RankedRow) : ¬a.Before a := by
  intro before
  rcases before with better | ⟨_, later | ⟨_, earlier⟩⟩
  · exact Int.lt_irrefl _ better
  · rw [viewedLater_irrefl] at later
    cases later
  · exact Nat.lt_irrefl _ earlier

theorem Before.trans (first : a.Before b) (second : b.Before c) : a.Before c := by
  rcases first with better | ⟨rank, later | ⟨view, earlier⟩⟩
  · rcases second with other | ⟨same, _⟩
    · exact Or.inl (Int.lt_trans other better)
    · exact Or.inl (same ▸ better)
  · rcases second with other | ⟨same, other | ⟨sameView, _⟩⟩
    · exact Or.inl (rank ▸ other)
    · exact Or.inr ⟨rank.trans same, Or.inl (viewedLater_trans later other)⟩
    · exact Or.inr ⟨rank.trans same, Or.inl (sameView ▸ later)⟩
  · rcases second with other | ⟨same, other | ⟨sameView, other⟩⟩
    · exact Or.inl (rank ▸ other)
    · exact Or.inr ⟨rank.trans same, Or.inl (view ▸ other)⟩
    · exact Or.inr ⟨rank.trans same, Or.inr ⟨view.trans sameView, Nat.lt_trans earlier other⟩⟩

def Alike (a b : RankedRow) : Prop :=
  rankKey a.rank = rankKey b.rank ∧ a.row.model.lastViewed = b.row.model.lastViewed ∧
    a.row.model.id = b.row.model.id

theorem before_total (a b : RankedRow) : a.Before b ∨ b.Before a ∨ a.Alike b := by
  by_cases rank : rankKey a.rank = rankKey b.rank
  · by_cases view : a.row.model.lastViewed = b.row.model.lastViewed
    · rcases Nat.lt_trichotomy a.row.model.id b.row.model.id with earlier | same | later
      · exact Or.inl (Or.inr ⟨rank, Or.inr ⟨view, earlier⟩⟩)
      · exact Or.inr (Or.inr ⟨rank, view, same⟩)
      · exact Or.inr (Or.inl (Or.inr ⟨rank.symm, Or.inr ⟨view.symm, later⟩⟩))
    · rcases viewedLater_total view with later | earlier
      · exact Or.inl (Or.inr ⟨rank, Or.inl later⟩)
      · exact Or.inr (Or.inl (Or.inr ⟨rank.symm, Or.inl earlier⟩))
  · rcases Int.lt_or_gt_of_ne rank with worse | better
    · exact Or.inr (Or.inl (Or.inl worse))
    · exact Or.inl (Or.inl better)

/-- If one row stands before another, every third row stands after the first or before the other. -/
theorem Before.split (first : a.Before c) (b : RankedRow) : a.Before b ∨ b.Before c := by
  rcases before_total a b with before | after | ⟨rank, view, id⟩
  · exact Or.inl before
  · exact Or.inr (after.trans first)
  · right
    rw [Before, rank, view, id] at first
    exact first

theorem precedes_iff (a b : RankedRow) : a.precedes b = true ↔ ¬b.Before a := by
  unfold precedes Before
  by_cases rank : rankKey a.rank = rankKey b.rank
  · by_cases view : a.row.model.lastViewed = b.row.model.lastViewed
    · simp [rank, view, viewedLater_irrefl]
    · have one := viewedLater_total view
      have notBoth : viewedLater a.row.model.lastViewed b.row.model.lastViewed = true →
          viewedLater b.row.model.lastViewed a.row.model.lastViewed = true → False := by
        intro later earlier
        have self := viewedLater_trans later earlier
        rw [viewedLater_irrefl] at self
        cases self
      simp only [rank, view, Ne.symm view, ne_eq, not_true_eq_false, not_false_eq_true, if_true,
        if_false, Int.lt_irrefl, false_or, true_and, false_and, or_false]
      exact ⟨fun later earlier => notBoth later earlier, fun none => one.resolve_right none⟩
  · simp only [rank, Ne.symm rank, ne_eq, not_false_eq_true, if_true, false_and, or_false,
      decide_eq_true_eq]
    omega

theorem mergeSort_before {rows : List RankedRow}
    (distinct : (rows.map fun found => found.row.model.id).Nodup) :
    (rows.mergeSort precedes).Pairwise Before := by
  apply mergeSort_strict (fun found => found.row.model.id) precedes_iff
  · exact fun before after => before_irrefl _ (before.trans after)
  · exact Before.split
  · intro a b different
    rcases before_total a b with before | after | ⟨_, _, same⟩
    · exact Or.inl before
    · exact Or.inr after
    · exact absurd same different
  · exact distinct

end RankedRow

end ModelCatalog
