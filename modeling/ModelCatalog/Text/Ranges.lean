/-!
Sets and maps of characters given by tables in ascending order. `contains_iff` reads a set's
table back as "some range holds the character".
-/

namespace ModelCatalog.Text

abbrev Ranges := List (Nat × Nat)

namespace Ranges

def contains : Ranges → Nat → Bool
  | [], _ => false
  | (first, last) :: rest, n =>
    if n < first then false else if n ≤ last then true else contains rest n

def Ascending : Ranges → Prop
  | [] => True
  | (first, last) :: rest => first ≤ last ∧ (∀ r ∈ rest, last < r.1) ∧ Ascending rest

theorem contains_iff {ranges : Ranges} (ascending : ranges.Ascending) (n : Nat) :
    ranges.contains n = true ↔ ∃ r ∈ ranges, r.1 ≤ n ∧ n ≤ r.2 := by
  induction ranges with
  | nil => simp [contains]
  | cons range rest ih =>
    obtain ⟨first, last⟩ := range
    obtain ⟨ordered, above, restAscending⟩ := ascending
    simp only [contains, List.mem_cons, exists_eq_or_imp]
    split
    next below =>
      simp only [Bool.false_eq_true, false_iff, not_or, not_and, not_exists]
      exact ⟨fun h => absurd h (by omega), fun r member h => by
        have := above r member
        omega⟩
    next notBelow =>
      split
      next within => simp only [true_iff]; exact Or.inl ⟨by omega, within⟩
      next beyond =>
        rw [ih restAscending]
        exact ⟨Or.inr, fun h => h.resolve_left (by omega)⟩

end Ranges

/-- A run of code points with one shift: every `step`th from `first` to `last` is mapped, and
`first` is mapped to `target`. -/
structure Shift where
  first : Nat
  last : Nat
  step : Nat
  target : Nat
  deriving Repr

abbrev Shifts := List Shift

namespace Shifts

def apply : Shifts → Nat → Nat
  | [], n => n
  | run :: rest, n =>
    if n < run.first then n
    else if n ≤ run.last ∧ (n - run.first) % run.step = 0 then n - run.first + run.target
    else apply rest n

end Shifts

end ModelCatalog.Text
