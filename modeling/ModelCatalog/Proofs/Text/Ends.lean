import ModelCatalog.Text.Character

/-!
Where texts end for what does not know their length. A text without the character NUL is taken as a
whole, and of any other one only what stands before its first NUL.
-/

namespace ModelCatalog.Text

/-- The text does not hold the character at which it would end. -/
def HasNoNul (text : List Char) : Prop := ∀ c ∈ text, c.toNat ≠ 0

instance (text : List Char) : Decidable (HasNoNul text) := List.decidableBAll _ text

theorem untilNul_cons (c : Char) (text : List Char) :
    untilNul (c :: text) = if c.toNat = 0 then [] else c :: untilNul text := by
  rw [untilNul, List.takeWhile_cons, untilNul]
  by_cases nul : c.toNat = 0 <;> simp [nul]

@[simp] theorem hasNoNul_nil : HasNoNul [] := fun _ none => nomatch none

@[simp] theorem hasNoNul_cons (c : Char) (rest : List Char) :
    HasNoNul (c :: rest) ↔ c.toNat ≠ 0 ∧ HasNoNul rest := List.forall_mem_cons

@[simp] theorem hasNoNul_append (text rest : List Char) :
    HasNoNul (text ++ rest) ↔ HasNoNul text ∧ HasNoNul rest := List.forall_mem_append

@[simp] theorem hasNoNul_reverse (text : List Char) : HasNoNul text.reverse ↔ HasNoNul text := by
  simp [HasNoNul]

theorem toNat_ne_zero {test : Char → Bool} {c : Char} (passes : test c = true)
    (nul : test (Char.ofNat 0) = false) : c.toNat ≠ 0 := by
  intro zero
  obtain rfl : c = Char.ofNat 0 := Char.toNat_inj.mp zero
  rw [passes] at nul
  cases nul

theorem hasNoNul_of_all {test : Char → Bool} {text : List Char} (all : ∀ c ∈ text, test c = true)
    (nul : test (Char.ofNat 0) = false) : HasNoNul text :=
  fun c member => toNat_ne_zero (all c member) nul

theorem untilNul_append {text : List Char} (noNul : HasNoNul text) (rest : List Char) :
    untilNul (text ++ rest) = text ++ untilNul rest :=
  List.takeWhile_append_of_pos fun c member => by simpa using noNul c member

theorem untilNul_eq {text : List Char} (noNul : HasNoNul text) : untilNul text = text := by
  have whole := untilNul_append noNul []
  rwa [List.append_nil, show untilNul [] = [] from rfl, List.append_nil] at whole

theorem untilNul_append_of_nul {text : List Char} (nul : ¬HasNoNul text) (rest : List Char) :
    untilNul (text ++ rest) = untilNul text := by
  induction text with
  | nil => exact absurd hasNoNul_nil nul
  | cons c text ih =>
    rw [List.cons_append, untilNul_cons, untilNul_cons]
    split
    next => rfl
    next visible => rw [ih fun noNul => nul ((hasNoNul_cons c text).mpr ⟨visible, noNul⟩)]

end ModelCatalog.Text
