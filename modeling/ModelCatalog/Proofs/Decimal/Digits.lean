import Mathlib.Algebra.Group.Nat.Defs
import ModelCatalog.Decimal.Integer

/-!
The digits of a number are digits, and read as the number; with leading zeros they fill a fixed
number of places.
-/

namespace ModelCatalog.Decimal

theorem digits_isDigit {n : Nat} {c : Char} (member : c ∈ digits n) : c.isDigit = true :=
  Nat.isDigit_of_mem_toDigits (by decide) (by decide) member

theorem digits_ne_nil (n : Nat) : digits n ≠ [] := Nat.toDigits_ne_nil

theorem ofDigits_digits (n : Nat) : ofDigits (digits n) = n := Nat.ofDigitChars_ten_toDigits

theorem digits_pos {n : Nat} (positive : 0 < n) : ∃ c rest, digits n = c :: rest ∧ c ≠ '0' := by
  induction n using Nat.strongRecOn with
  | ind n ih =>
    by_cases small : n < 10
    · refine ⟨Nat.digitChar n, [], Nat.toDigits_of_lt_base small, ?_⟩
      exact (show ∀ n < 10, 0 < n → Nat.digitChar n ≠ '0' by decide) n small positive
    · have shorter : digits n = digits (n / 10) ++ [Nat.digitChar (n % 10)] :=
        Nat.toDigits_of_base_le (by decide) (by omega)
      obtain ⟨c, rest, first, differ⟩ := ih (n / 10) (by omega) (by omega)
      exact ⟨c, rest ++ [Nat.digitChar (n % 10)], by rw [shorter, first]; rfl, differ⟩

/-! A fixed number of places. -/

theorem padded_isDigit {width n : Nat} {c : Char} (member : c ∈ padded width n) :
    c.isDigit = true := by
  rcases List.mem_append.mp member with zero | digit
  · rw [List.eq_of_mem_replicate zero]
    decide
  · exact digits_isDigit digit

theorem padded_length {width n : Nat} (fits : n < 10 ^ width) (places : 0 < width) :
    (padded width n).length = width := by
  have digitsFit : (digits n).length ≤ width :=
    (Nat.length_toDigits_le_iff (by decide) places).mpr fits
  rw [padded, List.length_append, List.length_replicate]
  omega

theorem ofDigits_zeros (count : Nat) (text : List Char) :
    ofDigits (List.replicate count '0' ++ text) = ofDigits text := by
  induction count with
  | zero => rfl
  | succ count ih =>
    rw [List.replicate_succ, List.cons_append]
    exact ih

theorem ofDigits_padded (width n : Nat) : ofDigits (padded width n) = n := by
  rw [padded, ofDigits_zeros, ofDigits_digits]

theorem padded_cons (width n : Nat) :
    ∃ c rest, padded width n = c :: rest ∧ c.isDigit = true := by
  cases split : padded width n with
  | nil =>
    rw [padded, List.append_eq_nil_iff] at split
    exact absurd split.2 (digits_ne_nil n)
  | cons c rest => exact ⟨c, rest, rfl, padded_isDigit (split ▸ List.mem_cons_self)⟩

end ModelCatalog.Decimal
