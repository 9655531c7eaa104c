import Mathlib.Tactic.SplitIfs

/-!
The order of texts. Texts are compared by the code points of their characters, and that is the order
of their bytes in UTF-8: the bytes of a greater character are greater, whatever follows.
-/

namespace ModelCatalog.Text

def bytes (text : String) : List UInt8 := text.toList.flatMap String.utf8EncodeChar

theorem encodeChar_lt {c d : Char} (below : c < d) (s t : List UInt8) :
    String.utf8EncodeChar c ++ s < String.utf8EncodeChar d ++ t := by
  have less : c.val.toNat < d.val.toNat := below
  have small : d.val.toNat < 0x110000 := by
    rcases d.valid with low | high
    · omega
    · exact high.2
  simp only [String.utf8EncodeChar]
  generalize c.val.toNat = m at less ⊢
  generalize d.val.toNat = n at less small ⊢
  have digits (k : Nat) : k / 4096 = k / 64 / 64 ∧ k / 262144 = k / 64 / 64 / 64 := by
    rw [Nat.div_div_eq_div_mul, Nat.div_div_eq_div_mul]
    exact ⟨rfl, rfl⟩
  obtain ⟨second, third⟩ := digits m
  obtain ⟨second', third'⟩ := digits n
  -- The lengths of the two encodings decide which byte is the first that differs.
  split_ifs <;>
    simp only [List.cons_append, List.nil_append, List.cons_lt_cons_iff, UInt8.lt_iff_toNat_lt,
      ← UInt8.toNat_inj, UInt8.toNat_ofNat', second, second', third, third'] <;>
    simp (disch := omega) only [Nat.mod_eq_of_lt (b := 2 ^ 8), Nat.mod_eq_of_lt (b := 8)] <;>
    omega

theorem encodeChar_ne_nil (c : Char) : String.utf8EncodeChar c ≠ [] := by
  simp only [String.utf8EncodeChar]
  split_ifs <;> exact List.cons_ne_nil _ _

theorem flatMap_encode_lt {s t : List Char} (below : s < t) :
    s.flatMap String.utf8EncodeChar < t.flatMap String.utf8EncodeChar := by
  induction s generalizing t with
  | nil =>
    cases t with
    | nil => exact absurd below (List.lt_irrefl _)
    | cons d t =>
      cases encoded : String.utf8EncodeChar d with
      | nil => exact absurd encoded (encodeChar_ne_nil d)
      | cons byte rest => simp [encoded]
  | cons c s ih =>
    cases t with
    | nil => exact absurd below (List.not_lt_nil _)
    | cons d t =>
      rw [List.flatMap_cons, List.flatMap_cons]
      rcases List.cons_lt_cons_iff.mp below with first | ⟨rfl, rest⟩
      · exact encodeChar_lt first _ _
      · exact List.append_left_lt (ih rest)

theorem lt_iff_bytes_lt (a b : String) : a < b ↔ bytes a < bytes b := by
  have ordered {a b : String} (below : a < b) : bytes a < bytes b :=
    flatMap_encode_lt (show a.toList < b.toList from below)
  constructor
  · exact ordered
  · intro below
    apply Classical.byContradiction
    intro notBelow
    by_cases same : a = b
    · subst same
      exact List.lt_irrefl _ below
    · have above : b < a := by
        apply Classical.byContradiction
        intro notAbove
        exact same (String.le_antisymm notAbove notBelow)
      exact List.lt_irrefl _ (List.lt_trans below (ordered above))

end ModelCatalog.Text
