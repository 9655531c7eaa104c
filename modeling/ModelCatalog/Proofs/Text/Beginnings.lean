import ModelCatalog.Proofs.Text.Casing

/-!
Beginnings of a text in lower case. Lower case keeps them as long as it need not look at what follows,
and it looks no further than to see whether a capital sigma ends a word.
-/

namespace ModelCatalog.Text

theorem beginsCased_append_of {text : List Char} (cased : beginsCased text = true)
    (rest : List Char) : beginsCased (text ++ rest) = true := by
  rw [beginsCased] at cased ⊢
  rw [List.dropWhile_append]
  split at cased
  · cases cased
  next c more counted =>
    rw [counted]
    exact cased

section Sigmas

/-- Behind the characters of `before`, nearest first, no capital sigma ends a word of `text` that goes on
in `rest`. -/
def KeepsFinalSigmas (before text rest : List Char) : Prop :=
  ∀ front back, text = front ++ capitalSigma :: back →
    beginsCased (front.reverse ++ before) = true →
    beginsCased (back ++ rest) = true → beginsCased back = true

theorem keepsFinalSigmas_nil (before rest : List Char) : KeepsFinalSigmas before [] rest := by
  intro front back impossible
  simp at impossible

theorem keepsFinalSigmas_cons_iff (before : List Char) (c : Char) (text rest : List Char) :
    KeepsFinalSigmas before (c :: text) rest ↔
      (c = capitalSigma → beginsCased before = true →
        beginsCased (text ++ rest) = true → beginsCased text = true) ∧
      KeepsFinalSigmas (c :: before) text rest := by
  constructor
  · intro keeps
    refine ⟨?_, ?_⟩
    · rintro rfl
      exact keeps [] text rfl
    · rintro front back rfl
      simpa using keeps (c :: front) back rfl
  · rintro ⟨first, later⟩ front back split
    cases front with
    | nil =>
      obtain ⟨rfl, rfl⟩ := List.cons.inj split
      exact first rfl
    | cons d front =>
      obtain ⟨rfl, rfl⟩ := List.cons.inj split
      simpa using later front back rfl

theorem keepsFinalSigmas_of_not_mem {before text rest : List Char} (none : capitalSigma ∉ text) :
    KeepsFinalSigmas before text rest := by
  rintro front back rfl
  exact absurd (List.mem_append_right front List.mem_cons_self) none

theorem sigmas_prefix_iff (final otherFinal : Bool) (text other : List Char) :
    (if final then ['ς'] else ['σ']) ++ text <+: (if otherFinal then ['ς'] else ['σ']) ++ other ↔
      final = otherFinal ∧ text <+: other := by
  cases final <;> cases otherFinal <;> simp [List.cons_prefix_cons]

/-- Lower case keeps a beginning exactly if a capital sigma that ends a word in it ends the word in the
whole text. -/
theorem lowerAfter_prefix_iff (before text rest : List Char) :
    lowerAfter before text <+: lowerAfter before (text ++ rest) ↔
      KeepsFinalSigmas before text rest := by
  induction text generalizing before with
  | nil => simp [lowerAfter, keepsFinalSigmas_nil]
  | cons c text ih =>
    rw [keepsFinalSigmas_cons_iff, List.cons_append, lowerAfter, lowerAfter]
    by_cases sigma : c = capitalSigma
    · have goesOn : beginsCased text = true → beginsCased (text ++ rest) = true :=
        fun cased => beginsCased_append_of cased rest
      rw [if_pos sigma, if_pos sigma, sigmas_prefix_iff, ih, imp_iff_right sigma]
      apply and_congr_left'
      -- The sigma is another letter only where the word ends with `text` but goes on in `rest`.
      revert goesOn
      generalize beginsCased before = inWord, beginsCased text = cased,
        beginsCased (text ++ rest) = on
      revert inWord cased on
      decide
    · rw [if_neg sigma, if_neg sigma, List.prefix_append_right_inj, ih]
      simp [sigma]

end Sigmas

theorem asciiLower_prefix_of_lower_prefix {typed text : List Char}
    (folds : ∀ c ∈ typed ++ text.take typed.length, FoldsInAscii c)
    (begins : lower typed <+: lower text) : asciiLower typed <+: asciiLower text := by
  obtain ⟨typedFolds, startFolds⟩ := List.forall_mem_append.mp folds
  have start : asciiLower (text.take typed.length) <+: lower text := by
    have parts := lowerAfter_append_of_folds startFolds [] (text.drop typed.length)
    rw [List.take_append_drop] at parts
    exact ⟨_, parts.symm⟩
  have within : asciiLower (text.take typed.length) <+: asciiLower text :=
    (List.take_prefix _ _).map Char.toLower
  rw [lower, lowerAfter_of_folds typedFolds] at begins
  -- A text that is too short to be compared with all that has been typed folds as a whole.
  by_cases short : text.length ≤ typed.length
  · rw [List.take_of_length_le short] at startFolds
    rwa [lower, lowerAfter_of_folds startFolds] at begins
  · refine (List.prefix_of_prefix_length_le begins start ?_).trans within
    simp [asciiLower]
    omega

end ModelCatalog.Text
