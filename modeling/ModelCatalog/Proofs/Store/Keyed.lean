import ModelCatalog.Store.Basic

/-!
Rows with keys: lookups and replacements in lists in which no two rows share a key, and the lists in
strict order that sets of texts have.
-/

namespace ModelCatalog

theorem keys_changed {α κ : Type} (key : α → κ) {rows : List α} {chosen : α → Prop}
    [DecidablePred chosen] {change : α → α}
    (keeps : ∀ row ∈ rows, chosen row → key (change row) = key row) :
    (rows.map fun row => if chosen row then change row else row).map key = rows.map key := by
  rw [List.map_map]
  apply List.map_congr_left
  intro row member
  rw [Function.comp_apply]
  split
  next picked => exact keeps row member picked
  next => rfl

section Keyed

variable {α κ : Type} [DecidableEq κ] (key : α → κ)

theorem keys_replaced (rows : List α) (row : α) :
    (rows.map fun old => if key old = key row then row else old).map key = rows.map key :=
  keys_changed key fun _ _ same => same.symm

omit [DecidableEq κ] in
theorem nodup_keys_append {rows : List α} {row : α} (distinct : (rows.map key).Nodup)
    (fresh : key row ∉ rows.map key) : ((rows ++ [row]).map key).Nodup := by
  rw [List.map_append, List.map_singleton, List.nodup_append]
  refine ⟨distinct, by simp, ?_⟩
  intro old member new isNew same
  rw [List.mem_singleton.mp isNew] at same
  exact fresh (same ▸ member)

omit [DecidableEq κ] in
theorem key_fresh_of_nodup {rows added : List α} {row : α}
    (distinct : ((rows ++ row :: added).map key).Nodup) : key row ∉ rows.map key := by
  rw [List.map_append, List.map_cons, List.nodup_append] at distinct
  intro known
  exact distinct.2.2 _ known _ List.mem_cons_self rfl

theorem mem_replaced {rows : List α} {row : α} (present : key row ∈ rows.map key) (found : α) :
    (found ∈ rows.map fun old => if key old = key row then row else old) ↔
      found = row ∨ (found ∈ rows ∧ key found ≠ key row) := by
  constructor
  · intro member
    obtain ⟨old, oldMember, rfl⟩ := List.mem_map.mp member
    by_cases same : key old = key row
    · exact Or.inl (by simp [same])
    · exact Or.inr (by simpa [same] using oldMember)
  · intro either
    rcases either with rfl | ⟨member, differ⟩
    · obtain ⟨old, oldMember, same⟩ := List.mem_map.mp present
      exact List.mem_map.mpr ⟨old, oldMember, by simp [same]⟩
    · exact List.mem_map.mpr ⟨found, member, by simp [differ]⟩

theorem find_key_eq_some_iff {rows : List α} (distinct : (rows.map key).Nodup) (k : κ) (row : α) :
    rows.find? (fun found => key found == k) = some row ↔ row ∈ rows ∧ key row = k := by
  induction rows with
  | nil => simp
  | cons first rest ih =>
    rw [List.map_cons, List.nodup_cons] at distinct
    by_cases same : key first = k
    · simp only [List.find?_cons, same, beq_self_eq_true, Option.some.injEq, List.mem_cons]
      constructor
      · intro equal
        subst equal
        exact ⟨Or.inl rfl, same⟩
      · intro both
        rcases both with ⟨rfl | member, sameKey⟩
        · rfl
        · exact absurd (List.mem_map.mpr ⟨row, member, sameKey.trans same.symm⟩) distinct.1
    · have other : (key first == k) = false := by simpa using same
      simp only [List.find?_cons, other, ih distinct.2, List.mem_cons]
      constructor
      · exact fun found => ⟨Or.inr found.1, found.2⟩
      · intro both
        rcases both with ⟨rfl | member, sameKey⟩
        · exact absurd sameKey same
        · exact ⟨member, sameKey⟩

theorem find_key_eq_none_iff (rows : List α) (k : κ) :
    rows.find? (fun found => key found == k) = none ↔ k ∉ rows.map key := by
  simp [List.find?_eq_none]

theorem eq_of_key_eq {rows : List α} (distinct : (rows.map key).Nodup) {first second : α}
    (member : first ∈ rows) (member' : second ∈ rows) (same : key first = key second) :
    first = second := by
  have found := (find_key_eq_some_iff key distinct (key second) first).mpr ⟨member, same⟩
  have found' := (find_key_eq_some_iff key distinct (key second) second).mpr ⟨member', rfl⟩
  exact Option.some.inj (found.symm.trans found')

theorem find_replaced (rows : List α) (row : α) (k : κ) :
    (rows.map fun old => if key old = key row then row else old).find?
        (fun found => key found == k) =
      if k = key row ∧ key row ∈ rows.map key then some row
      else rows.find? fun found => key found == k := by
  induction rows with
  | nil => simp
  | cons first rest ih =>
    by_cases same : key first = key row <;> by_cases sought : key first = k
    · simp [← sought, same]
    · have other : k ≠ key row := fun equal => sought (same.trans equal.symm)
      have otherKey : (key row == k) = false := by simpa using Ne.symm other
      simp [same, otherKey, ih, other]
    · have other : k ≠ key row := fun equal => same (sought.trans equal)
      simp [sought, other]
    · simp only [List.map_cons, same, if_false, List.find?_cons, beq_eq_false_iff_ne.mpr sought, ih,
        List.mem_cons, Ne.symm same, false_or]

theorem filter_key {rows : List α} (distinct : (rows.map key).Nodup) (k : κ) :
    (rows.filter fun found => key found == k) =
      (rows.find? fun found => key found == k).toList := by
  induction rows with
  | nil => rfl
  | cons first rest ih =>
    rw [List.map_cons, List.nodup_cons] at distinct
    by_cases same : key first = k
    · have absent : rest.filter (fun found => key found == k) = [] := by
        apply List.filter_eq_nil_iff.mpr
        intro found member equal
        have sameKey : key found = key first := (by simpa using equal : key found = k).trans same.symm
        exact distinct.1 (List.mem_map.mpr ⟨found, member, sameKey⟩)
      simp [same, absent]
    · have other : (key first == k) = false := by simpa using same
      simp only [List.filter_cons, List.find?_cons, other, ih distinct.2, Bool.false_eq_true, if_false]

theorem filter_key_ne [DecidableEq α] {rows : List α} (distinct : (rows.map key).Nodup) {row : α}
    (member : row ∈ rows) : (rows.filter fun found => key found != key row) = rows.erase row := by
  have different : rows.Nodup :=
    List.Pairwise.of_map key (fun _ _ differ same => differ (congrArg key same)) distinct
  rw [different.erase_eq_filter]
  apply List.filter_congr
  intro found inTable
  rw [Bool.eq_iff_iff, bne_iff_ne, bne_iff_ne, ne_eq, ne_eq]
  exact not_congr ⟨eq_of_key_eq key distinct inTable member, congrArg key⟩

end Keyed

theorem lt_nextId {ids : List Nat} {id : Nat} (member : id ∈ ids) : id < nextId ids := by
  have below : ∀ (ids : List Nat) (least : Nat),
      least ≤ ids.foldl max least ∧ ∀ id ∈ ids, id ≤ ids.foldl max least := by
    intro ids
    induction ids with
    | nil => simp
    | cons first rest ih =>
      intro least
      obtain ⟨least_le, rest_le⟩ := ih (max least first)
      refine ⟨by rw [List.foldl_cons]; omega, ?_⟩
      intro id member
      rw [List.foldl_cons]
      rcases List.mem_cons.mp member with rfl | member
      · omega
      · exact rest_le id member
  have atMost := (below ids 0).2 id member
  rw [nextId]
  omega

theorem nextId_not_mem (ids : List Nat) : nextId ids ∉ ids :=
  fun member => Nat.lt_irrefl _ (lt_nextId member)

theorem nextId_range (n : Nat) : nextId (List.range' 1 n) = n + 1 := by
  induction n with
  | zero => rfl
  | succ n ih =>
    have last : (List.range' 1 n).foldl max 0 = n := Nat.succ.inj ih
    rw [List.range'_concat, nextId, List.foldl_append, last]
    simp only [List.foldl_cons, List.foldl_nil]
    omega

/-- Sorting puts items of different keys in a strict order, if the comparator places `a` first
unless `b` stands before `a`. -/
theorem mergeSort_strict {α κ : Type} {Before : α → α → Prop} {precedes : α → α → Bool}
    (key : α → κ) (precedes_iff : ∀ a b, precedes a b = true ↔ ¬Before b a)
    (asymm : ∀ {a b}, Before a b → ¬Before b a)
    (split : ∀ {a c}, Before a c → ∀ b, Before a b ∨ Before b c)
    (total : ∀ {a b}, key a ≠ key b → Before a b ∨ Before b a) {items : List α}
    (distinct : (items.map key).Nodup) : (items.mergeSort precedes).Pairwise Before := by
  have sorted : (items.mergeSort precedes).Pairwise fun a b => precedes a b = true := by
    apply List.pairwise_mergeSort
    · intro a b c first second
      rw [precedes_iff] at first second ⊢
      intro back
      rcases split back b with before | before
      · exact second before
      · exact first before
    · intro a b
      rw [Bool.or_eq_true, precedes_iff, precedes_iff]
      by_cases before : Before a b
      · exact Or.inl (asymm before)
      · exact Or.inr before
  have different : (items.mergeSort precedes).Pairwise fun a b => key a ≠ key b := by
    have perm := (List.mergeSort_perm items precedes).map key
    exact List.pairwise_map.mp (perm.symm.nodup distinct)
  refine (sorted.and different).imp ?_
  intro a b both
  obtain ⟨first, keys⟩ := both
  exact (total keys).resolve_right ((precedes_iff a b).mp first)

theorem eq_of_ascending {first second : List String} (ascending : first.Pairwise (· < ·))
    (ascending' : second.Pairwise (· < ·)) (same : ∀ text, text ∈ first ↔ text ∈ second) :
    first = second := by
  have distinct {texts : List String} (ascending : texts.Pairwise (· < ·)) : texts.Nodup := by
    refine ascending.imp ?_
    intro a b below equal
    subst equal
    exact String.lt_irrefl a below
  have perm : first.Perm second :=
    (List.perm_ext_iff_of_nodup (distinct ascending) (distinct ascending')).mpr same
  refine perm.eq_of_pairwise ?_ ascending ascending'
  intro a b _ _ below above
  exact absurd (String.lt_trans below above) (String.lt_irrefl a)

theorem nodup_eraseDups {α : Type} [BEq α] [LawfulBEq α] (values : List α) :
    values.eraseDups.Nodup := by
  induction length : values.length using Nat.strongRecOn generalizing values with
  | ind n ih =>
    cases values with
    | nil => simp
    | cons first rest =>
      rw [List.eraseDups_cons, List.nodup_cons]
      have shorter : (rest.filter fun value => !value == first).length < n := by
        have atMost := List.length_filter_le (fun value => !value == first) rest
        simp only [List.length_cons] at length
        omega
      exact ⟨by simp, ih _ shorter _ rfl⟩

theorem ascending_mergeSort {texts : List String} (distinct : texts.Nodup) :
    (texts.mergeSort fun a b => decide (a ≤ b)).Pairwise (· < ·) := by
  have sorted : (texts.mergeSort fun a b => decide (a ≤ b)).Pairwise fun a b => decide (a ≤ b) :=
    List.pairwise_mergeSort
      (fun a b c below above => by
        simp only [decide_eq_true_eq] at below above ⊢
        exact String.le_trans below above)
      (fun a b => by simpa using String.le_total a b) texts
  have different := (List.mergeSort_perm texts fun a b => decide (a ≤ b)).symm.nodup distinct
  refine (sorted.and different).imp ?_
  intro a b both
  obtain ⟨below, differ⟩ := both
  apply Classical.byContradiction
  intro above
  exact differ (String.le_antisymm (of_decide_eq_true below) (String.not_lt.mp above))

def ascendingTexts (texts : List String) : List String :=
  texts.eraseDups.mergeSort fun a b => decide (a ≤ b)

@[simp] theorem mem_ascendingTexts {texts : List String} {text : String} :
    text ∈ ascendingTexts texts ↔ text ∈ texts := by
  simp [ascendingTexts]

theorem ascendingTexts_ascending (texts : List String) :
    (ascendingTexts texts).Pairwise (· < ·) :=
  ascending_mergeSort (nodup_eraseDups texts)

end ModelCatalog
