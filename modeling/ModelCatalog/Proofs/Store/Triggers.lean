import ModelCatalog.Proofs.Store.Keyed

/-!
The triggers between a table and its text index. A trigger sees one changed row: it takes out the texts
that the row had, and puts in the texts that it has. While only triggers change it, an index follows
its table.
-/

namespace ModelCatalog

structure Indexed (α : Type) where
  key : α → Nat
  entry : α → IndexEntry
  keyed : ∀ row, (entry row).id = key row

inductive RowChange (α : Type) where
  | inserted (new : α)
  | deleted (old : α)
  | updated (old new : α)

namespace RowChange

variable {α : Type} [DecidableEq α] (texts : Indexed α)

/-- The table can be changed so: only rows that are there are deleted or updated, keys are not taken
twice, and an update keeps the key. -/
def Fits (rows : List α) : RowChange α → Prop
  | inserted new => texts.key new ∉ rows.map texts.key
  | deleted old => old ∈ rows
  | updated old new => old ∈ rows ∧ texts.key new = texts.key old

def rowsAfter (rows : List α) : RowChange α → List α
  | inserted new => rows ++ [new]
  | deleted old => rows.erase old
  | updated old new => rows.map fun row => if row = old then new else row

/-- The triggers. What is taken out is the entry of the old texts: one with other texts would stay. -/
def indexAfter (index : TextIndex) : RowChange α → TextIndex
  | inserted new => index.insert (texts.entry new)
  | deleted old => List.erase index (texts.entry old)
  | updated old new => TextIndex.insert (List.erase index (texts.entry old)) (texts.entry new)

end RowChange

inductive Triggers {α : Type} [DecidableEq α] (texts : Indexed α) :
    List α → TextIndex → List α → TextIndex → Prop
  | none {rows : List α} {index : TextIndex} : Triggers texts rows index rows index
  | next {rows after : List α} {index indexAfter : TextIndex} (change : RowChange α)
      (fits : change.Fits texts rows)
      (further : Triggers texts (change.rowsAfter rows) (change.indexAfter texts index) after
        indexAfter) : Triggers texts rows index after indexAfter

namespace Indexed

/-- The index holds one entry for each row, with the texts that the row has now, and no other. -/
structure Follows {α : Type} (texts : Indexed α) (rows : List α) (index : TextIndex) : Prop where
  keys : (rows.map texts.key).Nodup
  entries : index.Perm (rows.map texts.entry)

section Following

variable {α : Type} {texts : Indexed α} {rows after : List α} {index indexAfter : TextIndex}

theorem Follows.ids (follows : texts.Follows rows index) : (index.map IndexEntry.id).Nodup := by
  have same : (rows.map texts.entry).map IndexEntry.id = rows.map texts.key := by
    rw [List.map_map]
    exact List.map_congr_left fun row _ => texts.keyed row
  refine (follows.entries.map IndexEntry.id).symm.nodup ?_
  rw [same]
  exact follows.keys

theorem Follows.mem (follows : texts.Follows rows index) {row : α} (member : row ∈ rows) :
    texts.entry row ∈ index := follows.entries.mem_iff.mpr (List.mem_map_of_mem member)

variable [DecidableEq α]

theorem erase_entries (texts : Indexed α) {old : α} (member : old ∈ rows) :
    ((rows.map texts.entry).erase (texts.entry old)).Perm ((rows.erase old).map texts.entry) := by
  have whole := (List.perm_cons_erase member).map texts.entry
  have erased := List.perm_cons_erase (List.mem_map_of_mem (f := texts.entry) member)
  exact (erased.symm.trans whole).cons_inv

theorem updated_perm (distinct : rows.Nodup) {old : α} (member : old ∈ rows) (new : α) :
    (rows.map fun row => if row = old then new else row).Perm (rows.erase old ++ [new]) := by
  induction rows with
  | nil => cases member
  | cons first rest ih =>
    obtain ⟨absent, others⟩ := List.nodup_cons.mp distinct
    by_cases same : first = old
    · subst same
      have kept : (rest.map fun row => if row = first then new else row) = rest := by
        rw [List.map_congr_left (g := id), List.map_id]
        intro row inRest
        exact if_neg fun equal : row = first => absent (equal ▸ inRest)
      rw [List.map_cons, if_pos rfl, kept, List.erase_cons_head]
      exact (List.perm_append_singleton new rest).symm
    · have inRest : old ∈ rest := (List.mem_cons.mp member).resolve_left (Ne.symm same)
      rw [List.map_cons, if_neg same, List.erase_cons_tail (by simpa using same), List.cons_append]
      exact (ih others inRest).cons first

/-- Every trigger keeps an index in step with its table. -/
theorem Follows.change (follows : texts.Follows rows index) {change : RowChange α}
    (fits : change.Fits texts rows) :
    texts.Follows (change.rowsAfter rows) (change.indexAfter texts index) := by
  have distinct : rows.Nodup :=
    List.Pairwise.of_map texts.key (fun _ _ differ same => differ (congrArg texts.key same))
      follows.keys
  cases change with
  | inserted new =>
    refine ⟨nodup_keys_append texts.key follows.keys fits, ?_⟩
    simp only [RowChange.rowsAfter, RowChange.indexAfter, TextIndex.insert, List.map_append]
    exact follows.entries.append_right _
  | deleted old =>
    exact ⟨follows.keys.sublist (List.erase_sublist.map texts.key),
      (follows.entries.erase _).trans (texts.erase_entries fits)⟩
  | updated old new =>
    obtain ⟨member, sameKey⟩ := fits
    refine ⟨?_, ?_⟩
    · have keys : (rows.map fun row => if row = old then new else row).map texts.key =
          rows.map texts.key :=
        @keys_changed _ _ texts.key rows (· = old) _ (fun _ => new)
          fun row _ same => sameKey.trans (congrArg texts.key same.symm)
      exact keys.symm ▸ follows.keys
    · have replaced := (updated_perm distinct member new).map texts.entry
      rw [List.map_append] at replaced
      have erased := (follows.entries.erase (texts.entry old)).trans (texts.erase_entries member)
      exact (erased.append_right _).trans replaced.symm

theorem Follows.triggers (follows : texts.Follows rows index)
    (fired : Triggers texts rows index after indexAfter) : texts.Follows after indexAfter := by
  induction fired with
  | none => exact follows
  | next change fits _ ih => exact ih (follows.change fits)

end Following

end Indexed

namespace Triggers

variable {α : Type} [DecidableEq α] {texts : Indexed α} {rows after last : List α}
  {index indexAfter lastIndex : TextIndex}

theorem trans (first : Triggers texts rows index after indexAfter)
    (second : Triggers texts after indexAfter last lastIndex) :
    Triggers texts rows index last lastIndex := by
  induction first with
  | none => exact second
  | next change fits _ ih => exact .next change fits (ih second)

theorem insert (row : α) (fresh : texts.key row ∉ rows.map texts.key) :
    Triggers texts rows index (rows ++ [row]) (index.insert (texts.entry row)) :=
  .next (.inserted row) fresh .none

theorem replace (row : α) (follows : texts.Follows rows index) {old : α} (member : old ∈ rows)
    (same : texts.key row = texts.key old) :
    Triggers texts rows index
      (rows.map fun found => if texts.key found = texts.key row then row else found)
      (index.replace (texts.entry row)) := by
  have updated : (rows.map fun found => if texts.key found = texts.key row then row else found) =
      rows.map fun found => if found = old then row else found := by
    apply List.map_congr_left
    intro found inTable
    have only : texts.key found = texts.key row ↔ found = old := by
      rw [same]
      exact ⟨eq_of_key_eq texts.key follows.keys inTable member, congrArg texts.key⟩
    simp only [only]
  have erased : index.erase (texts.entry row).id = List.erase index (texts.entry old) := by
    rw [← filter_key_ne IndexEntry.id follows.ids (follows.mem member), texts.keyed, same,
      ← texts.keyed old]
    rfl
  rw [updated, TextIndex.replace, erased]
  exact .next (.updated old row) ⟨member, same⟩ .none

end Triggers

end ModelCatalog
