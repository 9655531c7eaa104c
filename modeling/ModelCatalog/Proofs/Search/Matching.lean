import ModelCatalog.Proofs.Search.Order
import ModelCatalog.Proofs.Store.Indexes
import ModelCatalog.Proofs.TextMatch.Reading

/-!
Which models a search lists: those that meet its conditions and that its text, as it is read in the
end, ranks. The indexes follow their tables, so that what the text matches are the texts of a model
and its metadata as they are now.
-/

namespace ModelCatalog

open TextMatch (Expression)

def CatalogRow.isMatch (row : CatalogRow) (expression : Expression) : Bool :=
  expression.isMatch (.ofEntry row.model.indexEntry) ||
    row.metadata.any fun metadata => expression.isMatch (.ofEntry metadata.indexEntry)

/-- What the text of a search is after in the end. -/
inductive Wanted where
  | everything
  | nothing
  | text (expression : Expression)

/-- A text that compiles to nothing restricts nothing; a text that cannot be read gives way to its
fallback, and without one nothing is found. -/
def TextMatch.wanted (freeText : String) : Wanted :=
  if TextMatch.compile freeText = "" then .everything
  else
    match TextMatch.parseExpression (TextMatch.compile freeText) with
    | .ok expression => .text expression
    | .error _ =>
      match TextMatch.parseExpression (TextMatch.fallback freeText) with
      | .ok expression => .text expression
      | .error _ => .nothing

namespace Store

def score (store : Store) (expression : Expression) (id : Nat) : Float :=
  let ranking := store.ranking expression
  (ranking.models.lookup id).getD 0 + (ranking.metadata.lookup id).getD 0

def rankOf? (store : Store) (wanted : Wanted) (row : CatalogRow) : Option Float :=
  match wanted with
  | .everything => some 0
  | .nothing => none
  | .text expression => (store.ranking expression).rank? row.model.id

def listing (store : Store) (present : Time.Instant) (plan : SearchPlan) (wanted : Wanted) :
    List RankedRow :=
  ((store.candidates present plan).filterMap fun row =>
    (store.rankOf? wanted row).map fun rank => ⟨row, rank⟩).mergeSort RankedRow.precedes

def Ranks (store : Store) (wanted : Wanted) (found : RankedRow) : Prop :=
  match wanted with
  | .everything => found.rank = 0
  | .nothing => False
  | .text expression =>
    found.row.isMatch expression = true ∧
      found.rank = store.score expression found.row.model.id

/-- The rows are those that meet the conditions of a plan and are wanted, each model once and in
order. -/
structure Lists (store : Store) (present : Time.Instant) (plan : SearchPlan) (wanted : Wanted)
    (rows : List RankedRow) : Prop where
  ordered : rows.Pairwise RankedRow.Before
  distinct : (rows.map fun found => found.row.model.id).Nodup
  exact : ∀ found, found ∈ rows ↔
    (found.row ∈ store.rows ∧ ∀ condition ∈ plan.conditions,
      condition.holds present found.row = true) ∧ store.Ranks wanted found

theorem lookup_scores {α : Type} (key : α → Nat) (entry : α → IndexEntry)
    (keyed : ∀ row, (entry row).id = key row) {rows : List α} {index : TextIndex}
    (follows : index.Perm (rows.map entry)) (expression : Expression) (k : Nat) :
    ((TextIndex.scores index.rows expression).lookup k).isSome = true ↔
      ∃ row ∈ rows, key row = k ∧ expression.isMatch (.ofEntry (entry row)) = true := by
  rw [List.lookup_isSome_iff]
  simp only [TextIndex.scores, TextIndex.rows, List.mem_map, List.mem_filter, beq_iff_eq]
  constructor
  · intro some
    obtain ⟨scored, ⟨_, ⟨⟨indexed, member, rfl⟩, isMatch⟩, rfl⟩, same⟩ := some
    obtain ⟨row, present, rfl⟩ := List.mem_map.mp (follows.mem_iff.mp member)
    exact ⟨row, present, (keyed row).symm.trans same.symm, isMatch⟩
  · intro matched
    obtain ⟨row, present, rfl, isMatch⟩ := matched
    have member : entry row ∈ index := follows.mem_iff.mpr (List.mem_map_of_mem present)
    exact ⟨_, ⟨_, ⟨⟨entry row, member, rfl⟩, isMatch⟩, rfl⟩, (keyed row).symm⟩

theorem Ranking.rank_eq_some_iff (ranking : Ranking) (id : Nat) (rank : Float) :
    ranking.rank? id = some rank ↔
      ((ranking.models.lookup id).isSome = true ∨ (ranking.metadata.lookup id).isSome = true) ∧
        rank = (ranking.models.lookup id).getD 0 + (ranking.metadata.lookup id).getD 0 := by
  unfold Ranking.rank?
  cases ranking.models.lookup id <;> cases ranking.metadata.lookup id <;> simp [eq_comm]

section Listing

variable {store : Store} (tables : store.TablesSound) (indexes : store.IndexesSound)
include tables

theorem rows_distinct : (store.rows.map fun row => row.model.id).Nodup := by
  have ids : (store.rows.map fun row => row.model.id) = store.models.map ModelRow.id := by
    simp [rows]
  rw [ids]
  exact tables.modelIds_nodup

theorem row_id_le {row : CatalogRow} (member : row ∈ store.rows) :
    row.model.id ≤ store.models.length := by
  obtain ⟨model, present, rfl⟩ := List.mem_map.mp member
  have numbered : model.id ∈ List.range' 1 store.models.length :=
    tables.modelIds ▸ List.mem_map_of_mem present
  rw [List.mem_range'_1] at numbered
  exact Nat.le_of_lt_succ (Nat.lt_of_lt_of_eq numbered.2 (Nat.add_comm 1 _))

include indexes

/-- A model is ranked exactly if the expression matches its texts or those of its metadata. -/
theorem rank_eq_some_iff {row : CatalogRow} (member : row ∈ store.rows) (expression : Expression)
    (rank : Float) :
    (store.ranking expression).rank? row.model.id = some rank ↔
      row.isMatch expression = true ∧ rank = store.score expression row.model.id := by
  obtain ⟨model, present, rfl⟩ := List.mem_map.mp member
  have models := lookup_scores ModelRow.id ModelRow.indexEntry (fun _ => rfl) indexes.models
    expression model.id
  have metadata := lookup_scores MetadataRow.modelId MetadataRow.indexEntry (fun _ => rfl)
    indexes.metadata expression model.id
  have ofModel : (∃ other ∈ store.models, other.id = model.id ∧
      expression.isMatch (.ofEntry other.indexEntry) = true) ↔
        expression.isMatch (.ofEntry model.indexEntry) = true := by
    constructor
    · intro some
      obtain ⟨other, otherPresent, same, isMatch⟩ := some
      rw [← eq_of_key_eq ModelRow.id tables.modelIds_nodup otherPresent present same]
      exact isMatch
    · exact fun isMatch => ⟨model, present, rfl, isMatch⟩
  have ofMetadata : (∃ other ∈ store.metadata, other.modelId = model.id ∧
      expression.isMatch (.ofEntry other.indexEntry) = true) ↔
        ((store.metadataOf? model.id).any fun metadata =>
          expression.isMatch (.ofEntry metadata.indexEntry)) = true := by
    have found := find_key_eq_some_iff MetadataRow.modelId tables.metadataIds model.id
    rw [Option.any_eq_true]
    simp only [metadataOf?, found, and_assoc]
  rw [Ranking.rank_eq_some_iff, CatalogRow.isMatch, Bool.or_eq_true, ← ofModel, ← ofMetadata,
    ← models, ← metadata]
  rfl

theorem rankOf_eq_some_iff {row : CatalogRow} (member : row ∈ store.rows) (wanted : Wanted)
    (rank : Float) : store.rankOf? wanted row = some rank ↔ store.Ranks wanted ⟨row, rank⟩ := by
  cases wanted with
  | everything =>
    simp only [rankOf?, Ranks, Option.some.injEq]
    exact eq_comm
  | nothing => simp [rankOf?, Ranks]
  | text expression => exact rank_eq_some_iff tables indexes member expression rank

theorem listing_lists (present : Time.Instant) (plan : SearchPlan) (wanted : Wanted) :
    store.Lists present plan wanted (store.listing present plan wanted) := by
  let ranked (row : CatalogRow) : Option RankedRow :=
    (store.rankOf? wanted row).map fun rank => ⟨row, rank⟩
  have ranked_eq (row : CatalogRow) (found : RankedRow) :
      ranked row = some found ↔ store.rankOf? wanted row = some found.rank ∧ found.row = row := by
    simp only [ranked, Option.map_eq_some_iff]
    constructor
    · intro ranks
      obtain ⟨rank, same, rfl⟩ := ranks
      exact ⟨same, rfl⟩
    · intro ranks
      obtain ⟨same, rfl⟩ := ranks
      exact ⟨found.rank, same, rfl⟩
  have distinct : (((store.candidates present plan).filterMap ranked).map
      fun found => found.row.model.id).Nodup := by
    have candidates : (store.candidates present plan).Pairwise
        fun row other => row.model.id ≠ other.model.id :=
      (List.pairwise_map.mp (rows_distinct tables)).filter _
    rw [List.Nodup, List.pairwise_map, List.pairwise_filterMap]
    refine candidates.imp ?_
    intro row other different found isFound later isLater
    rw [((ranked_eq row found).mp isFound).2, ((ranked_eq other later).mp isLater).2]
    exact different
  have perm := List.mergeSort_perm ((store.candidates present plan).filterMap ranked)
    RankedRow.precedes
  refine ⟨RankedRow.mergeSort_before distinct, ?_, ?_⟩
  · exact (perm.map fun found => found.row.model.id).symm.nodup distinct
  · intro found
    change found ∈ ((store.candidates present plan).filterMap ranked).mergeSort _ ↔ _
    simp only [List.mem_mergeSort, List.mem_filterMap, ranked_eq, candidates, List.mem_filter,
      List.all_eq_true]
    constructor
    · intro listed
      obtain ⟨row, ⟨member, meets⟩, isRanked, rfl⟩ := listed
      exact ⟨⟨member, meets⟩, (rankOf_eq_some_iff tables indexes member wanted _).mp isRanked⟩
    · intro fitting
      obtain ⟨⟨member, meets⟩, ranks⟩ := fitting
      exact ⟨found.row, ⟨member, meets⟩,
        (rankOf_eq_some_iff tables indexes member wanted _).mpr ranks, rfl⟩

end Listing

end Store

end ModelCatalog
