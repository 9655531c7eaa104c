import Mathlib.Data.List.Basic
import ModelCatalog.Proofs.Store.Runs
import ModelCatalog.Proofs.Time.StoreReading

/-!
The history after a whole run: which searches it holds, in which order they are listed, and which of
them a clearing removes.
-/

namespace ModelCatalog

open Time (Instant secondsPerDay)

/-- The instant lies more than so many days before the other one, in whole seconds. -/
def Time.Instant.isOlder (time now : Instant) (days : UInt32) : Bool :=
  decide (time.second < now.second - secondsPerDay * days.toNat)

/-! The order in which the history is listed. -/

namespace HistoryRow

/-- The time stamp of `a` is the greater one, or they are equal and `a` has the greater id. -/
def Newer (a b : HistoryRow) : Prop :=
  b.createdAt < a.createdAt ∨ a.createdAt = b.createdAt ∧ b.id < a.id

variable {a b c : HistoryRow}

theorem precedes_iff (a b : HistoryRow) : a.precedes b = true ↔ ¬b.Newer a := by
  unfold precedes Newer
  by_cases same : a.createdAt = b.createdAt
  · simp [same]
  · simp only [same, Ne.symm same, ne_eq, not_false_eq_true, if_true, false_and, or_false,
      decide_eq_true_eq]
    constructor
    · exact fun later earlier => String.lt_irrefl _ (String.lt_trans later earlier)
    · intro notEarlier
      apply Classical.byContradiction
      intro notLater
      exact same (String.le_antisymm notLater notEarlier)

theorem Newer.trans (first : a.Newer b) (second : b.Newer c) : a.Newer c := by
  rcases first with later | ⟨same, above⟩
  · rcases second with other | ⟨same', _⟩
    · exact Or.inl (String.lt_trans other later)
    · exact Or.inl (same' ▸ later)
  · rcases second with other | ⟨same', above'⟩
    · exact Or.inl (same ▸ other)
    · exact Or.inr ⟨same.trans same', Nat.lt_trans above' above⟩

theorem newer_irrefl (a : HistoryRow) : ¬a.Newer a := by
  intro newer
  rcases newer with later | ⟨_, above⟩
  · exact String.lt_irrefl _ later
  · exact Nat.lt_irrefl _ above

theorem newer_total (a b : HistoryRow) :
    a.Newer b ∨ b.Newer a ∨ a.createdAt = b.createdAt ∧ a.id = b.id := by
  by_cases same : a.createdAt = b.createdAt
  · rcases Nat.lt_trichotomy a.id b.id with below | alike | above
    · exact Or.inr (Or.inl (Or.inr ⟨same.symm, below⟩))
    · exact Or.inr (Or.inr ⟨same, alike⟩)
    · exact Or.inl (Or.inr ⟨same, above⟩)
  · by_cases later : b.createdAt < a.createdAt
    · exact Or.inl (Or.inl later)
    · refine Or.inr (Or.inl (Or.inl ?_))
      apply Classical.byContradiction
      intro notEarlier
      exact same (String.le_antisymm later notEarlier)

theorem Newer.split (first : a.Newer c) (b : HistoryRow) : a.Newer b ∨ b.Newer c := by
  rcases newer_total a b with newer | older | ⟨sameTime, sameId⟩
  · exact Or.inl newer
  · exact Or.inr (older.trans first)
  · rw [Newer, sameTime, sameId] at first
    exact Or.inr first

theorem mergeSort_newer {rows : List HistoryRow} (distinct : (rows.map HistoryRow.id).Nodup) :
    (rows.mergeSort precedes).Pairwise Newer := by
  apply mergeSort_strict HistoryRow.id precedes_iff
  · exact fun newer older => newer_irrefl _ (newer.trans older)
  · exact Newer.split
  · intro a b different
    rcases newer_total a b with newer | older | ⟨_, same⟩
    · exact Or.inl newer
    · exact Or.inr older
    · exact absurd same different
  · exact distinct

end HistoryRow

def Step.forgets (step : Step) (time : Instant) : Bool :=
  step.clearing?.any fun days => time.isOlder step.now days

theorem countOf_countOf (n : Int64) : countOf (countOf n).toInt64 = countOf n := by
  unfold countOf
  split
  next => rfl
  next notBelow => rw [Int64.toInt64_toUInt64, if_neg notBelow]

namespace Recording

variable (recording : Recording)

def entry (id : Nat) : HistoryRecord :=
  ⟨Int64.ofNat id, recording.query, recording.own, recording.result.totalCount,
    recording.now.timestamp⟩

theorem countOf_total :
    countOf recording.result.totalCount.toInt64 = recording.result.totalCount := by
  obtain ⟨_, _, _, shows⟩ := Store.shows_of_search recording.found
  rw [shows.total, countOf_countOf]

theorem ofRecord_row (id : Nat) :
    HistoryRecord.ofRecord (recording.row id).record = .ok (recording.entry id) := by
  have stored : storedFilters (recording.row id).record = .ok recording.own :=
    storedFilters_encode rfl
  have number : (recording.row id).record.integer? "id" = some (Int64.ofNat id) := rfl
  have query : (recording.row id).record.text? "query" = some recording.query := rfl
  have count : (recording.row id).record.integer? "result_count" =
      some recording.result.totalCount.toInt64 := rfl
  have createdAt : (recording.row id).record.text? "created_at" =
      some recording.now.timestamp := rfl
  rw [HistoryRecord.ofRecord, stored, number, query, count, createdAt]
  simp only [Option.getD_some, countOf_total]
  rfl

theorem isBefore_row {now : Instant} (recorded : recording.now.IsDated) (dated : now.IsDated)
    (present : Instant) (days : UInt32) (id : Nat) :
    Store.isBefore present (now.daysBefore days).timestamp (recording.row id) =
      recording.now.isOlder now days := by
  have cutoff := Time.Instant.isDated_daysBefore dated days
  rw [Store.isBefore, row, Time.Instant.milliseconds?_timestamp recorded,
    Time.Instant.milliseconds?_timestamp cutoff, Condition.compareTimes, Time.Instant.isOlder,
    decide_eq_decide, ← Time.Instant.lt_daysBefore_iff recorded]
  omega

theorem clears_row {step : Step} (recorded : recording.now.IsDated) (dated : step.now.IsDated)
    (id : Nat) : step.clears (recording.row id) = step.forgets recording.now := by
  have older (days : UInt32) := recording.isBefore_row recorded dated step.present days id
  simp only [Step.clears, Step.forgets, older]

end Recording

namespace Store

/-- The searches that a run recorded and that no later step of it forgets, each with its number among
all that it recorded. -/
def remembered (steps : List Step) : List (Recording × Nat) :=
  (((recordings {} steps).zipIdx 1).filter fun made =>
    !made.1.2.any fun step => step.forgets made.1.1.now).map fun made => (made.1.1, made.2)

section Remembering

variable {steps : List Step} (dated : ∀ step ∈ steps, step.now.IsDated)
include dated

theorem recording_dated {recording : Recording} {later : List Step}
    (member : (recording, later) ∈ recordings {} steps) :
    recording.now.IsDated ∧ ∀ step ∈ later, step.now.IsDated := by
  obtain ⟨earlier, step, split, recorded⟩ := mem_recordings member
  have inRun : step ∈ steps := by simp [split]
  refine ⟨recording_now recorded ▸ dated step inRun, ?_⟩
  intro next follows
  exact dated next (by simp [split, follows])

theorem isKept_eq {made : (Recording × List Step) × Nat} (member : made.1 ∈ recordings {} steps) :
    IsKept made = !made.1.2.any fun step => step.forgets made.1.1.now := by
  obtain ⟨recorded, follows⟩ := recording_dated dated member
  have agree (step : Step) (later : step ∈ made.1.2) :
      step.clears (made.1.1.row made.2) = step.forgets made.1.1.now :=
    made.1.1.clears_row recorded (follows step later) made.2
  rw [IsKept, Bool.not_inj_iff, Bool.eq_iff_iff, List.any_eq_true, List.any_eq_true]
  exact exists_congr fun step => and_congr_right fun later => by rw [agree step later]

theorem history_remembered : (afterAll {} steps).history =
    (remembered steps).map fun entry => entry.1.row entry.2 := by
  have same := List.filter_congr fun made (member : made ∈ (recordings {} steps).zipIdx 1) =>
    isKept_eq dated (List.fst_mem_of_mem_zipIdx member)
  calc
    (afterAll {} steps).history =
        (((recordings {} steps).zipIdx 1).filter IsKept).map fun made => made.1.1.row made.2 :=
      (history_afterAll steps).1
    _ = (((recordings {} steps).zipIdx 1).filter fun made =>
          !made.1.2.any fun step => step.forgets made.1.1.now).map
            fun made => made.1.1.row made.2 := by rw [same]
    _ = (remembered steps).map fun entry => entry.1.row entry.2 := by
      rw [remembered, List.map_map]
      rfl

theorem remembered_dated {entry : Recording × Nat} (member : entry ∈ remembered steps) :
    entry.1.now.IsDated := by
  obtain ⟨made, kept, rfl⟩ := List.mem_map.mp member
  exact (recording_dated dated (List.fst_mem_of_mem_zipIdx (List.mem_filter.mp kept).1)).1

end Remembering

theorem remembered_ascending (steps : List Step) :
    (remembered steps).Pairwise fun earlier later => earlier.2 < later.2 := by
  have numbers : (((recordings {} steps).zipIdx 1).map Prod.snd).Pairwise (· < ·) := by
    rw [List.zipIdx_map_snd]
    exact List.pairwise_lt_range'
  rw [List.pairwise_map] at numbers
  rw [remembered, List.pairwise_map]
  exact numbers.filter _

/-- An id that was given once is not given again, also when its row is cleared away. -/
theorem id_of_later (store : Store) (more : List Step) {row : HistoryRow}
    (later : row ∈ (store.afterAll more).history) :
    row ∈ store.history ∨ store.nextHistoryId ≤ row.id := by
  induction more generalizing store with
  | nil => exact Or.inl later
  | cons step rest ih =>
    obtain ⟨history, next⟩ := after_history step store
    rcases ih (step.after store) later with old | fresh
    · rw [history, List.mem_append] at old
      rcases old with kept | added
      · exact Or.inl (List.mem_filter.mp kept).1
      · obtain ⟨recording, _, rfl⟩ := List.mem_map.mp added
        exact Or.inr (Nat.le_refl _)
    · rw [next] at fresh
      exact Or.inr (Nat.le_trans (Nat.le_add_right _ _) fresh)

section Reading

theorem window_map {α β : Type} (limit offset : UInt64) (f : α → β) (rows : List α) :
    window limit offset (rows.map f) = (window limit offset rows).map f := by
  unfold window
  split <;> simp only [List.map_take, List.map_drop]

def listed (entries : List (Recording × Nat)) : List (Recording × Nat) :=
  entries.mergeSort fun a b => (a.1.row a.2).precedes (b.1.row b.2)

theorem map_listed (entries : List (Recording × Nat)) :
    (listed entries).map (fun entry => entry.1.row entry.2) =
      (entries.map fun entry => entry.1.row entry.2).mergeSort HistoryRow.precedes :=
  List.map_mergeSort fun _ _ _ _ => rfl

theorem listed_newer {entries : List (Recording × Nat)} (distinct : (entries.map Prod.snd).Nodup) :
    (listed entries).Pairwise fun a b => (a.1.row a.2).Newer (b.1.row b.2) := by
  have ids : ((entries.map fun entry => entry.1.row entry.2).map HistoryRow.id).Nodup := by
    rw [List.map_map]
    exact distinct
  have newer := HistoryRow.mergeSort_newer ids
  rw [← map_listed, List.pairwise_map] at newer
  exact newer

variable {store : Store} {entries : List (Recording × Nat)}
  (held : store.history = entries.map fun entry => entry.1.row entry.2)
include held

theorem history_run (config : Config) (now present : Instant) (limit : Option UInt64) :
    ((engine config now present).history limit).run store =
      (.ok ((window (limit.getD config.historyLimit) 0 (listed entries)).map
        fun entry => entry.1.entry entry.2), store) := by
  have ran : ((engine config now present).history limit).run store =
      (((window (limit.getD config.historyLimit) 0
        (store.history.mergeSort HistoryRow.precedes)).map HistoryRow.record).mapM
          HistoryRecord.ofRecord, store) := rfl
  rw [ran, held, ← map_listed, window_map, List.map_map, List.mapM_map]
  exact congrArg (·, store) (mapM_ok fun entry _ => entry.1.ofRecord_row entry.2)

theorem clearHistory_run (recorded : ∀ entry ∈ entries, entry.1.now.IsDated) (config : Config)
    {now : Instant} (dated : now.IsDated) (present : Instant) (days : UInt32) :
    ((engine config now present).clearHistory days).run store =
      (.ok (entries.filter fun entry => entry.1.now.isOlder now days).length,
        { store with history := (entries.filter fun entry =>
            !entry.1.now.isOlder now days).map fun entry => entry.1.row entry.2 }) := by
  have cleared : ∀ entry ∈ entries,
      (!isBefore present (now.daysBefore days).timestamp (entry.1.row entry.2)) =
        !entry.1.now.isOlder now days :=
    fun entry member => by rw [entry.1.isBefore_row (recorded entry member) dated]
  have kept : (store.history.filter fun row =>
      !isBefore present (now.daysBefore days).timestamp row) =
        (entries.filter fun entry => !entry.1.now.isOlder now days).map fun entry =>
          entry.1.row entry.2 := by
    rw [held, List.filter_map, Function.comp_def, List.filter_congr cleared]
  have split := List.length_eq_length_filter_add (l := entries) fun entry =>
    entry.1.now.isOlder now days
  have count : store.history.length - (store.history.filter fun row =>
      !isBefore present (now.daysBefore days).timestamp row).length =
        (entries.filter fun entry => entry.1.now.isOlder now days).length := by
    rw [kept, held, List.length_map, List.length_map]
    omega
  rw [← count, ← kept]
  rfl

end Reading

/-- What a run makes of the history, and what can be made of it then. The table holds a row for each
search that the run recorded and that was not cleared away since, under its number among all of them.
No later row takes an id that was given before, whether or not the row with it is still there. The
history is listed by time stamp and id, the greatest first, and no further than asked for. A clearing
removes what is older than so many days, and tells how much that was. -/
theorem history_of_run (steps : List Step) (dated : ∀ step ∈ steps, step.now.IsDated) :
    let store := afterAll {} steps
    let entries := remembered steps
    (store.history = entries.map (fun entry => entry.1.row entry.2) ∧
      (entries.Pairwise fun earlier later => earlier.2 < later.2)) ∧
    (store.nextHistoryId = (recordings {} steps).length + 1 ∧
      ∀ more, ∀ row ∈ (store.afterAll more).history,
        row ∈ store.history ∨ store.nextHistoryId ≤ row.id) ∧
    (store.history.length < 2 ^ 63 → ∀ config now present limit,
      ∃ listed : List (Recording × Nat), listed.Perm entries ∧
        (listed.Pairwise fun a b => (a.1.row a.2).Newer (b.1.row b.2)) ∧
        ((engine config now present).history limit).run store =
          (.ok ((listed.take (limit.getD config.historyLimit).toNat).map
            fun entry => entry.1.entry entry.2), store)) ∧
    ∀ config now present days, now.IsDated →
      ((engine config now present).clearHistory days).run store =
        (.ok (entries.filter fun entry => entry.1.now.isOlder now days).length,
          { store with history := (entries.filter fun entry =>
              !entry.1.now.isOlder now days).map fun entry => entry.1.row entry.2 }) := by
  intro store entries
  have held : store.history = entries.map fun entry => entry.1.row entry.2 :=
    history_remembered dated
  have ascending := remembered_ascending steps
  have distinct : (entries.map Prod.snd).Nodup := by
    rw [List.Nodup, List.pairwise_map]
    exact ascending.imp Nat.ne_of_lt
  refine ⟨⟨held, ascending⟩, ⟨(history_afterAll steps).2, ?_⟩, ?_, ?_⟩
  · exact fun more row later => id_of_later store more later
  · intro fits config now present limit
    have perm : (listed entries).Perm entries := List.mergeSort_perm entries _
    have few : (listed entries).length < 2 ^ 63 := by
      rw [perm.length_eq, ← List.length_map (fun entry => entry.1.row entry.2), ← held]
      exact fits
    refine ⟨listed entries, perm, listed_newer distinct, ?_⟩
    rw [history_run held, window_start _ few]
  · intro config now present days nowDated
    exact clearHistory_run held (fun _ member => remembered_dated dated member) config nowDated
      present days

/-- The clock may go back: a clearing between the times of two searches forgets the earlier one. -/
theorem history_of_run_cleared :
    let step (second : Int) (call : StoreCall) : Step := ⟨{}, ⟨second, 0⟩, ⟨0, 0⟩, .call call⟩
    let steps := [step 0 (.search "inProject" none none 0),
      step 200000 (.search "!inProject" none none 0), step 100000 (.clearHistory 1)]
    (∀ step ∈ steps, step.now.IsDated) ∧
      (afterAll {} steps).history =
        [⟨2, "!inProject", "\x7b\x7d", 0, "1970-01-03T07:33:20Z"⟩] := by
  intro step steps
  have dated : ∀ step ∈ steps, step.now.IsDated := by decide
  have kept : (remembered steps).map (fun entry => entry.1.row entry.2) =
      [⟨2, "!inProject", "\x7b\x7d", 0, "1970-01-03T07:33:20Z"⟩] := by decide +kernel
  exact ⟨dated, (history_of_run steps dated).1.1.trans kept⟩

end Store

end ModelCatalog
