import ModelCatalog.Proofs.Store.Events
import ModelCatalog.Proofs.Store.SavedMap
import ModelCatalog.Proofs.Time.StoreReading

/-!
The time columns after a run. What a store writes of its own accord are time stamps; what an entry
says of its times is stored as it stands, whether or not it is one.
-/

namespace ModelCatalog

open Time (Instant)

def Time.IsStamp (text : String) : Prop := ∃ time : Instant, time.IsDated ∧ text = time.timestamp

open Time (IsStamp)

namespace Time.IsStamp

variable {text other : String}

theorem getLast (stamp : IsStamp text) : text.toList.getLast? = some 'Z' := by
  obtain ⟨time, dated, rfl⟩ := stamp
  rw [Instant.timestamp, String.toList_ofList, Instant.stamp_eq dated]
  simp [List.getLast?_append, List.getLast?_cons]

theorem read (stamp : IsStamp text) (another : IsStamp other) (present : Instant) :
    ∃ time otherTime, JulianDay.milliseconds? present text = some time ∧
      JulianDay.milliseconds? present other = some otherTime ∧
        (text < other ↔ time < otherTime) := by
  obtain ⟨instant, dated, rfl⟩ := stamp
  obtain ⟨otherInstant, otherDated, rfl⟩ := another
  refine ⟨_, _, Instant.milliseconds?_timestamp dated present,
    Instant.milliseconds?_timestamp otherDated present, ?_⟩
  rw [Instant.timestamp_lt_iff dated otherDated]
  omega

end Time.IsStamp

theorem latest_mem {α β : Type} {value : α → Option β} {items : List α} {found : β}
    (isLast : latest value items = some found) : ∃ item ∈ items, value item = some found := by
  obtain ⟨item, member, same⟩ := List.exists_of_findSome?_eq_some isLast
  exact ⟨item, List.mem_reverse.mp member, same⟩

namespace CatalogEvent

def now : CatalogEvent → Instant
  | put _ now => now
  | view _ now => now

def added? (path : String) : CatalogEvent → Option String
  | put entry _ => if entry.filePath = path then entry.dateAdded else none
  | view _ _ => none

def GivesStamps : CatalogEvent → Prop
  | put entry _ =>
    ∀ text, entry.dateAdded = some text ∨ entry.lastViewed = some text → IsStamp text
  | view _ _ => True

variable {event : CatalogEvent} {path text : String}

theorem isStamp_added (gives : event.GivesStamps) (added : event.added? path = some text) :
    IsStamp text := by
  cases event with
  | put entry now =>
    simp only [added?, Option.ite_none_right_eq_some] at added
    exact gives text (Or.inl added.2)
  | view target now => cases added

theorem isStamp_viewed {id : Nat} (gives : event.GivesStamps) (dated : event.now.IsDated)
    (viewed : event.viewed? id path = some text) : IsStamp text := by
  cases event with
  | put entry now =>
    simp only [viewed?, Option.ite_none_right_eq_some] at viewed
    exact gives text (Or.inr viewed.2)
  | view target now =>
    simp only [viewed?, Option.ite_none_right_eq_some] at viewed
    exact ⟨now, dated, (Option.some.inj viewed.2).symm⟩

end CatalogEvent

namespace Chronicle

theorem latest_added (path : String) (events : List CatalogEvent) :
    latest (fun put => put.1.dateAdded) (putsAt path events) =
      latest (CatalogEvent.added? path) events := by
  induction events using List.reverseRecOn with
  | nil => rfl
  | append_singleton events event ih =>
    rw [putsAt_concat, latest_concat, ← ih]
    cases event with
    | put entry now =>
      by_cases here : entry.filePath = path
      · simp [CatalogEvent.putAt?, CatalogEvent.added?, here, latest_concat]
      · simp [CatalogEvent.putAt?, CatalogEvent.added?, here]
    | view target now => simp [CatalogEvent.putAt?, CatalogEvent.added?]

theorem mem_of_lifeOf {path : String} {events : List CatalogEvent} {event : CatalogEvent}
    (member : event ∈ lifeOf path events) : event ∈ events :=
  (List.dropWhile_sublist _).subset member

theorem mem_of_putsAt {path : String} {events : List CatalogEvent}
    {given : CatalogEntry × Instant} (member : given ∈ putsAt path events) :
    ∃ event ∈ events, event.now = given.2 := by
  obtain ⟨event, inEvents, same⟩ := List.mem_filterMap.mp member
  cases event with
  | put entry now =>
    simp only [CatalogEvent.putAt?, Option.ite_none_right_eq_some] at same
    exact ⟨_, inEvents, congrArg Prod.snd (Option.some.inj same.2)⟩
  | view target now => cases same

end Chronicle

namespace CatalogCall

def now : CatalogCall → Instant
  | upsert _ now => now
  | importText _ now => now
  | view _ now => now

theorem now_of_event {call : CatalogCall} {event : CatalogEvent} (member : event ∈ call.events) :
    event.now = call.now := by
  cases call with
  | upsert entry now => exact congrArg CatalogEvent.now (List.mem_singleton.mp member)
  | view target now => exact congrArg CatalogEvent.now (List.mem_singleton.mp member)
  | importText text now =>
    rw [events] at member
    split at member
    next lines read =>
      obtain ⟨line, _, inLine⟩ := List.mem_flatMap.mp member
      cases line with
      | model entry => exact congrArg CatalogEvent.now (List.mem_singleton.mp inLine)
      | savedSearch name query filters => cases inLine
    next => cases member

end CatalogCall

namespace Step

variable (step : Step)

def times : List Instant :=
  step.now ::
    match step.operation with
    | .call (.catalog call) => [call.now]
    | _ => []

/-- The times that the step goes by are in the years 0 to 9999. -/
def IsDated : Prop := ∀ time ∈ step.times, time.IsDated

instance : Decidable step.IsDated := inferInstanceAs (Decidable (∀ time ∈ step.times, time.IsDated))

variable {step}

theorem IsDated.now (dated : step.IsDated) : step.now.IsDated := dated _ List.mem_cons_self

theorem IsDated.call {call : CatalogCall} (dated : step.IsDated)
    (operation : step.operation = .call (.catalog call)) : call.now.IsDated := by
  apply dated
  rw [times, operation]
  exact List.mem_cons_of_mem _ List.mem_cons_self

theorem IsDated.event {event : CatalogEvent} (dated : step.IsDated) (member : event ∈ step.events) :
    event.now.IsDated := by
  unfold events at member
  split at member
  next call operation =>
    rw [CatalogCall.now_of_event member]
    exact dated.call operation
  next => cases member

theorem IsDated.saving {saving : Saving} (dated : step.IsDated) (member : saving ∈ step.savings) :
    IsStamp saving.createdAt := by
  unfold savings at member
  split at member
  next name query filters operation =>
    rw [List.mem_singleton.mp member]
    exact ⟨step.now, dated.now, rfl⟩
  next text now operation =>
    split at member
    next lines read =>
      obtain ⟨line, _, saved⟩ := List.mem_filterMap.mp member
      cases line with
      | model entry => cases saved
      | savedSearch name query filters =>
        obtain rfl := Option.some.inj saved
        have time : (CatalogCall.importText text now).now.IsDated := dated.call operation
        exact ⟨now, time, rfl⟩
    next => cases member
  next => cases member

end Step

namespace Store

/-- The time columns of a model: the last time of adding that was given, or else the time of its
first entry, and the last time of viewing that was given or stamped. -/
theorem columns_of_run (steps : List Step) {row : ModelRow}
    (member : row ∈ (afterAll {} steps).models) :
    ∃ first, first ∈ Chronicle.putsAt row.filePath (steps.flatMap Step.events) ∧
      row.dateAdded = (latest (CatalogEvent.added? row.filePath)
        (steps.flatMap Step.events)).getD first.2.timestamp ∧
      row.lastViewed = latest (CatalogEvent.viewed? row.id row.filePath)
        (Chronicle.lifeOf row.filePath (steps.flatMap Step.events)) := by
  obtain ⟨sound, told⟩ := tables_afterAll steps
  obtain ⟨i, inTable, rfl⟩ := List.mem_iff_getElem.mp member
  have inEntries : i < (afterAll {} steps).entries.length := by rwa [entries_length]
  have listed : (afterAll {} steps).entries[i] =
      (afterAll {} steps).entryOf (afterAll {} steps).models[i] := List.getElem_map _
  have entry := told.entry i inEntries
  rw [listed, ← sound.id_getElem inTable] at entry
  obtain ⟨first, last, head, _, same⟩ := Chronicle.entryOf_eq_some.mp entry
  have added := congrArg CatalogEntry.dateAdded same
  have viewed := congrArg CatalogEntry.lastViewed same
  simp only [Chronicle.summary, entryOf, Option.some.injEq, Chronicle.latest_added] at added viewed
  exact ⟨first, List.mem_of_head? head, added.symm, viewed.symm⟩

/-- The time columns after a run at times of the years 0 to 9999. When a search was made or saved is a
stamp. When a model was added is what was given last, as it stands, and a stamp if nothing was given;
when it was viewed is what was given last, as it stands, or the stamp of a later view. So all of them
are stamps if only stamps were given; and stamps can be read as times, of which they have the order. -/
theorem stamps_of_run (steps : List Step) (dated : ∀ step ∈ steps, step.IsDated) :
    let store := afterAll {} steps
    let events := steps.flatMap Step.events
    (∀ row ∈ store.history, IsStamp row.createdAt) ∧
    (∀ row ∈ store.saved, IsStamp row.createdAt) ∧
    (∀ row ∈ store.models,
      (∀ given, latest (CatalogEvent.added? row.filePath) events = some given →
        row.dateAdded = given) ∧
      (latest (CatalogEvent.added? row.filePath) events = none → IsStamp row.dateAdded) ∧
      row.lastViewed = latest (CatalogEvent.viewed? row.id row.filePath)
        (Chronicle.lifeOf row.filePath events)) ∧
    ((∀ event ∈ events, event.GivesStamps) → ∀ row ∈ store.models,
      IsStamp row.dateAdded ∧ ∀ viewed, row.lastViewed = some viewed → IsStamp viewed) ∧
    ∀ text other, IsStamp text → IsStamp other → ∀ present, ∃ time otherTime,
      Time.JulianDay.milliseconds? present text = some time ∧
        Time.JulianDay.milliseconds? present other = some otherTime ∧
          (text < other ↔ time < otherTime) := by
  intro store events
  have eventDated {event : CatalogEvent} (member : event ∈ events) : event.now.IsDated := by
    obtain ⟨step, inRun, inStep⟩ := List.mem_flatMap.mp member
    exact (dated step inRun).event inStep
  have unasked {row : ModelRow} (member : row ∈ store.models)
      (none : latest (CatalogEvent.added? row.filePath) events = none) : IsStamp row.dateAdded := by
    obtain ⟨first, isFirst, added, _⟩ := columns_of_run steps member
    obtain ⟨event, inEvents, time⟩ := Chronicle.mem_of_putsAt isFirst
    rw [none, Option.getD_none] at added
    exact ⟨first.2, time ▸ eventDated inEvents, added⟩
  refine ⟨?_, ?_, ?_, ?_, fun text other stamp another => stamp.read another⟩
  · intro row member
    have clocks : ∀ step ∈ steps, step.now.IsDated := fun step inRun => (dated step inRun).now
    rw [history_remembered clocks] at member
    obtain ⟨entry, kept, rfl⟩ := List.mem_map.mp member
    exact ⟨entry.1.now, remembered_dated clocks kept, rfl⟩
  · intro row member
    obtain ⟨saving, isLast, same⟩ := (remembers_run steps).last row member
    obtain ⟨found, inSavings, under⟩ := latest_mem isLast
    simp only [Saving.under?, Option.ite_none_right_eq_some] at under
    obtain rfl := Option.some.inj under.2
    obtain ⟨step, inRun, inStep⟩ := List.mem_flatMap.mp inSavings
    rw [same]
    exact (dated step inRun).saving inStep
  · intro row member
    obtain ⟨first, isFirst, added, viewed⟩ := columns_of_run steps member
    refine ⟨?_, unasked member, viewed⟩
    intro given isLast
    rw [added, isLast, Option.getD_some]
  · intro gives row member
    obtain ⟨first, isFirst, added, viewed⟩ := columns_of_run steps member
    constructor
    · cases given : latest (CatalogEvent.added? row.filePath) events with
      | none => exact unasked member given
      | some text =>
        obtain ⟨event, inEvents, gave⟩ := latest_mem given
        rw [added, given, Option.getD_some]
        exact CatalogEvent.isStamp_added (gives event inEvents) gave
    · intro text known
      rw [viewed] at known
      obtain ⟨event, inLife, gave⟩ := latest_mem known
      have inEvents := Chronicle.mem_of_lifeOf inLife
      exact CatalogEvent.isStamp_viewed (gives event inEvents) (eventDated inEvents) gave

/-- A model that is put in without times and viewed has stamps only. -/
theorem stamps_of_run_viewed :
    let now : Instant := ⟨1700000000, 0⟩
    let step (call : CatalogCall) : Step := ⟨{}, now, now, .call (.catalog call)⟩
    let steps := [step (.upsert { filename := "part.stl", filePath := "/a" } now),
      step (.view "/a" now)]
    (∀ step ∈ steps, step.IsDated) ∧ (afterAll {} steps).models = [⟨1, "part.stl", none, "/a", none,
        "2023-11-14T22:13:20Z", some "2023-11-14T22:13:20Z"⟩] ∧
      ∀ row ∈ (afterAll {} steps).models,
        IsStamp row.dateAdded ∧ ∀ viewed, row.lastViewed = some viewed → IsStamp viewed := by
  intro now step steps
  have dated : ∀ step ∈ steps, step.IsDated := by decide
  have gives : ∀ event ∈ steps.flatMap Step.events, event.GivesStamps := by
    simp [steps, step, Step.events, CatalogCall.events, CatalogEvent.GivesStamps]
  exact ⟨dated, by decide +kernel, (stamps_of_run steps dated).2.2.2.1 gives⟩

/-- A time of viewing that is given with a zone of its own stays in the table as it is. -/
theorem stamps_not_kept :
    let now : Instant := ⟨1700000000, 0⟩
    let entry : CatalogEntry := { filename := "part.stl", filePath := "/a"
                                  lastViewed := some "2023-11-14T23:13:20+01:00" }
    let steps : List Step := [⟨{}, now, now, .call (.catalog (.upsert entry now))⟩]
    (∀ step ∈ steps, step.IsDated) ∧ ∃ row ∈ (afterAll {} steps).models, ∃ viewed,
      row.lastViewed = some viewed ∧ ¬IsStamp viewed := by
  intro now entry steps
  refine ⟨by decide, ⟨1, "part.stl", none, "/a", none, "2023-11-14T22:13:20Z",
    some "2023-11-14T23:13:20+01:00"⟩, by decide +kernel, _, rfl, ?_⟩
  intro stamp
  have last : "2023-11-14T23:13:20+01:00".toList.getLast? = some '0' := by decide
  exact absurd (last.symm.trans stamp.getLast) (by decide)

end Store

end ModelCatalog
