import Mathlib.Data.List.Induction
import Mathlib.Data.List.TakeWhile
import ModelCatalog.Proofs.Catalog.Merging
import ModelCatalog.Store.Transfer

/-!
The catalog as a function of its history. What is listed of a path follows from the entries that
were put in at it and the views that met it, in their order.
-/

namespace ModelCatalog

inductive CatalogEvent where
  | put (entry : CatalogEntry) (now : Time.Instant)
  | view (target : String) (now : Time.Instant)

namespace CatalogEvent

def path? : CatalogEvent → Option String
  | put entry _ => some entry.filePath
  | view _ _ => none

def putAt? (path : String) : CatalogEvent → Option (CatalogEntry × Time.Instant)
  | put entry now => if entry.filePath = path then some (entry, now) else none
  | view _ _ => none

def viewed? (id : Nat) (path : String) : CatalogEvent → Option String
  | put entry _ => if entry.filePath = path then entry.lastViewed else none
  | view target now => if CatalogEntry.isMeant target id path then some now.timestamp else none

def apply (entries : List CatalogEntry) : CatalogEvent → List CatalogEntry
  | put entry now => CatalogEntry.absorb entries entry now
  | view target now => CatalogEntry.view entries target now

end CatalogEvent

def latest {α β : Type} (value : α → Option β) (items : List α) : Option β :=
  items.reverse.findSome? value

namespace Chronicle

def paths (events : List CatalogEvent) : List String :=
  (events.filterMap CatalogEvent.path?).eraseDups

def putsAt (path : String) (events : List CatalogEvent) : List (CatalogEntry × Time.Instant) :=
  events.filterMap (CatalogEvent.putAt? path)

/-- The events since the model of a path is there. -/
def lifeOf (path : String) (events : List CatalogEvent) : List CatalogEvent :=
  events.dropWhile fun event => (event.putAt? path).isNone

/-- The entry that the puts at a path, from the first one to the last, and the last view of it
amount to. -/
def summary (path : String) (puts : List (CatalogEntry × Time.Instant))
    (first last : CatalogEntry × Time.Instant) (lastViewed : Option String) : CatalogEntry :=
  let described := latest (fun put => if put.1.hasMetadata then some put.1 else none) puts
  { filename := last.1.filename
    format := last.1.format
    filePath := path
    fileSize := last.1.fileSize
    dateAdded := some ((latest (fun put => put.1.dateAdded) puts).getD first.2.timestamp)
    lastViewed
    title := described.bind CatalogEntry.title
    description := described.bind CatalogEntry.description
    keywords := described.bind CatalogEntry.keywords
    category := described.bind CatalogEntry.category
    source := described.bind CatalogEntry.source
    rating := described.bind CatalogEntry.rating
    projects := ascendingTexts (puts.flatMap fun put => put.1.projects) }

def entryOf (path : String) (puts : List (CatalogEntry × Time.Instant))
    (lastViewed : Option String) : Option CatalogEntry := do
  return summary path puts (← puts.head?) (← puts.getLast?) lastViewed

def entryAt (events : List CatalogEvent) (id : Nat) (path : String) : Option CatalogEntry :=
  entryOf path (putsAt path events) (latest (CatalogEvent.viewed? id path) (lifeOf path events))

end Chronicle

/-! One more event. -/

theorem latest_concat {α β : Type} (value : α → Option β) (items : List α) (item : α) :
    latest value (items ++ [item]) = (value item).or (latest value items) := by
  rw [latest, List.reverse_append, List.reverse_singleton, List.singleton_append,
    List.findSome?_cons]
  cases value item <;> rfl

theorem eraseDups_concat {α : Type} [BEq α] [LawfulBEq α] (values : List α) (value : α) :
    (values ++ [value]).eraseDups =
      if value ∈ values then values.eraseDups else values.eraseDups ++ [value] := by
  rw [List.eraseDups_append]
  by_cases known : value ∈ values
  · simp [known, List.removeAll]
  · simp [known, List.removeAll, List.eraseDups_cons]

theorem ascendingTexts_append (first second : List String) :
    ascendingTexts (ascendingTexts first ++ second) = ascendingTexts (first ++ second) := by
  apply eq_of_ascending (ascendingTexts_ascending _) (ascendingTexts_ascending _)
  simp

namespace Chronicle

variable {events : List CatalogEvent} {id : Nat} {path : String}

theorem putsAt_concat (event : CatalogEvent) :
    putsAt path (events ++ [event]) = putsAt path events ++ (event.putAt? path).toList := by
  rw [putsAt, List.filterMap_append, putsAt]
  cases put : event.putAt? path <;> simp [put]

theorem putsAt_eq_nil : putsAt path events = [] ↔ path ∉ paths events := by
  rw [putsAt, List.filterMap_eq_nil_iff, paths, List.mem_eraseDups, List.mem_filterMap]
  constructor
  · intro none some
    obtain ⟨event, member, same⟩ := some
    have missed := none event member
    cases event with
    | put entry now => exact absurd (Option.some.inj same) (by simpa [CatalogEvent.putAt?] using missed)
    | view target now => cases same
  · intro unknown event member
    cases event with
    | put entry now =>
      have elsewhere : entry.filePath ≠ path := fun same => unknown ⟨_, member, congrArg some same⟩
      simp [CatalogEvent.putAt?, elsewhere]
    | view target now => rfl

theorem lifeOf_eq_nil : lifeOf path events = [] ↔ putsAt path events = [] := by
  rw [lifeOf, List.dropWhile_eq_nil_iff, putsAt, List.filterMap_eq_nil_iff]
  simp only [Option.isNone_iff_eq_none]

theorem lifeOf_concat (event : CatalogEvent) (known : putsAt path events ≠ []) :
    lifeOf path (events ++ [event]) = lifeOf path events ++ [event] := by
  have living : (lifeOf path events).isEmpty = false := by
    simpa [lifeOf_eq_nil] using known
  rw [lifeOf, List.dropWhile_append]
  exact if_neg (by simpa [lifeOf] using living)

theorem lifeOf_first (unknown : putsAt path events = []) (entry : CatalogEntry)
    (now : Time.Instant) (here : entry.filePath = path) :
    lifeOf path (events ++ [.put entry now]) = [.put entry now] := by
  have unborn : (lifeOf path events).isEmpty = true := by simpa [lifeOf_eq_nil] using unknown
  rw [lifeOf, List.dropWhile_append, ← lifeOf, if_pos unborn]
  simp [CatalogEvent.putAt?, here]

theorem entryOf_eq_some {puts : List (CatalogEntry × Time.Instant)} {lastViewed : Option String}
    {entry : CatalogEntry} : entryOf path puts lastViewed = some entry ↔
      ∃ first last, puts.head? = some first ∧ puts.getLast? = some last ∧
        summary path puts first last lastViewed = entry := by
  rw [entryOf]
  cases head : puts.head? with
  | none => simp
  | some first => cases tail : puts.getLast? <;> simp

section Summaries

variable {entry : CatalogEntry} {now : Time.Instant}

theorem putsAt_ne_nil {old : CatalogEntry} (known : entryAt events id path = some old) :
    putsAt path events ≠ [] := by
  intro none
  rw [entryAt, entryOf, none] at known
  cases known

theorem entry_put_first (unknown : putsAt path events = []) (here : entry.filePath = path) :
    entryAt (events ++ [.put entry now]) id path = some (entry.asNew now) := by
  have puts : putsAt path (events ++ [.put entry now]) = [(entry, now)] := by
    rw [putsAt_concat, unknown]
    simp [CatalogEvent.putAt?, here]
  have viewed : latest (CatalogEvent.viewed? id path) [.put entry now] = entry.lastViewed := by
    simp [latest, CatalogEvent.viewed?, here]
  rw [entryAt, puts, lifeOf_first unknown entry now here, viewed]
  subst here
  cases filled : entry.hasMetadata with
  | true => simp [entryOf, summary, latest, CatalogEntry.asNew, filled]
  | false =>
    obtain ⟨title, description, keywords, category, source, rating⟩ :=
      CatalogEntry.hasMetadata_eq_false.mp filled
    simp [entryOf, summary, latest, CatalogEntry.asNew, filled, title, description, keywords, category,
      source, rating]

theorem entry_put_again {old : CatalogEntry} (known : entryAt events id path = some old)
    (here : entry.filePath = path) :
    entryAt (events ++ [.put entry now]) id path = some (old.mergedWith entry) := by
  have puts : putsAt path (events ++ [.put entry now]) = putsAt path events ++ [(entry, now)] := by
    rw [putsAt_concat]
    simp [CatalogEvent.putAt?, here]
  have viewed : latest (CatalogEvent.viewed? id path) (lifeOf path events ++ [.put entry now]) =
      entry.lastViewed.or (latest (CatalogEvent.viewed? id path) (lifeOf path events)) := by
    rw [latest_concat]
    simp [CatalogEvent.viewed?, here]
  have living := putsAt_ne_nil known
  rw [entryAt] at known
  rw [entryAt, puts, lifeOf_concat _ living, viewed]
  obtain ⟨first, last, head, _, rfl⟩ := entryOf_eq_some.mp known
  apply entryOf_eq_some.mpr
  refine ⟨first, (entry, now), ?_, by simp, ?_⟩
  · rw [List.head?_append, head, Option.some_or]
  · simp only [summary, CatalogEntry.mergedWith, latest_concat, List.flatMap_append,
      ascendingTexts_append]
    cases entry.hasMetadata <;> cases entry.dateAdded <;> simp [List.flatMap]

theorem entry_put_elsewhere {old : CatalogEntry} (known : entryAt events id path = some old)
    (elsewhere : entry.filePath ≠ path) :
    entryAt (events ++ [.put entry now]) id path = some old := by
  have puts : putsAt path (events ++ [.put entry now]) = putsAt path events := by
    rw [putsAt_concat]
    simp [CatalogEvent.putAt?, elsewhere]
  rw [entryAt, puts, lifeOf_concat _ (putsAt_ne_nil known), latest_concat, ← known, entryAt]
  simp [CatalogEvent.viewed?, elsewhere]

theorem entry_view {old : CatalogEntry} (known : entryAt events id path = some old)
    (target : String) (now : Time.Instant) : entryAt (events ++ [.view target now]) id path =
      some (if CatalogEntry.isMeant target id path then old.viewedAt now else old) := by
  have puts : putsAt path (events ++ [.view target now]) = putsAt path events := by
    rw [putsAt_concat]
    simp [CatalogEvent.putAt?]
  have living := putsAt_ne_nil known
  rw [entryAt] at known
  rw [entryAt, puts, lifeOf_concat _ living, latest_concat]
  by_cases meant : CatalogEntry.isMeant target id path = true
  · obtain ⟨first, last, head, tail, rfl⟩ := entryOf_eq_some.mp known
    apply entryOf_eq_some.mpr
    refine ⟨first, last, head, tail, ?_⟩
    simp [summary, CatalogEvent.viewed?, CatalogEntry.viewedAt, meant]
  · simpa [CatalogEvent.viewed?, meant] using known

end Summaries

variable (events) in
theorem paths_concat (event : CatalogEvent) : paths (events ++ [event]) =
    match event.path? with
    | some path => if path ∈ paths events then paths events else paths events ++ [path]
    | none => paths events := by
  rw [paths, List.filterMap_append]
  cases event with
  | put entry now =>
    simp only [CatalogEvent.path?, List.filterMap_cons, List.filterMap_nil, eraseDups_concat, paths,
      List.mem_eraseDups]
  | view target now =>
    simp only [CatalogEvent.path?, paths, List.filterMap_cons, List.filterMap_nil, List.append_nil]

structure Tells (events : List CatalogEvent) (entries : List CatalogEntry) : Prop where
  paths : entries.map CatalogEntry.filePath = paths events
  entry : ∀ i (inEntries : i < entries.length),
    entryAt events (i + 1) entries[i].filePath = some entries[i]

theorem tells_put {entries : List CatalogEntry} (told : Tells events entries)
    (entry : CatalogEntry) (now : Time.Instant) :
    Tells (events ++ [.put entry now]) (CatalogEntry.absorb entries entry now) := by
  have concat := paths_concat events (.put entry now)
  simp only [CatalogEvent.path?] at concat
  rw [CatalogEntry.absorb, told.paths]
  by_cases known : entry.filePath ∈ paths events
  · rw [if_pos known] at concat ⊢
    constructor
    · rw [concat, ← told.paths]
      exact keys_changed CatalogEntry.filePath fun _ _ _ => rfl
    · intro i inEntries
      rw [List.length_map] at inEntries
      have old := told.entry i inEntries
      rw [List.getElem_map]
      by_cases here : entries[i].filePath = entry.filePath
      · rw [if_pos here]
        exact entry_put_again old here.symm
      · rw [if_neg here]
        exact entry_put_elsewhere old (Ne.symm here)
  · rw [if_neg known] at concat ⊢
    constructor
    · rw [concat, ← told.paths, List.map_append]
      rfl
    · intro i inEntries
      rw [List.length_append, List.length_singleton] at inEntries
      by_cases last : i = entries.length
      · subst last
        simp only [List.getElem_concat_length]
        exact entry_put_first (putsAt_eq_nil.mpr known) rfl
      · have inOld : i < entries.length := by omega
        have old := told.entry i inOld
        have elsewhere : entry.filePath ≠ entries[i].filePath := by
          intro same
          apply known
          rw [← told.paths, same]
          exact List.mem_map.mpr ⟨_, List.getElem_mem inOld, rfl⟩
        rw [List.getElem_append_left inOld]
        exact entry_put_elsewhere old elsewhere

theorem tells_view {entries : List CatalogEntry} (told : Tells events entries) (target : String)
    (now : Time.Instant) :
    Tells (events ++ [.view target now]) (CatalogEntry.view entries target now) := by
  have concat := paths_concat events (.view target now)
  simp only [CatalogEvent.path?] at concat
  constructor
  · rw [concat, ← told.paths, CatalogEntry.view]
    apply List.ext_getElem
    · simp
    · intro i _ _
      rw [List.getElem_map, List.getElem_map, List.getElem_mapIdx]
      split <;> rfl
  · intro i inEntries
    rw [CatalogEntry.view, List.length_mapIdx] at inEntries
    have old := entry_view (told.entry i inEntries) target now
    simp only [CatalogEntry.view, List.getElem_mapIdx]
    split
    next meant => rwa [if_pos meant] at old
    next missed => rwa [if_neg missed] at old

theorem tells_foldl (events : List CatalogEvent) :
    Tells events (events.foldl CatalogEvent.apply []) := by
  induction events using List.reverseRecOn with
  | nil => exact ⟨rfl, by simp⟩
  | append_singleton events event ih =>
    rw [List.foldl_append]
    cases event with
    | put entry now => exact tells_put ih entry now
    | view target now => exact tells_view ih target now

end Chronicle

/-! The calls of a store. -/

inductive CatalogCall where
  | upsert (entry : CatalogEntry) (now : Time.Instant)
  | importText (text : String) (now : Time.Instant)
  | view (target : String) (now : Time.Instant)

namespace CatalogCall

def lineEvents (now : Time.Instant) : CatalogLine → List CatalogEvent
  | .model entry => [.put entry now]
  | .savedSearch _ _ _ => []

/-- What a call does to the entries. An import with a bad line does nothing. -/
def events : CatalogCall → List CatalogEvent
  | upsert entry now => [.put entry now]
  | importText text now =>
    match Store.readLines 1 (text.toList.splitOn '\n') with
    | .ok lines => lines.flatMap (lineEvents now)
    | .error _ => []
  | view target now => [.view target now]

end CatalogCall

namespace Store

def perform (store : Store) : CatalogCall → Store
  | .upsert entry now => (store.upsert entry now).2
  | .importText text now =>
    match store.importText text now with
    | .ok (_, store) => store
    | .error _ => store
  | .view target now => (store.markViewed target now).2

theorem putSaved_eq (store : Store) (name query filters createdAt : String) :
    store.putSaved name query filters createdAt =
      { store with saved := (store.putSaved name query filters createdAt).saved } := by
  unfold putSaved
  split <;> rfl

theorem putSaved_congr {store other : Store} (same : other.saved = store.saved)
    (name query filters createdAt : String) :
    (other.putSaved name query filters createdAt).saved =
      (store.putSaved name query filters createdAt).saved := by
  simp only [putSaved, same]
  split <;> rfl

theorem importLine_sound {store : Store} (sound : store.TablesSound) (now : Time.Instant)
    (line : CatalogLine) : (importLine now store line).TablesSound := by
  cases line with
  | model entry => exact upsert_sound entry now sound
  | savedSearch name query filters =>
    rw [importLine, putSaved_eq]
    exact { sound with }

theorem importLine_entries {store : Store} (sound : store.TablesSound) (now : Time.Instant)
    (line : CatalogLine) : (importLine now store line).entries =
      (CatalogCall.lineEvents now line).foldl CatalogEvent.apply store.entries := by
  cases line with
  | model entry => exact entries_upsert entry now sound
  | savedSearch name query filters =>
    rw [importLine, putSaved_eq]
    rfl

theorem importLines_tables {store : Store} (sound : store.TablesSound) (now : Time.Instant)
    (lines : List CatalogLine) : (lines.foldl (importLine now) store).TablesSound ∧
      (lines.foldl (importLine now) store).entries =
        (lines.flatMap (CatalogCall.lineEvents now)).foldl CatalogEvent.apply store.entries := by
  induction lines generalizing store with
  | nil => exact ⟨sound, rfl⟩
  | cons line rest ih =>
    obtain ⟨after, entries⟩ := ih (importLine_sound sound now line)
    refine ⟨after, ?_⟩
    rw [List.foldl_cons, entries, importLine_entries sound, List.flatMap_cons, List.foldl_append]

theorem importText_eq (store : Store) (text : String) (now : Time.Instant) :
    store.importText text now = (readLines 1 (text.toList.splitOn '\n')).map fun lines =>
      (lines.foldl countLine {}, lines.foldl (importLine now) store) := by
  rw [importText]
  cases readLines 1 (text.toList.splitOn '\n') <;> rfl

theorem perform_tables {store : Store} (sound : store.TablesSound) (call : CatalogCall) :
    (store.perform call).TablesSound ∧
      (store.perform call).entries = call.events.foldl CatalogEvent.apply store.entries := by
  cases call with
  | upsert entry now => exact ⟨upsert_sound entry now sound, entries_upsert entry now sound⟩
  | importText text now =>
    simp only [perform, CatalogCall.events, importText_eq]
    cases readLines 1 (text.toList.splitOn '\n') with
    | error bad => exact ⟨sound, rfl⟩
    | ok lines => exact importLines_tables sound now lines
  | view target now => exact ⟨markViewed_sound target now sound, entries_markViewed sound target now⟩

theorem performAll_tables {store : Store} (sound : store.TablesSound) (calls : List CatalogCall) :
    (calls.foldl perform store).TablesSound ∧
      (calls.foldl perform store).entries =
        (calls.flatMap CatalogCall.events).foldl CatalogEvent.apply store.entries := by
  induction calls generalizing store with
  | nil => exact ⟨sound, rfl⟩
  | cons call rest ih =>
    obtain ⟨once, entries⟩ := perform_tables sound call
    obtain ⟨after, restEntries⟩ := ih once
    refine ⟨after, ?_⟩
    rw [List.foldl_cons, restEntries, entries, List.flatMap_cons, List.foldl_append]

end Store

namespace Chronicle

theorem tells_calls (calls : List CatalogCall) :
    Tells (calls.flatMap CatalogCall.events) (calls.foldl Store.perform {}).entries := by
  rw [(Store.performAll_tables Store.tablesSound_empty calls).2]
  exact tells_foldl _

theorem numbered_paths (calls : List CatalogCall) :
    (calls.foldl Store.perform {}).models.map (fun row => (row.id, row.filePath)) =
      (paths (calls.flatMap CatalogCall.events)).mapIdx fun i path => (i + 1, path) := by
  have sound := (Store.performAll_tables Store.tablesSound_empty calls).1
  rw [← (tells_calls calls).paths, Store.entries_filePath]
  apply List.ext_getElem
  · simp
  · intro i inModels _
    rw [List.length_map] at inModels
    simp [sound.id_getElem inModels]

theorem paths_prefix (events later : List CatalogEvent) :
    paths events <+: paths (events ++ later) := by
  rw [paths, paths, List.filterMap_append, List.eraseDups_append]
  exact List.prefix_append _ _

/-- After any calls there is one entry for each path that was put in, in the order of first
occurrence, and it is what the events of its path amount to; later calls change no id. -/
theorem entries_of_calls (calls : List CatalogCall) :
    let store := calls.foldl Store.perform {}
    let events := calls.flatMap CatalogCall.events
    (store.models.map fun row => (row.id, row.filePath)) =
        ((paths events).mapIdx fun i path => (i + 1, path)) ∧
      store.entries.map some = ((paths events).mapIdx fun i path => entryAt events (i + 1) path) ∧
      ∀ later, (store.models.map fun row => (row.id, row.filePath)) <+:
        ((calls ++ later).foldl Store.perform {}).models.map fun row => (row.id, row.filePath) := by
  intro store events
  have told : Tells events store.entries := tells_calls calls
  refine ⟨numbered_paths calls, ?_, ?_⟩
  · rw [← told.paths]
    apply List.ext_getElem
    · simp
    · intro i inEntries _
      rw [List.length_map] at inEntries
      simp [told.entry i inEntries]
  · intro later
    rw [numbered_paths, numbered_paths, List.flatMap_append]
    obtain ⟨more, longer⟩ := paths_prefix (calls.flatMap CatalogCall.events)
      (later.flatMap CatalogCall.events)
    rw [← longer, List.mapIdx_append]
    exact List.prefix_append _ _

end Chronicle

end ModelCatalog
