import ModelCatalog.Failure
import ModelCatalog.Proofs.Store.Replay

/-!
Imports line by line. An import works on the tables of an open transaction, one line after another,
and commits when the text ends, or rolls back at the first bad line. What it comes to is what reading
all lines first and taking them in then comes to.
-/

namespace ModelCatalog

open Time (Instant)

/-- A connection to a store: the store as its statements see it, and as it was when the transaction
began, if one is open. -/
structure Connection where
  store : Store
  begun : Option Store := none

namespace Connection

def begin (connection : Connection) : Connection :=
  { connection with begun := some connection.store }

def commit (connection : Connection) : Connection := { connection with begun := none }

def rollback (connection : Connection) : Connection :=
  ⟨connection.begun.getD connection.store, none⟩

def perform {α : Type} (session : Session Store α) : Task (StateM Connection) α :=
  fun connection =>
    let (result, store) := session.run connection.store
    (result.mapError Failure.search, { connection with store })

theorem perform_run {α : Type} (session : Session Store α) (connection : Connection) :
    (perform session).run connection = ((session.run connection.store).1.mapError Failure.search,
      { connection with store := (session.run connection.store).2 }) := rfl

def transaction {α : Type} (task : Task (StateM Connection) α) :
    StateM Connection (Except Failure α) := do
  modify begin
  match ← task.run with
  | .ok value =>
    modify commit
    return .ok value
  | .error failure =>
    modify rollback
    return .error failure

theorem transaction_run {α : Type} (task : Task (StateM Connection) α) (connection : Connection) :
    (transaction task).run connection =
      match task.run connection.begin with
      | (.ok value, after) => (.ok value, after.commit)
      | (.error failure, after) => (.error failure, after.rollback) := by
  have ran : (transaction task).run connection =
      let (result, after) := task.run connection.begin
      (match result with
        | .ok value => do
          modify commit
          return .ok value
        | .error failure => do
          modify rollback
          return .error failure : StateM Connection (Except Failure α)).run after := rfl
  rw [ran]
  cases task.run connection.begin with
  | mk result after => cases result <;> rfl

end Connection

/-- The lines of a text as they are read one after another, each with the line feed that ends it. -/
def physicalLines : List Char → List (List Char)
  | [] => []
  | c :: rest =>
    if c = '\n' then [c] :: physicalLines rest
    else
      match physicalLines rest with
      | [] => [[c]]
      | line :: more => (c :: line) :: more

def contentOf? (line : List Char) : Option CatalogLine :=
  if (Text.trim line).isEmpty then none else CatalogLine.decode (String.ofList (Text.trim line))

def IsBad (line : List Char) : Prop := Text.trim line ≠ [] ∧ contentOf? line = none

namespace CatalogLine

def call (now : Instant) : CatalogLine → StoreCall
  | model entry => .catalog (.upsert entry now)
  | savedSearch name query filters => .saveSearch name query filters

def isModel : CatalogLine → Bool
  | model _ => true
  | savedSearch _ _ _ => false

end CatalogLine

namespace Engine

variable (engine : Engine Store)

def takeContent (stats : TransferStats) (content : CatalogLine) :
    Task (StateM Connection) TransferStats := do
  match content with
  | .model entry =>
    modify fun connection =>
      { connection with store := (connection.store.upsert entry engine.now).2 }
    return { stats with models := stats.models + 1 }
  | .savedSearch name query filters =>
    let _ ← Connection.perform (engine.saveSearch name query filters)
    return { stats with savedSearches := stats.savedSearches + 1 }

def takeLines (number : Nat) (stats : TransferStats) :
    List (List Char) → Task (StateM Connection) TransferStats
  | [] => return stats
  | line :: rest => do
    let text := Text.trim line
    if text.isEmpty then takeLines (number + 1) stats rest
    else
      match CatalogLine.decode (String.ofList text) with
      | none => throw (.badLine ⟨number, String.ofList text⟩)
      | some content =>
        let stats ← engine.takeContent stats content
        takeLines (number + 1) stats rest

def importText (text : String) : StateM Connection (Except Failure TransferStats) :=
  Connection.transaction (engine.takeLines 1 {} (physicalLines text.toList))

end Engine

/-! The lines of a text. -/

section Lines

theorem physicalLines_eq_nil {text : List Char} : physicalLines text = [] ↔ text = [] := by
  cases text with
  | nil => simp [physicalLines]
  | cons c rest =>
    rw [physicalLines]
    split
    next => simp
    next => split <;> simp

theorem mem_physicalLines {text line : List Char} (member : line ∈ physicalLines text) :
    ∃ body, '\n' ∉ body ∧ (line = body ∨ line = body ++ ['\n']) := by
  induction text generalizing line with
  | nil => cases member
  | cons c rest ih =>
    rw [physicalLines] at member
    split at member
    next isFeed =>
      rcases List.mem_cons.mp member with rfl | further
      · exact ⟨[], List.not_mem_nil, Or.inr (by rw [isFeed]; rfl)⟩
      · exact ih further
    next noFeed =>
      have more {body : List Char} (inner : '\n' ∉ body) : '\n' ∉ c :: body := by
        rw [List.mem_cons, not_or]
        exact ⟨Ne.symm noFeed, inner⟩
      split at member
      next => exact ⟨line, List.mem_singleton.mp member ▸ more List.not_mem_nil, Or.inl rfl⟩
      next first others split =>
        rw [split] at ih
        rcases List.mem_cons.mp member with rfl | further
        · obtain ⟨body, inner, rfl | rfl⟩ := ih List.mem_cons_self
          · exact ⟨c :: first, more inner, Or.inl rfl⟩
          · exact ⟨c :: body, more inner, Or.inr rfl⟩
        · exact ih (List.mem_cons_of_mem _ further)

theorem trim_feed (body : List Char) : Text.trim (body ++ ['\n']) = Text.trim body := by
  have blank : Text.isBlank '\n' = true := by decide
  rw [Text.trim, Text.trim, Text.trimStart, Text.trimStart, List.dropWhile_append]
  split
  next nothing =>
    rw [List.isEmpty_iff.mp nothing, List.dropWhile_cons_of_pos blank]
    rfl
  next =>
    rw [Text.trimEnd, Text.trimEnd, List.reverse_append, List.reverse_singleton,
      List.singleton_append, List.dropWhile_cons_of_pos blank]

theorem trim_physical {text line : List Char} (member : line ∈ physicalLines text) :
    Text.trim (line.filter (· ≠ '\n')) = Text.trim line := by
  obtain ⟨body, inner, either⟩ := mem_physicalLines member
  have kept : body.filter (· ≠ '\n') = body := by
    rw [List.filter_eq_self]
    intro c inBody
    simpa using fun same : c = '\n' => inner (same ▸ inBody)
  rcases either with rfl | rfl
  · rw [kept]
  · rw [List.filter_append, kept, trim_feed]
    simp

theorem splitOn_physical (text : List Char) : ∃ tail, (tail = [] ∨ tail = [[]]) ∧
    text.splitOn '\n' = (physicalLines text).map (List.filter (· ≠ '\n')) ++ tail := by
  induction text with
  | nil => exact ⟨[[]], Or.inr rfl, rfl⟩
  | cons c rest ih =>
    obtain ⟨tail, either, split⟩ := ih
    rw [List.splitOn] at split ⊢
    rw [List.splitOnP_cons_eq_if_modifyHead, physicalLines, split]
    by_cases isFeed : c = '\n'
    · subst isFeed
      exact ⟨tail, either, by simp⟩
    · rw [if_neg (by simpa using isFeed), if_neg isFeed]
      cases lines : physicalLines rest with
      | nil =>
        obtain rfl := physicalLines_eq_nil.mp lines
        have whole : tail = [[]] := by simpa [lines] using split.symm
        exact ⟨[], Or.inl rfl, by simp [whole, isFeed]⟩
      | cons line more => exact ⟨tail, either, by simp [isFeed]⟩

theorem readLines_cons (number : Nat) (line : List Char) (rest : List (List Char)) :
    Store.readLines number (line :: rest) =
      if (Text.trim line).isEmpty then Store.readLines (number + 1) rest
      else
        match CatalogLine.decode (String.ofList (Text.trim line)) with
        | none => .error ⟨number, String.ofList (Text.trim line)⟩
        | some content => (Store.readLines (number + 1) rest).map (content :: ·) := rfl

theorem readLines_trimmed {lines others : List (List Char)}
    (same : lines.map Text.trim = others.map Text.trim) (number : Nat) :
    Store.readLines number lines = Store.readLines number others := by
  induction lines generalizing others number with
  | nil => rw [List.map_eq_nil_iff.mp same.symm]
  | cons line rest ih =>
    cases others with
    | nil => cases same
    | cons other more =>
      obtain ⟨trimmed, further⟩ := List.cons.inj same
      rw [readLines_cons, readLines_cons, trimmed, ih further]

theorem readLines_blank (lines : List (List Char)) (number : Nat) :
    Store.readLines number (lines ++ [[]]) = Store.readLines number lines := by
  induction lines generalizing number with
  | nil => rfl
  | cons line rest ih => rw [List.cons_append, readLines_cons, readLines_cons, ih]

theorem readLines_physical (text : List Char) (number : Nat) :
    Store.readLines number (text.splitOn '\n') = Store.readLines number (physicalLines text) := by
  obtain ⟨tail, either, split⟩ := splitOn_physical text
  have same : ((physicalLines text).map (List.filter (· ≠ '\n'))).map Text.trim =
      (physicalLines text).map Text.trim := by
    rw [List.map_map]
    exact List.map_congr_left fun line member => trim_physical member
  rw [split]
  rcases either with rfl | rfl
  · rw [List.append_nil]
    exact readLines_trimmed same number
  · rw [readLines_blank]
    exact readLines_trimmed same number

theorem readLines_ok {lines : List (List Char)} {number : Nat} {contents : List CatalogLine}
    (read : Store.readLines number lines = .ok contents) :
    contents = lines.filterMap contentOf? ∧ ∀ line ∈ lines, ¬IsBad line := by
  induction lines generalizing number contents with
  | nil =>
    cases read
    exact ⟨rfl, fun _ member => nomatch member⟩
  | cons line rest ih =>
    rw [readLines_cons] at read
    rw [List.filterMap_cons, List.forall_mem_cons]
    split at read
    next blank =>
      obtain ⟨found, good⟩ := ih read
      have content : contentOf? line = none := by rw [contentOf?, if_pos blank]
      rw [content]
      exact ⟨found, fun bad => bad.1 (List.isEmpty_iff.mp blank), good⟩
    next filled =>
      split at read
      next => cases read
      next content decoded =>
        cases further : Store.readLines (number + 1) rest with
        | error bad => rw [further] at read; cases read
        | ok others =>
          rw [further] at read
          cases read
          obtain ⟨found, good⟩ := ih further
          have holds : contentOf? line = some content := by rw [contentOf?, if_neg filled, decoded]
          rw [holds, ← found]
          refine ⟨rfl, ?_, good⟩
          intro bad
          rw [bad.2] at holds
          cases holds

theorem readLines_error {lines : List (List Char)} {number : Nat} {bad : BadLine}
    (read : Store.readLines number lines = .error bad) :
    ∃ earlier line later, lines = earlier ++ line :: later ∧ (∀ good ∈ earlier, ¬IsBad good) ∧
      IsBad line ∧ bad = ⟨number + earlier.length, String.ofList (Text.trim line)⟩ := by
  induction lines generalizing number with
  | nil => cases read
  | cons line rest ih =>
    have skip (good : ¬IsBad line) (further : Store.readLines (number + 1) rest = .error bad) :
        ∃ earlier bad' later, line :: rest = earlier ++ bad' :: later ∧
          (∀ good ∈ earlier, ¬IsBad good) ∧ IsBad bad' ∧
            bad = ⟨number + earlier.length, String.ofList (Text.trim bad')⟩ := by
      obtain ⟨earlier, found, later, rfl, before, isBad, named⟩ := ih further
      refine ⟨line :: earlier, found, later, rfl, List.forall_mem_cons.mpr ⟨good, before⟩, isBad, ?_⟩
      rw [named, List.length_cons, Nat.add_right_comm, Nat.add_assoc]
    rw [readLines_cons] at read
    split at read
    next blank => exact skip (fun isBad => isBad.1 (List.isEmpty_iff.mp blank)) read
    next filled =>
      split at read
      next undecoded =>
        cases read
        refine ⟨[], line, rest, rfl, List.forall_mem_nil _, ⟨?_, ?_⟩, rfl⟩
        · exact fun blank => filled (List.isEmpty_iff.mpr blank)
        · rw [contentOf?, if_neg filled, undecoded]
      next content decoded =>
        refine skip ?_ ?_
        · intro isBad
          have none := isBad.2
          rw [contentOf?, if_neg filled, decoded] at none
          cases none
        · cases further : Store.readLines (number + 1) rest with
          | error other => rw [further] at read; cases read; rfl
          | ok others => rw [further] at read; cases read

end Lines

namespace Store

variable (config : Config) (now present : Instant)

theorem saveSearch_succeeds (store : Store) (name query : String) (filters : FilterSet) :
    ∃ id, ((engine config now present).saveSearch name query filters).run store =
      (.ok id, store.putSaved name query filters.encode now.timestamp) := by
  obtain ⟨row, member, named, _⟩ := mem_putSaved store name query filters.encode now.timestamp
  have known : row ∈ (store.putSaved name query filters.encode now.timestamp).savedAs name :=
    List.mem_filter.mpr ⟨member, by simpa using named⟩
  cases saved : (store.putSaved name query filters.encode now.timestamp).savedAs name with
  | nil => rw [saved] at known; cases known
  | cons first rest =>
    exact ⟨Int64.ofNat first.id, by rw [saveSearch_saves, saved]; rfl⟩

/-- Taking in a line is a call of its own. -/
theorem importLine_call (store : Store) (content : CatalogLine) :
    importLine now store content = store.after config now present (content.call now) := by
  cases content with
  | model entry => rfl
  | savedSearch name query filters =>
    exact (saveSearch_after store config now present name query filters).symm

theorem takeContent_run (store : Store) (begun : Option Store) (stats : TransferStats)
    (content : CatalogLine) :
    ((engine config now present).takeContent stats content).run ⟨store, begun⟩ =
      (.ok (countLine stats content), ⟨importLine now store content, begun⟩) := by
  cases content with
  | model entry => rfl
  | savedSearch name query filters =>
    obtain ⟨id, saved⟩ := saveSearch_succeeds config now present store name query filters
    have performed : (Connection.perform
        ((engine config now present).saveSearch name query filters)).run ⟨store, begun⟩ =
          (.ok id, ⟨importLine now store (.savedSearch name query filters), begun⟩) := by
      rw [Connection.perform_run, saved]
      rfl
    rw [Engine.takeContent, run_bind, performed]
    rfl

/-- The loop of an import takes in the lines that are read, or stops where reading stops. -/
theorem takeLines_run (lines : List (List Char)) (number : Nat) (stats : TransferStats)
    (store : Store) (begun : Option Store) :
    match readLines number lines with
    | .ok contents => ((engine config now present).takeLines number stats lines).run ⟨store, begun⟩ =
        (.ok (contents.foldl countLine stats), ⟨contents.foldl (importLine now) store, begun⟩)
    | .error bad => ∃ left,
        ((engine config now present).takeLines number stats lines).run ⟨store, begun⟩ =
          (.error (.badLine bad), ⟨left, begun⟩) := by
  induction lines generalizing number stats store with
  | nil => rfl
  | cons line rest ih =>
    rw [readLines_cons, Engine.takeLines]
    by_cases blank : (Text.trim line).isEmpty = true
    · simp only [blank, if_true]
      exact ih (number + 1) stats store
    · simp only [blank, Bool.false_eq_true, if_false]
      cases CatalogLine.decode (String.ofList (Text.trim line)) with
      | none => exact ⟨store, rfl⟩
      | some content =>
        have further := ih (number + 1) (countLine stats content) (importLine now store content)
        rw [run_bind, takeContent_run]
        cases read : readLines (number + 1) rest with
        | error bad => rw [read] at further; exact further
        | ok contents => rw [read] at further; exact further

theorem importText_run (store : Store) (text : String) :
    ((engine config now present).importText text).run ⟨store, none⟩ =
      match store.importText text now with
      | .ok (stats, after) => (.ok stats, ⟨after, none⟩)
      | .error bad => (.error (.badLine bad), ⟨store, none⟩) := by
  have loop := takeLines_run config now present (physicalLines text.toList) 1 {} store (some store)
  rw [Store.importText, readLines_physical, Engine.importText, Connection.transaction_run,
    Connection.begin]
  cases read : readLines 1 (physicalLines text.toList) with
  | ok contents =>
    rw [read] at loop
    rw [loop]
    rfl
  | error bad =>
    rw [read] at loop
    obtain ⟨left, stopped⟩ := loop
    rw [stopped]
    rfl

theorem countLines (contents : List CatalogLine) (stats : TransferStats) :
    contents.foldl countLine stats = ⟨stats.models + contents.countP CatalogLine.isModel,
      stats.savedSearches + contents.countP fun content => !content.isModel⟩ := by
  induction contents generalizing stats with
  | nil => rfl
  | cons content rest ih =>
    rw [List.foldl_cons, ih, List.countP_cons, List.countP_cons]
    cases content with
    | model entry =>
      simp [countLine, CatalogLine.isModel, Nat.add_right_comm, ← Nat.add_assoc]
    | savedSearch name query filters =>
      simp [countLine, CatalogLine.isModel, Nat.add_right_comm, ← Nat.add_assoc]

/-- An import takes in a whole text, or nothing of it. It succeeds exactly if each of the physical
lines is blank or part of a catalog. Then it has done what the calls for the lines do one after
another, and tells how many lines of each kind there were. Otherwise the connection is what it was, and
the failure tells the number and the text of the first bad line. -/
theorem import_whole_or_nothing (store : Store) (text : String) :
    let lines := physicalLines text.toList
    let contents := lines.filterMap contentOf?
    let run := ((engine config now present).importText text).run ⟨store, none⟩
    (run = match store.importText text now with
      | .ok (stats, after) => (.ok stats, ⟨after, none⟩)
      | .error bad => (.error (.badLine bad), ⟨store, none⟩)) ∧
    ((∃ stats, run.1 = .ok stats) ↔ ∀ line ∈ lines, ¬IsBad line) ∧
    (∀ stats, run.1 = .ok stats →
      run.2 = ⟨contents.foldl (fun store content =>
        store.after config now present (content.call now)) store, none⟩ ∧
      stats = ⟨contents.countP CatalogLine.isModel,
        contents.countP fun content => !content.isModel⟩) ∧
    ∀ failure, run.1 = .error failure →
      run.2 = ⟨store, none⟩ ∧
      ∃ earlier line later, lines = earlier ++ line :: later ∧
        (∀ good ∈ earlier, ¬IsBad good) ∧ IsBad line ∧
        failure = .badLine ⟨earlier.length + 1, String.ofList (Text.trim line)⟩ ∧
        failure.message = "parse import line " ++ naturalText (earlier.length + 1) ++ ": " ++
          String.ofList (Text.trim line) := by
  intro lines contents run
  have ran := importText_run config now present store text
  refine ⟨ran, ?_⟩
  have done : run = match readLines 1 lines with
      | .ok contents =>
        (.ok (contents.foldl countLine {}), ⟨contents.foldl (importLine now) store, none⟩)
      | .error bad => (.error (.badLine bad), ⟨store, none⟩) := by
    rw [importText_eq, readLines_physical] at ran
    refine ran.trans ?_
    cases readLines 1 (physicalLines text.toList) <;> rfl
  cases read : readLines 1 lines with
  | ok found =>
    rw [read] at done
    obtain ⟨rfl, good⟩ := readLines_ok read
    rw [done]
    refine ⟨⟨fun _ => good, fun _ => ⟨_, rfl⟩⟩, ?_, (fun failure failed => nomatch failed)⟩
    intro stats counted
    have calls : importLine now = fun store content =>
        store.after config now present (content.call now) :=
      funext₂ (importLine_call config now present)
    rw [← Except.ok.inj counted, countLines, ← calls]
    simp only [Nat.zero_add]
    exact ⟨rfl, rfl⟩
  | error bad =>
    rw [read] at done
    obtain ⟨earlier, line, later, split, before, isBad, named⟩ := readLines_error read
    rw [done]
    refine ⟨⟨?_, ?_⟩, (fun stats succeeded => nomatch succeeded), ?_⟩
    · intro succeeds
      obtain ⟨stats, succeeded⟩ := succeeds
      cases succeeded
    · intro good
      exact absurd isBad (good line (split ▸ List.mem_append_right _ List.mem_cons_self))
    · intro failure failed
      rw [Nat.add_comm] at named
      rw [← Except.error.inj failed, named]
      exact ⟨rfl, earlier, line, later, split, before, isBad, rfl, rfl⟩

end Store

end ModelCatalog
