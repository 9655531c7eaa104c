import ModelCatalog.Proofs.Store.Reachable

/-!
Export and import. The exported text of a store holds all of its catalog: imported into an empty
store it makes the same catalog, and imported into the store itself it changes nothing but the
times of saving.
-/

namespace ModelCatalog

/-! Lines as text. -/

theorem splitOn_lines (lines : List (List Char)) (free : ∀ line ∈ lines, '\n' ∉ line) :
    (lines.flatMap fun line => line ++ ['\n']).splitOn '\n' = lines ++ [[]] := by
  induction lines with
  | nil => rfl
  | cons line lines ih =>
    have rest := ih fun found member => free found (List.mem_cons_of_mem _ member)
    rw [List.flatMap_cons, List.append_assoc, List.singleton_append,
      List.splitOn_append_cons_self_of_not_mem (free line List.mem_cons_self), rest]
    rfl

namespace CatalogLine

theorem toJson_object (line : CatalogLine) : ∃ members, line.toJson = .object members := by
  cases line <;> exact ⟨_, rfl⟩

theorem trim_write (line : CatalogLine) :
    Text.trim line.toJson.write = line.toJson.write ∧ line.toJson.write ≠ [] := by
  obtain ⟨members, object⟩ := line.toJson_object
  rw [object]
  exact ⟨Json.trim_object members, Json.write_object_ne_nil members⟩

end CatalogLine

namespace Store

def textOf (lines : List CatalogLine) : String :=
  String.join ((lineTexts lines).map fun line => line ++ "\n")

theorem toList_textOf (lines : List CatalogLine) : (textOf lines).toList =
    (lines.map fun line => line.toJson.write).flatMap fun line => line ++ ['\n'] := by
  rw [textOf, String.toList_join, lineTexts, List.flatMap_map, List.flatMap_map, List.flatMap_map]
  congr 1
  funext line
  rw [String.toList_append, Json.compact, String.toList_ofList]
  rfl

theorem readLines_written (number : Nat) (lines : List CatalogLine) :
    readLines number ((lines.map fun line => line.toJson.write) ++ [[]]) = .ok lines := by
  induction lines generalizing number with
  | nil => rfl
  | cons line lines ih =>
    obtain ⟨trimmed, nonempty⟩ := line.trim_write
    have decoded := line.decode_compact
    rw [Json.compact] at decoded
    rw [List.map_cons, List.cons_append, readLines]
    simp only [trimmed, List.isEmpty_eq_false_iff.mpr nonempty, decoded, ih]
    rfl

theorem importText_textOf (store : Store) (lines : List CatalogLine) (now : Time.Instant) :
    store.importText (textOf lines) now =
      .ok (lines.foldl countLine {}, lines.foldl (importLine now) store) := by
  have free : ∀ line ∈ lines.map fun line => line.toJson.write, '\n' ∉ line := by
    intro text member
    obtain ⟨line, _, rfl⟩ := List.mem_map.mp member
    exact Json.newline_not_mem_write line.toJson_plain
  rw [importText_eq, toList_textOf, splitOn_lines _ free, readLines_written]
  rfl

def lines (store : Store) : List CatalogLine :=
  store.entries.map .model
    ++ store.savedByName.map fun row => .savedSearch row.name row.query row.filterSet

theorem exportText_eq {store : Store} (sound : store.SavedSound) :
    store.exportText = .ok (store.lines.foldl countLine {}, textOf store.lines) := by
  have lines : store.exportLines = .ok store.lines := by
    rw [exportLines, savedSearches_eq sound]
    change Except.ok (store.entries.map CatalogLine.model ++
      (store.savedByName.map SavedRow.search).map fun search =>
        CatalogLine.savedSearch search.name search.query search.filters) = _
    rw [List.map_map]
    rfl
  rw [exportText, lines]
  rfl

end Store

/-! Entries that a store lists are put in as they are. -/

namespace CatalogEntry

/-- Nothing is left open for the entry's catalog to fill in. -/
structure Settled (entry : CatalogEntry) : Prop where
  added : entry.dateAdded.isSome = true
  projects : entry.projects.Pairwise (· < ·)

theorem ascendingTexts_of_ascending {texts : List String} (ascending : texts.Pairwise (· < ·)) :
    ascendingTexts texts = texts :=
  eq_of_ascending (ascendingTexts_ascending texts) ascending fun _ => mem_ascendingTexts

theorem Settled.asNew {entry : CatalogEntry} (settled : entry.Settled) (now : Time.Instant) :
    entry.asNew now = entry := by
  obtain ⟨added, given⟩ := Option.isSome_iff_exists.mp settled.added
  have filled : some (entry.dateAdded.getD now.timestamp) = entry.dateAdded := by
    rw [given, Option.getD_some]
  rw [CatalogEntry.asNew, filled, ascendingTexts_of_ascending settled.projects]

theorem Settled.mergedWith_self {entry : CatalogEntry} (settled : entry.Settled) :
    entry.mergedWith entry = entry := by
  have projects : ascendingTexts (entry.projects ++ entry.projects) = entry.projects := by
    apply eq_of_ascending (ascendingTexts_ascending _) settled.projects
    simp
  rw [mergedWith, ite_self, projects, Option.or_self, Option.or_self]

theorem absorb_new {entries added : List CatalogEntry} (now : Time.Instant)
    (settled : ∀ entry ∈ added, entry.Settled)
    (distinct : ((entries ++ added).map filePath).Nodup) :
    (added.map fun entry => CatalogEvent.put entry now).foldl CatalogEvent.apply entries =
      entries ++ added := by
  induction added generalizing entries with
  | nil => simp
  | cons entry added ih =>
    have unknown : entry.filePath ∉ entries.map filePath := key_fresh_of_nodup filePath distinct
    have first : absorb entries entry now = entries ++ [entry] := by
      rw [absorb, if_neg unknown, (settled entry List.mem_cons_self).asNew]
    rw [List.map_cons, List.foldl_cons, CatalogEvent.apply, first,
      ih (fun found member => settled found (List.mem_cons_of_mem _ member)) (by simpa using distinct)]
    simp

theorem absorb_known {entries : List CatalogEntry} (distinct : (entries.map filePath).Nodup)
    {entry : CatalogEntry} (member : entry ∈ entries) (settled : entry.Settled)
    (now : Time.Instant) : absorb entries entry now = entries := by
  rw [absorb, if_pos (List.mem_map.mpr ⟨entry, member, rfl⟩)]
  rw [List.map_congr_left (g := id), List.map_id]
  intro old inEntries
  by_cases same : old.filePath = entry.filePath
  · have known : old = entry := eq_of_key_eq filePath distinct inEntries member same
    rw [if_pos same, known, settled.mergedWith_self]
    rfl
  · rw [if_neg same]
    rfl

theorem absorb_listed {entries again : List CatalogEntry}
    (distinct : (entries.map filePath).Nodup) (listed : ∀ entry ∈ again, entry ∈ entries)
    (settled : ∀ entry ∈ again, entry.Settled) (now : Time.Instant) :
    (again.map fun entry => CatalogEvent.put entry now).foldl CatalogEvent.apply entries =
      entries := by
  induction again with
  | nil => rfl
  | cons entry again ih =>
    rw [List.map_cons, List.foldl_cons, CatalogEvent.apply,
      absorb_known distinct (listed entry List.mem_cons_self) (settled entry List.mem_cons_self)]
    exact ih (fun found member => listed found (List.mem_cons_of_mem _ member))
      (fun found member => settled found (List.mem_cons_of_mem _ member))

end CatalogEntry

namespace Store

theorem entries_settled {store : Store} (sound : store.TablesSound) :
    ∀ entry ∈ store.entries, entry.Settled := by
  intro entry member
  obtain ⟨row, _, rfl⟩ := List.mem_map.mp member
  exact ⟨rfl, projectNames_ascending sound row.id⟩

theorem entries_paths_nodup {store : Store} (sound : store.TablesSound) :
    (store.entries.map CatalogEntry.filePath).Nodup := by
  rw [entries_filePath]
  exact sound.paths

theorem lines_events (store : Store) (now : Time.Instant) :
    store.lines.flatMap (CatalogCall.lineEvents now) =
      store.entries.map fun entry => CatalogEvent.put entry now := by
  rw [lines, List.flatMap_append, List.flatMap_map, List.flatMap_map]
  have none : (store.savedByName.flatMap fun row => CatalogCall.lineEvents now
      (.savedSearch row.name row.query row.filterSet)) = [] :=
    List.flatMap_eq_nil_iff.mpr fun _ _ => rfl
  rw [none, List.append_nil, List.map_eq_flatMap]
  rfl

end Store

/-! Saved searches that a store lists are saved as they are. -/

namespace SavedRow

def content (row : SavedRow) : String × String × String := (row.name, row.query, row.filters)

def core (row : SavedRow) : Nat × String × String × String := (row.id, row.content)

def line (row : SavedRow) : CatalogLine := .savedSearch row.name row.query row.filterSet

end SavedRow

namespace Store

theorem importLine_line {store : Store} {row : SavedRow} (written : row.IsWritten)
    (now : Time.Instant) : importLine now store row.line =
      store.putSaved row.name row.query row.filters now.timestamp := by
  rw [SavedRow.line, importLine, written.encode_filterSet]

theorem any_name_iff (store : Store) (name : String) :
    (store.saved.any fun row => row.name == name) = true ↔
      name ∈ store.saved.map SavedRow.name := by
  simp

theorem importLines_new (store : Store) {rows : List SavedRow} (now : Time.Instant)
    (written : ∀ row ∈ rows, row.IsWritten)
    (distinct : ((store.saved ++ rows).map SavedRow.name).Nodup) :
    ((rows.map SavedRow.line).foldl (importLine now) store).saved.map SavedRow.content =
      (store.saved ++ rows).map SavedRow.content := by
  induction rows generalizing store with
  | nil => simp
  | cons row rows ih =>
    have unknown : row.name ∉ store.saved.map SavedRow.name :=
      key_fresh_of_nodup SavedRow.name distinct
    have first : (importLine now store row.line).saved = store.saved ++
        [⟨nextId (store.saved.map SavedRow.id), row.name, row.query, row.filters,
          now.timestamp⟩] := by
      rw [importLine_line (written row List.mem_cons_self), putSaved,
        if_neg (fun known => unknown ((store.any_name_iff row.name).mp known))]
    rw [List.map_cons, List.foldl_cons,
      ih _ (fun found member => written found (List.mem_cons_of_mem _ member))]
    · rw [first]
      simp [SavedRow.content]
    · rw [first]
      simpa using distinct

theorem importLines_listed (store : Store) {rows : List SavedRow} (now : Time.Instant)
    (names : (store.saved.map SavedRow.name).Nodup) (written : ∀ row ∈ rows, row.IsWritten)
    (listed : ∀ row ∈ rows, row.core ∈ store.saved.map SavedRow.core) :
    ((rows.map SavedRow.line).foldl (importLine now) store).saved.map SavedRow.core =
      store.saved.map SavedRow.core := by
  induction rows generalizing store with
  | nil => rfl
  | cons row rows ih =>
    obtain ⟨old, member, same⟩ := List.mem_map.mp (listed row List.mem_cons_self)
    have sameName : old.name = row.name := congrArg (fun core => core.2.1) same
    have known := (store.any_name_iff row.name).mpr (List.mem_map.mpr ⟨old, member, sameName⟩)
    have cores : (importLine now store row.line).saved.map SavedRow.core =
        store.saved.map SavedRow.core := by
      rw [importLine_line (written row List.mem_cons_self), putSaved, if_pos known, List.map_map]
      apply List.map_congr_left
      intro found inTable
      by_cases here : found.name = row.name
      · have isOld : found = old :=
          eq_of_key_eq SavedRow.name names inTable member (here.trans sameName.symm)
        subst isOld
        have content : found.content = row.content := congrArg Prod.snd same
        rw [SavedRow.content, SavedRow.content, Prod.mk.injEq, Prod.mk.injEq] at content
        simp only [Function.comp, here, if_true, SavedRow.core, SavedRow.content, content.2.1,
          content.2.2]
      · simp [here]
    have keptNames : (importLine now store row.line).saved.map SavedRow.name =
        store.saved.map SavedRow.name := by
      have projected := congrArg (List.map fun core => core.2.1) cores
      simpa [List.map_map, Function.comp_def, SavedRow.core, SavedRow.content] using projected
    rw [List.map_cons, List.foldl_cons, ← cores]
    apply ih _ (keptNames.symm ▸ names)
      (fun found member => written found (List.mem_cons_of_mem _ member))
    rw [cores]
    exact fun found member => listed found (List.mem_cons_of_mem _ member)

theorem importModels_saved (store : Store) (entries : List CatalogEntry) (now : Time.Instant) :
    ((entries.map CatalogLine.model).foldl (importLine now) store).saved = store.saved := by
  induction entries generalizing store with
  | nil => rfl
  | cons entry entries ih =>
    rw [List.map_cons, List.foldl_cons, ih]
    exact upsert_saved store entry now

theorem lines_foldl (store target : Store) (now : Time.Instant) :
    store.lines.foldl (importLine now) target = (store.savedByName.map SavedRow.line).foldl
      (importLine now) ((store.entries.map CatalogLine.model).foldl (importLine now) target) :=
  List.foldl_append

theorem import_entries (store : Store) {target : Store} (sound : target.TablesSound)
    (now : Time.Instant) : (store.lines.foldl (importLine now) target).entries =
      (store.entries.map fun entry => CatalogEvent.put entry now).foldl CatalogEvent.apply
        target.entries := by
  rw [(importLines_tables sound now store.lines).2, lines_events]

section Importing

variable {store : Store} (sound : store.Sound) (now : Time.Instant)
include sound

theorem savedByName_written : ∀ row ∈ store.savedByName, row.IsWritten := fun row member =>
  sound.saved.written row ((savedByName_perm store).mem_iff.mp member)

theorem copy_entries : (store.lines.foldl (importLine now) {}).entries = store.entries := by
  rw [import_entries store tablesSound_empty]
  exact CatalogEntry.absorb_new now (entries_settled sound.tables)
    (entries_paths_nodup sound.tables)

theorem again_entries : (store.lines.foldl (importLine now) store).entries = store.entries := by
  rw [import_entries store sound.tables]
  exact CatalogEntry.absorb_listed (entries_paths_nodup sound.tables) (fun _ => id)
    (entries_settled sound.tables) now

theorem copy_saved : (store.lines.foldl (importLine now) {}).savedByName.map SavedRow.content =
    store.savedByName.map SavedRow.content := by
  have none := importModels_saved {} store.entries now
  have distinct : (([] ++ store.savedByName).map SavedRow.name).Nodup :=
    ((savedByName_perm store).map _).nodup_iff.mpr sound.saved.names
  have saved := importLines_new ((store.entries.map CatalogLine.model).foldl
    (importLine now) {}) now (savedByName_written sound) (none.symm ▸ distinct)
  have ordered : (store.savedByName.map SavedRow.content).Pairwise
      fun a b => decide (a.1 ≤ b.1) := List.pairwise_map.mpr (savedByName_ordered store)
  calc (store.lines.foldl (importLine now) {}).savedByName.map SavedRow.content
    _ = ((store.lines.foldl (importLine now) {}).saved.map SavedRow.content).mergeSort
          fun a b => decide (a.1 ≤ b.1) := savedByName_map _ SavedRow.content Prod.fst fun _ => rfl
    _ = (store.savedByName.map SavedRow.content).mergeSort fun a b => decide (a.1 ≤ b.1) := by
          rw [lines_foldl, saved, none]
          rfl
    _ = store.savedByName.map SavedRow.content := List.mergeSort_of_pairwise ordered

theorem again_saved : (store.lines.foldl (importLine now) store).savedByName.map SavedRow.core =
    store.savedByName.map SavedRow.core := by
  have same := importModels_saved store store.entries now
  have listed : ∀ row ∈ store.savedByName, row.core ∈ store.saved.map SavedRow.core :=
    fun row member => List.mem_map.mpr ⟨row, (savedByName_perm store).mem_iff.mp member, rfl⟩
  have saved := importLines_listed ((store.entries.map CatalogLine.model).foldl
    (importLine now) store) now (same.symm ▸ sound.saved.names) (savedByName_written sound)
    (same.symm ▸ listed)
  have byName (store : Store) := savedByName_map store SavedRow.core (fun core => core.2.1)
    fun _ => rfl
  calc (store.lines.foldl (importLine now) store).savedByName.map SavedRow.core
    _ = ((store.lines.foldl (importLine now) store).saved.map SavedRow.core).mergeSort
          fun a b => decide (a.2.1 ≤ b.2.1) := byName _
    _ = (store.saved.map SavedRow.core).mergeSort fun a b => decide (a.2.1 ≤ b.2.1) := by
          rw [lines_foldl, saved, same]
    _ = store.savedByName.map SavedRow.core := (byName store).symm

theorem copy_lines : (store.lines.foldl (importLine now) {}).lines = store.lines := by
  have line : SavedRow.line = (fun content => CatalogLine.savedSearch content.1 content.2.1
      ((FilterSet.decode content.2.2).getD {})) ∘ SavedRow.content := rfl
  have saved : (store.lines.foldl (importLine now) {}).savedByName.map SavedRow.line =
      store.savedByName.map SavedRow.line := by
    rw [line, ← List.map_map, ← List.map_map, copy_saved sound now]
  exact congrArg₂ (fun entries saved => entries.map CatalogLine.model ++ saved)
    (copy_entries sound now) saved

end Importing

def savedContents (store : Store) : Except SearchError (List (String × String × FilterSet)) :=
  store.savedSearches.map fun saved =>
    saved.map fun search => (search.name, search.query, search.filters)

/-- The saved searches by name, without their times. -/
def savedCores (store : Store) : Except SearchError (List (Int64 × String × String × FilterSet)) :=
  store.savedSearches.map fun saved =>
    saved.map fun search => (search.id, search.name, search.query, search.filters)

theorem savedSearches_congr {β γ : Type} {first second : Store} (sound : first.SavedSound)
    (sound' : second.SavedSound) {kept : SavedRow → β}
    (same : first.savedByName.map kept = second.savedByName.map kept) {shown : SavedSearch → γ}
    (make : β → γ) (made : ∀ row : SavedRow, shown row.search = make (kept row)) :
    first.savedSearches.map (fun saved => saved.map shown) =
      second.savedSearches.map fun saved => saved.map shown := by
  have remade (rows : List SavedRow) :
      (rows.map SavedRow.search).map shown = (rows.map kept).map make := by
    rw [List.map_map, List.map_map]
    exact List.map_congr_left fun row _ => made row
  rw [savedSearches_eq sound, savedSearches_eq sound']
  simp only [Except.map, remade, same]

theorem savedContents_congr {first second : Store} (sound : first.SavedSound)
    (sound' : second.SavedSound)
    (same : first.savedByName.map SavedRow.content = second.savedByName.map SavedRow.content) :
    first.savedContents = second.savedContents :=
  savedSearches_congr sound sound' same
    (fun content => (content.1, content.2.1, (FilterSet.decode content.2.2).getD {})) fun _ => rfl

theorem savedCores_congr {first second : Store} (sound : first.SavedSound)
    (sound' : second.SavedSound)
    (same : first.savedByName.map SavedRow.core = second.savedByName.map SavedRow.core) :
    first.savedCores = second.savedCores :=
  savedSearches_congr sound sound' same (fun core =>
    (Int64.ofNat core.1, core.2.1, core.2.2.1, (FilterSet.decode core.2.2.2).getD {})) fun _ => rfl

/-- What is exported makes the same catalog in an empty store, which is exported alike; imported
into its own store it changes neither an entry nor a saved search. -/
theorem import_exported {store : Store} (reachable : Reachable store) :
    ∃ stats text, store.exportText = .ok (stats, text) ∧
      (∀ now, ∃ copy : Store, ({} : Store).importText text now = .ok (stats, copy) ∧
        copy.entries = store.entries ∧ copy.savedContents = store.savedContents ∧
        copy.exportText = .ok (stats, text)) ∧
      ∀ now, ∃ again : Store, store.importText text now = .ok (stats, again) ∧
        again.entries = store.entries ∧ again.savedCores = store.savedCores := by
  have sound := reachable.sound
  refine ⟨_, _, exportText_eq sound.saved, ?_, ?_⟩
  · intro now
    have copySound := importLines_saved savedSound_empty now store.lines
    refine ⟨_, importText_textOf {} store.lines now, copy_entries sound now, ?_, ?_⟩
    · exact savedContents_congr copySound sound.saved (copy_saved sound now)
    · rw [exportText_eq copySound, copy_lines sound now]
  · intro now
    have againSound := importLines_saved sound.saved now store.lines
    refine ⟨_, importText_textOf store store.lines now, again_entries sound now, ?_⟩
    exact savedCores_congr againSound sound.saved (again_saved sound now)

/-- A catalog of one model and one saved search, and its copy. -/
theorem import_exported_bracket :
    let now : Time.Instant := ⟨1700000000, 0⟩
    let entry : CatalogEntry :=
      { filename := "bracket.stl", filePath := "/m/bracket.stl", projects := ["mount", "arm"] }
    let store := (({} : Store).after {} now now (.catalog (.upsert entry now))).after {} now now
      (.saveSearch "arms" "tag=arm" { tagsInclude := ["arm"] })
    Reachable store ∧
      ∃ stats text, store.exportText = .ok (stats, text) ∧
        (∀ now, ∃ copy : Store, ({} : Store).importText text now = .ok (stats, copy) ∧
          copy.entries = store.entries ∧ copy.savedContents = store.savedContents ∧
          copy.exportText = .ok (stats, text)) ∧
        ∀ now, ∃ again : Store, store.importText text now = .ok (stats, again) ∧
          again.entries = store.entries ∧ again.savedCores = store.savedCores := by
  intro now entry store
  have reachable : Reachable store :=
    .call (.call .empty {} now now _ (by decide)) {} now now _ (by decide)
  exact ⟨reachable, import_exported reachable⟩

end Store

end ModelCatalog
