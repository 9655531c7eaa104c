import ModelCatalog.CommandLine.Arguments
import ModelCatalog.CommandLine.Report
import ModelCatalog.Engine.Search
import ModelCatalog.Engine.Suggest
import ModelCatalog.Filter.Pair
import ModelCatalog.Settings
import ModelCatalog.Store.Access

/-!
Running commands on files. Every command opens the store that belongs to the working directory,
except for the one that creates it.
-/

namespace ModelCatalog

structure Surroundings (m : Type → Type) where
  files : Files m
  settingsPath? : Option String
  /-- The time with which changes are stamped. -/
  now : Time.Instant
  /-- The instant that the store takes for the present. -/
  present : Time.Instant

structure Output where
  stdout : String := ""
  stderr : String := ""
  status : UInt8 := 0
  deriving DecidableEq, Repr

def joinLines (lines : List String) : String := String.join (lines.map fun line => line ++ "\n")

namespace CommandLine

structure Workspace where
  config : Config
  path : String
  opened : OpenStore

def Workspace.store (workspace : Workspace) : Store := workspace.opened.store

variable {m : Type → Type} [Monad m]

def openStore (around : Surroundings m) : Task m Workspace := do
  let config ← around.files.loadConfig around.settingsPath?
  let root ← around.files.locateStore config "."
  let path := config.storeBelow root
  return ⟨config, path, ← around.files.openStore path⟩

def askEngine {α : Type} (around : Surroundings m)
    (question : Engine Store → Session Store α) : Task m (α × Store) := do
  let workspace ← openStore around
  let engine : Engine Store :=
    ⟨workspace.opened.backend around.present, workspace.config, around.now⟩
  around.files.runSession workspace.opened (question engine)

def runInit (around : Surroundings m) (directory : Option String) : Task m Report := do
  let root := directory.getD "."
  Task.ofFault (.createDirectory root) (around.files.createDirectories root)
  let path := (← around.files.loadConfig around.settingsPath?).storeBelow root
  around.files.initStore path
  return Report.ofInit path

def runImport (around : Surroundings m) (path : String) : Task m Report := do
  let workspace ← openStore around
  let text ← around.files.importedText path
  match workspace.store.importText text around.now with
  | .error line => throw (.badLine line)
  | .ok (stats, store) =>
    around.files.putStore workspace.opened store
    return Report.ofImport stats (store.stats 0).modelCount

/-- An export without a path is all that is printed, so that it cannot be told in JSON. -/
def runExport (around : Surroundings m) (out : Option String) (json : Bool) : Task m Report := do
  match out with
  | some path =>
    let workspace ← openStore around
    return Report.ofExport (← around.files.exportTo workspace.store path)
  | none =>
    if json then throw .noExportPath
    let workspace ← openStore around
    match workspace.store.exportLines with
    | .ok lines => return { lines := Store.lineTexts lines }
    | .error error => throw (.search error)

def readFilters (pairs : List String) : Session Store FilterSet :=
  ExceptT.mk (pure (FilterSet.ofPairs pairs))

def runView (around : Surroundings m) (target : String) : Task m Report := do
  let workspace ← openStore around
  let (count, store) := workspace.store.markViewed target around.now
  if count = 0 then throw (.noModel target)
  around.files.putStore workspace.opened store
  return Report.ofView target

def measured (around : Surroundings m) (workspace : Workspace) : Task m StoreStats := do
  return workspace.store.stats (← around.files.storeBytes workspace.path)

def runStats (around : Surroundings m) : Task m Report := do
  let workspace ← openStore around
  return Report.ofStats workspace.config workspace.path (← measured around workspace)

def runDoctor (around : Surroundings m) : Task m Report := do
  let workspace ← openStore around
  return Report.ofDoctor (← measured around workspace) "ok" workspace.store.consistency

def run (around : Surroundings m) (invocation : Invocation) : Task m Report := do
  match invocation.command with
  | .init directory => runInit around directory
  | .importCatalog path => runImport around path
  | .exportCatalog out => runExport around out invocation.json
  | .search query pairs limit offset =>
    let (result, _) ← askEngine around fun engine => do
      engine.search query (some (← readFilters pairs)) limit offset
    return Report.ofResult result none
  | .searchSaved name limit offset =>
    let (result, _) ← askEngine around fun engine => engine.runSaved name limit offset
    return Report.ofResult result (some name)
  | .suggest typed limit =>
    let (suggestions, _) ← askEngine around fun engine => engine.suggest typed limit
    return Report.ofSuggestions suggestions
  | .save name query pairs =>
    let (id, _) ← askEngine around fun engine => do
      engine.saveSearch name query (← readFilters pairs)
    return Report.ofSave id name
  | .saved =>
    let (saved, _) ← askEngine around Engine.savedSearches
    return Report.ofSaved saved
  | .unsave id =>
    let (deleted, _) ← askEngine around fun engine => engine.deleteSavedSearch id
    return Report.ofUnsave id deleted
  | .history limit =>
    let (history, _) ← askEngine around fun engine => engine.history limit
    return Report.ofHistory history
  | .clearHistory days =>
    let (removed, _) ← askEngine around fun engine => engine.clearHistory days
    return Report.ofClearedHistory removed
  | .reindex =>
    let (_, store) ← askEngine around Engine.rebuildIndexes
    return Report.ofReindex store.consistency
  | .view target => runView around target
  | .stats => runStats around
  | .doctor => runDoctor around
  | .completions shell => return { lines := [shell.script] }

def failureResponse (failure : Failure) : Response :=
  Response.failure failure.code failure.message
    (match failure with
    | .search (.unknownFilter _) =>
      some ("known filters: " ++ ", ".intercalate (FilterName.all.map FilterName.text))
    | _ => none)

/-- The output of a command. A failure is told in JSON if that is asked for, and is no failure of
the program then. -/
def outputOf (json : Bool) : Except Failure Report → Output
  | .ok report =>
    if json then { stdout := report.response.toJson.pretty ++ "\n" }
    else { stdout := joinLines report.lines, stderr := joinLines report.warnings }
  | .error failure =>
    if json then { stdout := (failureResponse failure).toJson.pretty ++ "\n" }
    else { stderr := "error: " ++ failure.message ++ "\n", status := 1 }

def perform (around : Surroundings m) (arguments : List String) : m (Except UsageFault Output) := do
  match Invocation.ofArguments arguments with
  | .error fault => return .error fault
  | .ok invocation => return .ok (outputOf invocation.json (← (run around invocation).run))

end CommandLine

end ModelCatalog
