import ModelCatalog.Failure
import ModelCatalog.Store.Backend

/-!
Stores in files: creating, opening and changing them, and transfer of catalogs to and from files.
-/

namespace ModelCatalog

structure OpenStore where
  location : StoreLocation
  store : Store
  deriving Repr

def OpenStore.backend (opened : OpenStore) (present : Time.Instant) : Backend Store :=
  if opened.location.isReadOnly then Store.readOnlyBackend present else Store.backend present

namespace Files

variable {m : Type → Type} [Monad m]

def greatestStorePath : Nat := 504

def locate (files : Files m) (access : AccessMode) (name : String) : Task m StoreLocation := do
  match StoreLocation.ofName access name with
  | .error fault => throw (.misnamedStore name fault)
  | .ok location =>
    let base := (← files.canonical? ".").getD "/"
    let location := { location with path? := location.path?.map (Path.full base) }
    if location.path?.any fun path => greatestStorePath < path.utf8ByteSize then
      throw (.unopenableStore name)
    return location

/-- The file at a location, which is created there if it may be. What is kept nowhere is new. -/
def fileAt (files : Files m) (name : String) (location : StoreLocation) : Task m StoreFile := do
  match location.path? with
  | none => return { version := "" }
  | some path =>
    match ← files.kind? path with
    | some .directory => throw (.unopenableStore name)
    | some .file =>
      match ← files.readStore? path with
      | some file => return file
      | none => throw .notAStore
    | none =>
      unless location.mayCreate do throw (.unopenableStore name)
      Task.ofFault (fun _ => .unopenableStore name) (files.replaceText path "")
      return { version := "" }

def writeAt (files : Files m) (location : StoreLocation) (file : StoreFile) : m Unit := do
  match location.path? with
  | none => pure ()
  | some path => unless location.isReadOnly do files.writeStore path file

def openNamed (files : Files m) (access : AccessMode) (name : String) : Task m OpenStore := do
  let location ← files.locate access name
  let file ← files.fileAt name location
  match file.upgraded with
  | .error version => throw (.newerStore version)
  | .ok upgraded =>
    if location.isReadOnly && upgraded.version != file.version then
      throw (.readOnlyStore file.version.isEmpty)
    files.writeAt location upgraded
    return ⟨location, upgraded.store⟩

def initStore (files : Files m) (path : String) : Task m Unit := do
  if ← files.leadsSomewhere path then throw (.storeExists path)
  match Path.parent? path with
  | none => pure ()
  | some directory =>
    unless directory.isEmpty do
      Task.ofFault (.createStoreDirectory directory) (files.createDirectories directory)
  discard <| files.openNamed .create path

def openStore (files : Files m) (path : String) : Task m OpenStore := do
  unless ← files.leadsSomewhere path do throw (.noStore path)
  files.openNamed .write path

def putStore (files : Files m) (opened : OpenStore) (store : Store) : m Unit :=
  files.writeAt opened.location { store }

/-- Runs a session on an open store. What it changed stays changed when it fails. -/
def runSession {α : Type} (files : Files m) (opened : OpenStore) (session : Session Store α) :
    Task m (α × Store) := do
  let (result, store) := session.run opened.store
  files.putStore opened store
  match result with
  | .ok value => return (value, store)
  | .error error => throw (.search error)

def workplace (path : String) : String :=
  match Path.parent? path with
  | none => "."
  | some directory => if directory.isEmpty then "." else directory

def exportTo (files : Files m) (store : Store) (path : String) : Task m TransferStats := do
  let directory := workplace path
  match ← files.kind? directory with
  | none => throw (.temporaryFile directory .missing)
  | some .file => throw (.temporaryFile directory .notDirectory)
  | some .directory =>
    match store.exportText with
    | .error error => throw (.search error)
    | .ok (stats, text) =>
      Task.ofFault (.replaceFile path) (files.replaceText path text)
      return stats

/-- The text of a file to be imported. That a file is no text shows only while it is read. -/
def importedText (files : Files m) (path : String) : Task m String := do
  match ← files.readText path with
  | .ok text => return text
  | .error .isDirectory => throw (.readFile .isDirectory)
  | .error .notText => throw (.readFile .notText)
  | .error fault => throw (.openFile path fault)

end Files

end ModelCatalog
