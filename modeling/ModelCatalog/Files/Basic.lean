import ModelCatalog.Path
import ModelCatalog.Store.Codec

/-!
The files that commands work on. `Files` says what can be done with them in a monad, so that the
commands run over a disk and over a tree in memory alike.
-/

namespace ModelCatalog

inductive FileKind where
  | file
  | directory
  deriving DecidableEq, Repr

inductive FileFault where
  | missing
  | busy
  | occupied
  | notDirectory
  | isDirectory
  | tooLong
  | notText
  | nul
  deriving DecidableEq, Repr

def FileFault.message : FileFault → String
  | missing => "No such file or directory (os error 2)"
  | busy => "Device or resource busy (os error 16)"
  | occupied => "File exists (os error 17)"
  | notDirectory => "Not a directory (os error 20)"
  | isDirectory => "Is a directory (os error 21)"
  | tooLong => "File name too long (os error 36)"
  | notText => "stream did not contain valid UTF-8"
  | nul => "file name contained an unexpected NUL byte"

structure Files (m : Type → Type) where
  /-- What the path leads to, if it leads anywhere. -/
  kind? : String → m (Option FileKind)
  /-- The absolute path without detours, if it leads anywhere. -/
  canonical? : String → m (Option String)
  readText : String → m (Except FileFault String)
  createDirectory : String → m (Except FileFault Unit)
  /-- Puts a file with this text in place of what is there, if that is no directory. -/
  replaceText : (path text : String) → m (Except FileFault Unit)
  /-- The store that a file holds, if it holds one. An empty file holds an empty store of no
  version. -/
  readStore? : String → m (Option StoreFile)
  writeStore : String → StoreFile → m Unit
  storeBytes : String → m Nat

namespace Files

variable {m : Type → Type} [Monad m]

def leadsSomewhere (files : Files m) (path : String) : m Bool :=
  return (← files.kind? path).isSome

def isDirectory (files : Files m) (path : String) : m Bool :=
  return (← files.kind? path) == some .directory

def settle (files : Files m) (path : String) (fault : FileFault) : m (Except FileFault Unit) :=
  return if ← files.isDirectory path then .ok () else .error fault

def createFirst (files : Files m) : List String → m (Except FileFault Unit)
  | [] => return .ok ()
  | path :: outer =>
    if path.isEmpty then return .ok ()
    else do
      match ← files.createDirectory path with
      | .ok () => return .ok ()
      | .error .missing =>
        match ← createFirst files outer with
        | .error fault => return .error fault
        | .ok () =>
          match ← files.createDirectory path with
          | .ok () => return .ok ()
          | .error fault => files.settle path fault
      | .error fault => files.settle path fault

def createDirectories (files : Files m) (path : String) : m (Except FileFault Unit) :=
  files.createFirst (Path.ancestors path)

def firstPath? (test : String → m Bool) : List String → m (Option String)
  | [] => return none
  | path :: rest => do
    if ← test path then return some path else firstPath? test rest

end Files

end ModelCatalog
