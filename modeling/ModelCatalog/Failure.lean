import ModelCatalog.Error
import ModelCatalog.Files.Basic
import ModelCatalog.Store.Location
import ModelCatalog.Store.Transfer

/-!
The causes for which a command fails, and how they are told.
-/

namespace ModelCatalog

inductive Failure where
  | search (error : SearchError)
  | badLine (line : BadLine)
  | unreadableSettings (path : String) (fault : FileFault)
  | badSettings
  | storeNotFound
  | noStore (path : String)
  | storeExists (path : String)
  | newerStore (version : Int64)
  | misnamedStore (path : String) (fault : LocationFault)
  | unopenableStore (path : String)
  | notAStore
  /-- A store cannot be written, but would have to be brought to the current version. -/
  | readOnlyStore (isNew : Bool)
  | createDirectory (path : String) (fault : FileFault)
  | createStoreDirectory (path : String) (fault : FileFault)
  | openFile (path : String) (fault : FileFault)
  | readFile (fault : FileFault)
  | temporaryFile (directory : String) (fault : FileFault)
  | replaceFile (path : String) (fault : FileFault)
  | noExportPath
  | noModel (target : String)
  deriving DecidableEq, Repr

inductive StoreCause where
  | statement
  | permission
  | readOnly
  | unopenable
  | notAStore
  deriving DecidableEq, Repr

def StoreCause.message : StoreCause → String
  | statement => "Error code 1: SQL error or missing database"
  | permission => "Error code 3: Access permission denied"
  | readOnly => "Error code 8: Attempt to write a readonly database"
  | unopenable => "Error code 14: Unable to open the database file"
  | notAStore => "Error code 26: File opened that is not a database file"

def LocationFault.cause : LocationFault → String
  | nul position => message (nul position)
  | refusedMode _ => StoreCause.permission.message
  | _ => StoreCause.statement.message

namespace Failure

def steps : Failure → List String
  | search (.storage text) =>
    [(SearchError.storage text).message, text, StoreCause.statement.message]
  | search error => [error.message]
  | badLine line => [line.message]
  | unreadableSettings path fault => ["read " ++ path, fault.message]
  | badSettings => ["parse modelshelf.toml"]
  | storeNotFound => ["store not found; run `modelshelf init` first"]
  | noStore path => ["no store at " ++ path ++ "; run `modelshelf init` first"]
  | storeExists path => ["store already exists at " ++ path]
  | newerStore version =>
    ["store schema version " ++ integerText version.toInt ++ " is newer than supported "
      ++ integerText StoreFile.currentVersion.toInt]
  | misnamedStore path fault => ["open " ++ path, fault.message, fault.cause]
  | unopenableStore path =>
    ["open " ++ path, "unable to open database file: " ++ path, StoreCause.unopenable.message]
  | notAStore => ["apply pragmas", "file is not a database", StoreCause.notAStore.message]
  | readOnlyStore isNew =>
    [if isNew then "create schema" else "set meta", "attempt to write a readonly database",
      StoreCause.readOnly.message]
  | createDirectory path fault => ["create dir " ++ path, fault.message]
  | createStoreDirectory path fault => ["create " ++ path, fault.message]
  | openFile path fault => ["open " ++ path, fault.message]
  | readFile fault => [fault.message]
  | temporaryFile directory fault => ["create temp file in " ++ directory, fault.message]
  | replaceFile path fault =>
    ["write " ++ path, "failed to persist temporary file: " ++ fault.message, fault.message]
  | noExportPath => ["--json requires --out for export"]
  | noModel target => ["no model matches " ++ target]

def message (failure : Failure) : String := ": ".intercalate failure.steps

def code : Failure → String
  | search error => error.code
  | _ => "error"

end Failure

abbrev Task (m : Type → Type) := ExceptT Failure m

def Task.ofFault {m : Type → Type} {α : Type} [Monad m] (failure : FileFault → Failure)
    (action : m (Except FileFault α)) : Task m α := do
  match ← (action : Task m (Except FileFault α)) with
  | .ok value => return value
  | .error fault => throw (failure fault)

end ModelCatalog
