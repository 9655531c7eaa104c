import ModelCatalog.Failure
import ModelCatalog.Config
import ModelCatalog.Toml.Reader

/-!
Where the settings file and the store are.
-/

namespace ModelCatalog

/-- The settings file below the directory for settings, which is below the home directory if it is
not given itself. -/
def settingsPath? (settingsHome home : Option String) : Option String := do
  let directory ← settingsHome.or (home.map fun home => Path.join home ".config")
  return Path.join (Path.join directory "modelshelf") "modelshelf.toml"

namespace Config

def read? (text : String) : Option Config := do
  return (← ofMembers? (← Toml.read text)).normalized

def storeBelow (config : Config) (root : String) : String := Path.join root config.storePath

end Config

namespace Files

variable {m : Type → Type} [Monad m]

def loadConfig (files : Files m) (path? : Option String) : Task m Config := do
  match path? with
  | none => return {}
  | some path =>
    if ← files.leadsSomewhere path then
      let text ← Task.ofFault (.unreadableSettings path) (files.readText path)
      match Config.read? text with
      | some config => return config
      | none => throw .badSettings
    else return {}

/-- The directory that a store belongs to. A relative path is looked for in `start` and in the
directories around it, the innermost first. -/
def storeRoot? (files : Files m) (storePath start : String) : m (Option String) := do
  if Path.isAbsolute storePath then
    if ← files.leadsSomewhere storePath then
      return some ((Path.parent? storePath).getD storePath)
    else return none
  else
    let start := (← files.canonical? start).getD start
    firstPath? (fun directory => files.leadsSomewhere (Path.join directory storePath))
      (Path.ancestors start)

def locateStore (files : Files m) (config : Config) (start : String) : Task m String := do
  match ← files.storeRoot? config.storePath start with
  | some root => return root
  | none => throw .storeNotFound

end Files

end ModelCatalog
