import ModelCatalog.CommandLine.Run
import ModelCatalog.Store.Codec
import Std.Time.DateTime.Timestamp

/-!
The program: runs the command that its arguments ask for on the files of the disk.
-/

namespace ModelCatalog

def faultOf : IO.Error → FileFault
  | .noFileOrDirectory .. => .missing
  | .alreadyExists .. => .occupied
  | .resourceBusy .. => .busy
  | .inappropriateType .. => .notDirectory
  | .noSuchThing .. => .missing
  | .invalidArgument .. => .tooLong
  | _ => .notText

def trying {α : Type} (action : IO α) : IO (Except FileFault α) := do
  match ← action.toBaseIO with
  | .ok value => return .ok value
  | .error error => return .error (faultOf error)

def realPath? (path : String) : IO (Option String) := do
  return (← trying (IO.FS.realPath path)).toOption.map toString

def kindOnDisk? (path : String) : IO (Option FileKind) := do
  if path.isEmpty then return none
  if (← realPath? path).isNone then return none
  return if (← realPath? (path ++ "/.")).isSome then some .directory else some .file

/-- Writes a file beside its place, and moves it there when it is complete. -/
def replaceOnDisk (path text : String) : IO Unit := do
  let draft := path ++ ".part"
  IO.FS.writeFile draft text
  IO.FS.rename draft path

def diskFiles : Files IO where
  kind? := kindOnDisk?
  canonical? path := if path.isEmpty then return none else realPath? path
  readText path := do
    if (← kindOnDisk? path) == some .directory then return .error .isDirectory
    trying (IO.FS.readFile path)
  createDirectory path := trying (IO.FS.createDir path)
  replaceText path text := do
    if (← kindOnDisk? path) == some .directory then return .error .isDirectory
    trying (replaceOnDisk path text)
  readStore? path := do
    match ← trying (IO.FS.readFile path) with
    | .ok text => return StoreFile.decode? text
    | .error _ => return none
  writeStore path file := replaceOnDisk path file.encode
  storeBytes path := return (← IO.FS.readFile path).utf8ByteSize

def usageText (fault : CommandLine.UsageFault) : String :=
  let usage := "Usage: " ++ CommandLine.programName ++ " <"
    ++ "|".intercalate CommandLine.commandNames ++ "> [ARGUMENTS]"
  match fault with
  | .version => CommandLine.programName ++ " 0.1.0"
  | _ => usage

def report (result : Except CommandLine.UsageFault Output) : IO UInt32 := do
  match result with
  | .ok output =>
    IO.print output.stdout
    IO.eprint output.stderr
    return output.status.toUInt32
  | .error fault =>
    if fault = .help ∨ fault = .version then
      IO.println (usageText fault)
      return 0
    else
      IO.eprintln (usageText fault)
      return 2

end ModelCatalog

open ModelCatalog in
def main (arguments : List String) : IO UInt32 := do
  let settingsHome ← IO.getEnv "XDG_CONFIG_HOME"
  let home ← IO.getEnv "HOME"
  let time ← Std.Time.Timestamp.now
  let now : Time.Instant := ⟨time.toSecondsSinceUnixEpoch.toInt, 0⟩
  let around : Surroundings IO :=
    { files := diskFiles, settingsPath? := settingsPath? settingsHome home, now, present := now }
  report (← CommandLine.perform around arguments)
