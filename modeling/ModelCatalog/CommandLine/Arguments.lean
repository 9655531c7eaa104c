import ModelCatalog.CommandLine.Command

/-!
Reading arguments. A value is taken in only when the next argument is known to begin something else,
so a fault in it yields to an unknown argument right after it. Scripts let a shell complete the names of
the commands.
-/

namespace ModelCatalog.CommandLine

inductive Shape where
  /-- Two hyphens alone: what follows are values. -/
  | divider
  /-- A long name, perhaps with a value attached. -/
  | long (name : String) (attached : Option String)
  /-- Letters after one hyphen, the first of which decides. -/
  | short (letter : Char)
  | plain
  deriving DecidableEq, Repr

def shapeOf (argument : String) : Shape :=
  match argument.toList with
  | ['-', '-'] => .divider
  | '-' :: '-' :: rest =>
    let name := rest.takeWhile (· != '=')
    match rest.drop name.length with
    | [] => .long (String.ofList name) none
    | _ :: value => .long (String.ofList name) (some (String.ofList value))
  | '-' :: letter :: _ => .short letter
  | _ => .plain

inductive Pending where
  | nothing
  | value (kind : ValueKind) (text : String)
  | option (name : OptionName) (text : Option String)
  deriving DecidableEq, Repr

structure Reading where
  values : List Value := []
  options : Options := {}
  pending : Pending := .nothing
  deriving DecidableEq, Repr

namespace Reading

def settled (reading : Reading) : Except UsageFault Reading :=
  match reading.pending with
  | .nothing => .ok reading
  | .value kind text => do
    return { reading with values := reading.values ++ [← kind.read text], pending := .nothing }
  | .option name (some text) => do
    return { reading with options := ← reading.options.take name text, pending := .nothing }
  | .option _ none => .error .invalidValue

def valueCount (reading : Reading) : Nat :=
  match reading.pending with
  | .value _ _ => reading.values.length + 1
  | _ => reading.values.length

def addValue (form : Form) (reading : Reading) (text : String) : Except UsageFault Reading :=
  match form.values[reading.valueCount]? with
  | none => .error .unknownArgument
  | some kind => do return { ← reading.settled with pending := .value kind text }

def addPlain (form : Form) (reading : Reading) (text : String) : Except UsageFault Reading :=
  match reading.pending with
  | .option name none => .ok { reading with pending := .option name (some text) }
  | _ => reading.addValue form text

def addOption (reading : Reading) (name : OptionName) (attached : Option String) :
    Except UsageFault Reading := do
  let reading ← reading.settled
  let reading := { reading with pending := .option name attached }
  if attached.isSome then reading.settled else return reading

def addJson (reading : Reading) : Except UsageFault Reading := do
  let reading ← reading.settled
  if reading.options.json then throw .conflict
  return { reading with options := { reading.options with json := true } }

/-- Help is told unless something is wrong with what comes before. -/
def askHelp (reading : Reading) : Except UsageFault Reading := do
  discard reading.settled
  throw .help

def addLong (form : Form) (reading : Reading) (name : String) (attached : Option String) :
    Except UsageFault Reading :=
  match form.options.find? fun option => option.text == name with
  | some option => reading.addOption option attached
  | none =>
    if name = "help" ∨ (name = "json" ∧ form.json = true) then
      if attached.isSome then .error .surplusValue
      else if name = "help" then reading.askHelp
      else reading.addJson
    else .error .unknownArgument

def add (form : Form) (reading : Reading) (argument : String) : Except UsageFault Reading :=
  match shapeOf argument with
  | .long name attached => reading.addLong form name attached
  | .short letter => if letter = 'h' then reading.askHelp else .error .unknownArgument
  | _ => reading.addPlain form argument

def addAll (form : Form) (reading : Reading) : List String → Except UsageFault Reading
  | [] => reading.settled
  | argument :: rest =>
    if shapeOf argument = .divider then do
      (← rest.foldlM (addValue form) reading).settled
    else do addAll form (← reading.add form argument) rest

end Reading

def form? (name : String) : Option Form := forms.find? fun form => form.name == name

def helpName : String := "help"

def isCommandName (name : String) : Bool := name == helpName || (form? name).isSome

def helpFault : List String → UsageFault
  | [] => .help
  | [name] => if isCommandName name then .help else .unknownCommand
  | _ => .unknownCommand

def firstFault (argument : String) (rest : List String) : UsageFault :=
  match shapeOf argument with
  | .divider =>
    match rest with
    | [] => .noCommand
    | name :: _ => if isCommandName name then .unknownArgument else .unknownCommand
  | .long name attached =>
    if name = "help" ∨ name = "version" then
      if attached.isSome then .surplusValue
      else if name = "help" then .help else .version
    else .unknownArgument
  | .short letter =>
    if letter = 'h' then .help else if letter = 'V' then .version else .unknownArgument
  | .plain => .unknownCommand

def Invocation.ofArguments : List String → Except UsageFault Invocation
  | [] => .error .noCommand
  | name :: rest =>
    if name = helpName then .error (helpFault rest)
    else
      match form? name with
      | none => .error (firstFault name rest)
      | some form => do
        let reading ← Reading.addAll form {} rest
        return ⟨← form.command reading.values reading.options, reading.options.json⟩

def programName : String := "modelshelf"

def commandNames : List String := forms.map Form.name ++ [helpName]

def Shell.script : Shell → String
  | .bash => "complete -W \"" ++ " ".intercalate commandNames ++ "\" " ++ programName
  | .zsh =>
    "#compdef " ++ programName ++ "\n_arguments '1: :(" ++ " ".intercalate commandNames ++ ")'"
  | .fish => "\n".intercalate (commandNames.map fun name =>
      "complete -c " ++ programName ++ " -f -n __fish_use_subcommand -a " ++ name)
  | .elvish =>
    "set edit:completion:arg-completer[" ++ programName ++ "] = \x7b|@words| put "
      ++ " ".intercalate commandNames ++ " \x7d"
  | .powershell =>
    "Register-ArgumentCompleter -Native -CommandName " ++ programName
      ++ " -ScriptBlock \x7b param($word) "
      ++ ", ".intercalate (commandNames.map fun name => "'" ++ name ++ "'")
      ++ " | Where-Object \x7b $_ -like \"$word*\" \x7d \x7d"

end ModelCatalog.CommandLine
