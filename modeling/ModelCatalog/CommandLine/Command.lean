import ModelCatalog.Decimal.Integer

/-!
The commands, and which arguments each of them takes.
-/

namespace ModelCatalog.CommandLine

inductive Shell where
  | bash
  | elvish
  | fish
  | powershell
  | zsh
  deriving DecidableEq, Repr

inductive Command where
  | init (directory : Option String)
  | importCatalog (path : String)
  | exportCatalog (out : Option String)
  | search (query : String) (filters : List String) (limit : Option UInt64) (offset : UInt64)
  | searchSaved (name : String) (limit : Option UInt64) (offset : UInt64)
  | suggest (typed : String) (limit : Option UInt64)
  | save (name query : String) (filters : List String)
  | saved
  | unsave (id : Int64)
  | history (limit : Option UInt64)
  | clearHistory (days : UInt32)
  | reindex
  | view (target : String)
  | stats
  | doctor
  | completions (shell : Shell)
  deriving DecidableEq, Repr

structure Invocation where
  command : Command
  json : Bool
  deriving DecidableEq, Repr

inductive UsageFault where
  | help
  | version
  | noCommand
  | unknownCommand
  | missingArgument
  | unknownArgument
  | unreadableValue
  | invalidValue
  | conflict
  | surplusValue
  deriving DecidableEq, Repr

structure Options where
  filters : List String := []
  limit : Option UInt64 := none
  offset : Option UInt64 := none
  saved : Option String := none
  out : Option String := none
  days : Option UInt32 := none
  json : Bool := false
  deriving DecidableEq, Repr

inductive OptionName where
  | filter
  | limit
  | offset
  | saved
  | out
  | olderThanDays
  deriving DecidableEq, Repr

def OptionName.text : OptionName → String
  | filter => "filter"
  | limit => "limit"
  | offset => "offset"
  | saved => "saved"
  | out => "out"
  | olderThanDays => "older-than-days"

inductive Value where
  | text (text : String)
  | id (id : Int64)
  | shell (shell : Shell)
  deriving DecidableEq, Repr

inductive ValueKind where
  | text
  /-- A text that is not empty. -/
  | path
  | id
  | shell
  deriving DecidableEq, Repr

def readPath (text : String) : Except UsageFault String :=
  if text.isEmpty then .error .invalidValue else .ok text

def orUnreadable {α : Type} : Option α → Except UsageFault α
  | some value => .ok value
  | none => .error .unreadableValue

def readDays? (text : String) : Option UInt32 := do
  let n ← Decimal.readInt64? text.toList
  if 0 ≤ n.toInt ∧ n.toInt < UInt32.size then some (UInt32.ofNat n.toInt.toNat) else none

def ValueKind.read (text : String) : ValueKind → Except UsageFault Value
  | .text => .ok (.text text)
  | .path => (readPath text).map .text
  | .id => (orUnreadable (Decimal.readInt64? text.toList)).map .id
  | .shell =>
    match text with
    | "bash" => .ok (.shell .bash)
    | "elvish" => .ok (.shell .elvish)
    | "fish" => .ok (.shell .fish)
    | "powershell" => .ok (.shell .powershell)
    | "zsh" => .ok (.shell .zsh)
    | _ => .error .invalidValue

def Options.has (options : Options) : OptionName → Bool
  | .filter => false
  | .limit => options.limit.isSome
  | .offset => options.offset.isSome
  | .saved => options.saved.isSome
  | .out => options.out.isSome
  | .olderThanDays => options.days.isSome

def Options.take (options : Options) (name : OptionName) (text : String) :
    Except UsageFault Options := do
  if options.has name then throw .conflict
  match name with
  | .filter => return { options with filters := options.filters ++ [text] }
  | .limit => return { options with limit := ← orUnreadable (Decimal.readUInt64? text.toList) }
  | .offset => return { options with offset := ← orUnreadable (Decimal.readUInt64? text.toList) }
  | .saved => return { options with saved := text }
  | .out => return { options with out := ← readPath text }
  | .olderThanDays => return { options with days := ← orUnreadable (readDays? text) }

structure Form where
  name : String
  values : List ValueKind := []
  options : List OptionName := []
  json : Bool := true
  command : List Value → Options → Except UsageFault Command

/-- A saved search takes the place of a query and its filters. -/
def searchCommand (values : List Value) (options : Options) : Except UsageFault Command :=
  let offset := options.offset.getD 0
  match values, options.saved with
  | [], some name =>
    if options.filters.isEmpty then .ok (.searchSaved name options.limit offset)
    else .error .conflict
  | _, some _ => .error .conflict
  | [.text query], none => .ok (.search query options.filters options.limit offset)
  | _, none => .error .missingArgument

def forms : List Form :=
  [{ name := "init", values := [.path], json := false
     command := fun values _ =>
       match values with
       | [.text directory] => .ok (.init (some directory))
       | _ => .ok (.init none) },
    { name := "import", values := [.path]
      command := fun values _ =>
        match values with
        | [.text path] => .ok (.importCatalog path)
        | _ => .error .missingArgument },
    { name := "export", options := [.out]
      command := fun _ options => .ok (.exportCatalog options.out) },
    { name := "search", values := [.text], options := [.filter, .limit, .offset, .saved]
      command := searchCommand },
    { name := "suggest", values := [.text], options := [.limit]
      command := fun values options =>
        match values with
        | [.text typed] => .ok (.suggest typed options.limit)
        | _ => .error .missingArgument },
    { name := "save", values := [.text, .text], options := [.filter]
      command := fun values options =>
        match values with
        | [.text name, .text query] => .ok (.save name query options.filters)
        | _ => .error .missingArgument },
    { name := "saved", command := fun _ _ => .ok .saved },
    { name := "unsave", values := [.id]
      command := fun values _ =>
        match values with
        | [.id id] => .ok (.unsave id)
        | _ => .error .missingArgument },
    { name := "history", options := [.limit]
      command := fun _ options => .ok (.history options.limit) },
    { name := "clear-history", options := [.olderThanDays]
      command := fun _ options =>
        match options.days with
        | some days => .ok (.clearHistory days)
        | none => .error .missingArgument },
    { name := "reindex", command := fun _ _ => .ok .reindex },
    { name := "view", values := [.text]
      command := fun values _ =>
        match values with
        | [.text target] => .ok (.view target)
        | _ => .error .missingArgument },
    { name := "stats", command := fun _ _ => .ok .stats },
    { name := "doctor", command := fun _ _ => .ok .doctor },
    { name := "completions", values := [.shell], json := false
      command := fun values _ =>
        match values with
        | [.shell shell] => .ok (.completions shell)
        | _ => .error .missingArgument }]

end ModelCatalog.CommandLine
