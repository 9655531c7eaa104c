import ModelCatalog.Json.Reader

/-!
Quoted texts and keys of TOML. Line ends are single line feeds here: `unixLines?` has replaced all
others.
-/

namespace ModelCatalog.Toml

/-- Every line end as a line feed; a carriage return anywhere else is refused. -/
def unixLines? : List Char → Option (List Char)
  | [] => some []
  | '\r' :: '\n' :: rest => (unixLines? rest).map ('\n' :: ·)
  | '\r' :: _ => none
  | c :: rest => (unixLines? rest).map (c :: ·)

def isSpace (c : Char) : Bool := c == ' ' || c == '\t'

def skipSpace (text : List Char) : List Char := text.dropWhile isSpace

def isPlain (c : Char) : Bool := c == '\t' || (decide (32 ≤ c.toNat) && c.toNat != 127)

def coded? (digits : List Char) : Option Char := do
  let code ← digits.foldlM (fun n c => (Text.hexValue? c).map (16 * n + ·)) 0
  if code.isValidChar then some (Char.ofNat code) else none

/-- What a backslash before `text` makes of it: a character, and how much of `text` writes it. -/
def escape? (text : List Char) : Option (Char × Nat) :=
  let coded (width : Nat) (digits : List Char) : Option (Char × Nat) :=
    if digits.length < width then none
    else (coded? (digits.take width)).map fun c => (c, width + 1)
  match text with
  | 'b' :: _ => some ('\x08', 1)
  | 't' :: _ => some ('\t', 1)
  | 'n' :: _ => some ('\n', 1)
  | 'f' :: _ => some ('\x0c', 1)
  | 'r' :: _ => some ('\r', 1)
  | '"' :: _ => some ('"', 1)
  | '\\' :: _ => some ('\\', 1)
  | 'u' :: digits => coded 4 digits
  | 'U' :: digits => coded 8 digits
  | _ => none

def readEscaped : List Char → Option (List Char × List Char)
  | [] => none
  | '"' :: rest => some ([], rest)
  | '\\' :: rest => do
    let (c, width) ← escape? rest
    let (text, rest) ← readEscaped (rest.drop width)
    return (c :: text, rest)
  | c :: rest =>
    if isPlain c then do
      let (text, rest) ← readEscaped rest
      return (c :: text, rest)
    else none
termination_by text => text.length

def readLiteral (text : List Char) : Option (List Char × List Char) :=
  let held := text.takeWhile fun c => isPlain c && c != '\''
  match text.drop held.length with
  | '\'' :: rest => some (held, rest)
  | _ => none

/-- The end of a text of several lines: three quotes, and as many as two in front of them that
belong to the text. -/
def closing? (quote : Char) (text : List Char) : Option (List Char × List Char) :=
  let run := (text.takeWhile (· == quote)).length
  if run < 3 then none
  else
    let held := min 2 (run - 3)
    some (text.take held, text.drop (held + 3))

/-- How much of `text` a backslash in front of it skips: blanks and line ends, one at least. -/
def joinedWidth? (text : List Char) : Option Nat :=
  let gap := text.takeWhile fun c => isSpace c || c == '\n'
  if gap.contains '\n' then some gap.length else none

/-- A text between three quotes and three quotes, the first of which have been read, and the rest.
Double quotes allow escapes. -/
def readLines (quote : Char) : List Char → Option (List Char × List Char)
  | [] => none
  | c :: rest =>
    match closing? quote (c :: rest) with
    | some closed => some closed
    | none =>
      if c == '\\' && quote == '"' then
        match joinedWidth? rest with
        | some width => readLines quote (rest.drop width)
        | none => do
          let (c, width) ← escape? rest
          let (text, rest) ← readLines quote (rest.drop width)
          return (c :: text, rest)
      else if c == '\n' || isPlain c then do
        let (text, rest) ← readLines quote rest
        return (c :: text, rest)
      else none
termination_by text => text.length

def readLine? : List Char → Option (List Char × List Char)
  | '"' :: rest => readEscaped rest
  | '\'' :: rest => readLiteral rest
  | _ => none

def readText? (text : List Char) : Option (List Char × List Char) :=
  match text with
  | '"' :: '"' :: '"' :: '\n' :: rest => readLines '"' rest
  | '"' :: '"' :: '"' :: rest => readLines '"' rest
  | '\'' :: '\'' :: '\'' :: '\n' :: rest => readLines '\'' rest
  | '\'' :: '\'' :: '\'' :: rest => readLines '\'' rest
  | _ => readLine? text

structure Key where
  path : List String
  name : String
  deriving DecidableEq, Repr

def isKeyChar (c : Char) : Bool := c.isAlphanum || c == '_' || c == '-'

def readKeyPart? (text : List Char) : Option (String × List Char) :=
  let bare := text.takeWhile isKeyChar
  if bare.isEmpty then (readLine? text).map fun (part, rest) => (String.ofList part, rest)
  else some (String.ofList bare, text.drop bare.length)

def readKey? : (parts : Nat) → List Char → Option (Key × List Char)
  | 0, _ => none
  | parts + 1, text => do
    let (part, rest) ← readKeyPart? (skipSpace text)
    match skipSpace rest with
    | '.' :: rest => do
      let (key, rest) ← readKey? parts rest
      return ({ key with path := part :: key.path }, rest)
    | rest => return (⟨[], part⟩, rest)

end ModelCatalog.Toml
