import ModelCatalog.Toml.Scalar
import ModelCatalog.Toml.Table

/-!
Reading TOML documents. A document is a sequence of statements, one a line; what they define is
collected in one table.
-/

namespace ModelCatalog.Toml

def greatestDepth : Nat := 79

def skipGap? : (comment : Bool) → List Char → Option (List Char)
  | false, [] => some []
  | true, [] => none
  | true, c :: rest =>
    if c == '\n' then skipGap? false rest
    else if isPlain c then skipGap? true rest
    else none
  | false, c :: rest =>
    if isSpace c || c == '\n' then skipGap? false rest
    else if c == '#' then skipGap? true rest
    else some (c :: rest)

mutual

/-- A value and the rest, with at most `depth` arrays and inline tables in one another. Every call
spends one unit of `fuel`. -/
def readValue (depth : Nat) : (fuel : Nat) → List Char → Option (Json × List Char)
  | 0, _ => none
  | fuel + 1, text =>
    match text with
    | '"' :: _ => (readText? text).map fun (text, rest) => (.string (String.ofList text), rest)
    | '\'' :: _ => (readText? text).map fun (text, rest) => (.string (String.ofList text), rest)
    | '[' :: rest =>
      if depth = 0 then none
      else do
        let (items, rest) ← readItems (depth - 1) fuel rest
        return (.list items, rest)
    | '{' :: rest =>
      if depth = 0 then none
      else
        match skipSpace rest with
        | '}' :: rest => some (.object [], rest)
        | rest => do
          let (table, rest) ← readPairs (depth - 1) {} fuel rest
          return (.object table.values, rest)
    | _ => readScalar? text

def readItems (depth : Nat) : (fuel : Nat) → List Char → Option (List Json × List Char)
  | 0, _ => none
  | fuel + 1, text => do
    match ← skipGap? false text with
    | ']' :: rest => some ([], rest)
    | text => do
      let (item, rest) ← readValue depth fuel text
      match ← skipGap? false rest with
      | ',' :: rest => do
        let (items, rest) ← readItems depth fuel rest
        return (item :: items, rest)
      | ']' :: rest => some ([item], rest)
      | _ => none

def readPairs (depth : Nat) (table : Table) : (fuel : Nat) → List Char →
    Option (Table × List Char)
  | 0, _ => none
  | fuel + 1, text => do
    let (key, rest) ← readKey? greatestDepth text
    let rest ← Time.readChar? '=' rest
    let (value, rest) ← readValue depth fuel (skipSpace rest)
    let table ← table.define? key value
    match skipSpace rest with
    | ',' :: rest => readPairs depth table fuel rest
    | '}' :: rest => some (table, rest)
    | _ => none

end

inductive Statement where
  | blank
  | setting (key : Key) (value : Json)
  | header (key : Key)
  | repeatedHeader (key : Key)
  deriving Repr

def afterLine? (text : List Char) : Option (List Char) :=
  let text :=
    match skipSpace text with
    | '#' :: rest => rest.dropWhile isPlain
    | rest => rest
  match text with
  | [] => some []
  | '\n' :: rest => some rest
  | _ => none

def readStatement? (text : List Char) : Option (Statement × List Char) :=
  match skipSpace text with
  | [] => some (.blank, [])
  | '\n' :: rest => some (.blank, '\n' :: rest)
  | '#' :: rest => some (.blank, '#' :: rest)
  | '[' :: '[' :: rest => do
    let (key, rest) ← readKey? greatestDepth rest
    let rest ← Time.readChar? ']' rest
    let rest ← Time.readChar? ']' rest
    return (.repeatedHeader key, rest)
  | '[' :: rest => do
    let (key, rest) ← readKey? greatestDepth rest
    let rest ← Time.readChar? ']' rest
    return (.header key, rest)
  | text => do
    let (key, rest) ← readKey? greatestDepth text
    let rest ← Time.readChar? '=' rest
    let rest := skipSpace rest
    let (value, rest) ← readValue greatestDepth (2 * rest.length + 2) rest
    return (.setting key value, rest)

def readStatements? (text : List Char) : Option (List Statement) :=
  if text.isEmpty then some []
  else do
    let (statement, rest) ← readStatement? text
    let rest ← afterLine? rest
    if rest.length < text.length then
      let statements ← readStatements? rest
      return statement :: statements
    else none
termination_by text.length

structure Draft where
  root : Table := {}
  path : List String := []
  deriving Repr

def Draft.add? (draft : Draft) : Statement → Option Draft
  | .blank => some draft
  | .setting key value => do
    return { draft with root := ← draft.root.change? false (Table.define? key value) draft.path }
  | .header key => do
    return ⟨← draft.root.declare? key, key.path ++ [key.name]⟩
  | .repeatedHeader key => do
    return ⟨← draft.root.repeat? key, key.path ++ [key.name]⟩

def read (text : String) : Option (List (String × Json)) := do
  let text :=
    match text.toList with
    | '\uFEFF' :: rest => rest
    | text => text
  let statements ← readStatements? (← unixLines? text)
  return (← statements.foldlM Draft.add? {}).root.values

end ModelCatalog.Toml
