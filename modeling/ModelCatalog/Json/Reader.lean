import ModelCatalog.Json.Number

/-!
Reading JSON text. `read` accepts one value and nothing after it. `readMembers` reads an object of
which only some members matter: the others have to be well formed, but their texts may hold unpaired
surrogates and their numbers may be too large.
-/

namespace ModelCatalog.Json

def isSpace (c : Char) : Bool := c == ' ' || c == '\t' || c == '\n' || c == '\r'

def skipSpace (text : List Char) : List Char := text.dropWhile isSpace

def unit? (a b c d : Char) : Option Nat := do
  return (((← Text.hexValue? a) * 16 + (← Text.hexValue? b)) * 16 + (← Text.hexValue? c)) * 16
    + (← Text.hexValue? d)

def escape? (c : Char) : Option Nat :=
  if c = '"' then some 34
  else if c = '\\' then some 92
  else if c = '/' then some 47
  else if c = 'b' then some 8
  else if c = 'f' then some 12
  else if c = 'n' then some 10
  else if c = 'r' then some 13
  else if c = 't' then some 9
  else none

def readUnits : List Char → Option (List Nat × List Char)
  | [] => none
  | '"' :: rest => some ([], rest)
  | '\\' :: 'u' :: a :: b :: c :: d :: rest => do
    let unit ← unit? a b c d
    let (units, rest) ← readUnits rest
    return (unit :: units, rest)
  | '\\' :: c :: rest => do
    let unit ← escape? c
    let (units, rest) ← readUnits rest
    return (unit :: units, rest)
  | c :: rest => do
    if c.toNat < 32 || c == '\\' then none
    else
      let (units, rest) ← readUnits rest
      return (c.toNat :: units, rest)

def isHighSurrogate (n : Nat) : Bool := decide (0xD800 ≤ n ∧ n < 0xDC00)

def isLowSurrogate (n : Nat) : Bool := decide (0xDC00 ≤ n ∧ n < 0xE000)

/-- Joins pairs of surrogates. A surrogate without its partner is no character; where it does not
matter, the replacement character stands for it. -/
def joinUnits (strict : Bool) : List Nat → Option (List Char)
  | [] => some []
  | [n] =>
    if isHighSurrogate n || isLowSurrogate n then
      if strict then none else some [Char.ofNat 0xFFFD]
    else some [Char.ofNat n]
  | n :: m :: rest =>
    if isHighSurrogate n && isLowSurrogate m then do
      let chars ← joinUnits strict rest
      return Char.ofNat (0x10000 + (n - 0xD800) * 0x400 + (m - 0xDC00)) :: chars
    else if isHighSurrogate n || isLowSurrogate n then
      if strict then none
      else (joinUnits strict (m :: rest)).map (Char.ofNat 0xFFFD :: ·)
    else (joinUnits strict (m :: rest)).map (Char.ofNat n :: ·)

def readText (strict : Bool) (text : List Char) : Option (String × List Char) := do
  let (units, rest) ← readUnits text
  let chars ← joinUnits strict units
  return (String.ofList chars, rest)

def afterWord? (word text : List Char) : Option (List Char) :=
  if word.isPrefixOf text then some (text.drop word.length) else none

mutual

/-- A value and the rest. Every call spends one unit of `fuel`. -/
def readValue (strict : Bool) : (fuel : Nat) → List Char → Option (Json × List Char)
  | 0, _ => none
  | fuel + 1, text =>
    match skipSpace text with
    | '"' :: rest => do
      let (value, rest) ← readText strict rest
      return (string value, rest)
    | '[' :: rest =>
      match skipSpace rest with
      | ']' :: rest => some (list [], rest)
      | rest => do
        let (items, rest) ← readItems strict fuel rest
        return (list items, rest)
    | '{' :: rest =>
      match skipSpace rest with
      | '}' :: rest => some (object [], rest)
      | rest => do
        let (members, rest) ← readMembersFrom (fun _ => strict) strict fuel rest
        return (object members, rest)
    | 'n' :: rest => (afterWord? "ull".toList rest).map fun rest => (null, rest)
    | 't' :: rest => (afterWord? "rue".toList rest).map fun rest => (bool true, rest)
    | 'f' :: rest => (afterWord? "alse".toList rest).map fun rest => (bool false, rest)
    | text => readNumber strict text

def readItems (strict : Bool) : (fuel : Nat) → List Char → Option (List Json × List Char)
  | 0, _ => none
  | fuel + 1, text => do
    let (item, rest) ← readValue strict fuel text
    match skipSpace rest with
    | ',' :: rest => do
      let (items, rest) ← readItems strict fuel rest
      return (item :: items, rest)
    | ']' :: rest => some ([item], rest)
    | _ => none

/-- One member or more up to the closing brace, and the rest. `matters` tells by its key whether the
value of a member is read strictly. -/
def readMembersFrom (matters : String → Bool) (strict : Bool) :
    (fuel : Nat) → List Char → Option (List (String × Json) × List Char)
  | 0, _ => none
  | fuel + 1, text =>
    match skipSpace text with
    | '"' :: rest => do
      let (key, rest) ← readText strict rest
      match skipSpace rest with
      | ':' :: rest => do
        let (value, rest) ← readValue (matters key) fuel rest
        match skipSpace rest with
        | ',' :: rest => do
          let (members, rest) ← readMembersFrom matters strict fuel rest
          return ((key, value) :: members, rest)
        | '}' :: rest => some ([(key, value)], rest)
        | _ => none
      | _ => none
    | _ => none

end

def fuelFor (text : List Char) : Nat := 2 * text.length + 2

def complete? {α : Type} : α × List Char → Option α
  | (value, rest) => if (skipSpace rest).isEmpty then some value else none

def read (text : String) : Option Json := do
  complete? (← readValue true (fuelFor text.toList) text.toList)

/-- The members of an object; those that do not matter may hold what no value can. -/
def readMembers (matters : String → Bool) (text : List Char) : Option (List (String × Json)) :=
  match skipSpace text with
  | '{' :: rest =>
    match skipSpace rest with
    | '}' :: rest => complete? ([], rest)
    | rest => do complete? (← readMembersFrom matters true (fuelFor rest) rest)
  | _ => none

end ModelCatalog.Json
