import ModelCatalog.Text.Character

/-!
Patterns of texts: `%` stands for any run of characters, `_` for any one, and a backslash quotes the
next character. The case of ASCII letters does not matter. Pattern and text end before their first
NUL character, and the two noncharacters U+FFFE and U+FFFF stand for U+FFFD.
-/

namespace ModelCatalog.Text

inductive PatternItem where
  | anyRun
  | anyOne
  | char (c : Char)
  /-- A backslash at the end, which fits nothing. -/
  | nothing
  deriving DecidableEq, Repr

def patternItems : List Char → List PatternItem
  | [] => []
  | ['\\'] => [.nothing]
  | '\\' :: c :: rest => .char c :: patternItems rest
  | '%' :: rest => .anyRun :: patternItems rest
  | '_' :: rest => .anyOne :: patternItems rest
  | c :: rest => .char c :: patternItems rest

def suffixes : List Char → List (List Char)
  | [] => [[]]
  | c :: rest => (c :: rest) :: suffixes rest

def fitsItems : List PatternItem → List Char → Bool
  | [], text => text.isEmpty
  | .anyRun :: items, text => (suffixes text).any (fitsItems items)
  | .anyOne :: items, text =>
    match text with
    | [] => false
    | _ :: rest => fitsItems items rest
  | .char c :: items, text =>
    match text with
    | [] => false
    | d :: rest => c.toLower == d.toLower && fitsItems items rest
  | .nothing :: _, _ => false

/-- The replacement character U+FFFD for the two noncharacters at the end of its block. -/
def replaceNoncharacter (c : Char) : Char :=
  if c.toNat = 0xFFFE ∨ c.toNat = 0xFFFF then '\uFFFD' else c

def comparedPart (text : List Char) : List Char := (untilNul text).map replaceNoncharacter

def fitsPattern (pattern text : List Char) : Bool :=
  fitsItems (patternItems (comparedPart pattern)) (comparedPart text)

end ModelCatalog.Text
