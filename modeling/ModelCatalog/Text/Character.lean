import ModelCatalog.Text.Ranges

/-!
Characters and texts of them: letter case within ASCII, the only case that keywords, connectors and
column comparisons fold; hexadecimal digits; the character NUL; and blanks (the property White_Space),
with trimming and splitting at them.
-/

namespace ModelCatalog.Text

def asciiLower (text : List Char) : List Char := text.map Char.toLower

def sameAscii (a b : List Char) : Bool := asciiLower a == asciiLower b

def afterHead? : (head text : List Char) → Option (List Char)
  | [], text => some text
  | _ :: _, [] => none
  | h :: head, c :: text => if h.toLower = c.toLower then afterHead? head text else none

/-- The text up to the character NUL, where it ends for what does not know its length. -/
def untilNul (text : List Char) : List Char := text.takeWhile fun c => c.toNat != 0

def hexValue? (c : Char) : Option Nat :=
  if c.isDigit then some (c.toNat - '0'.toNat)
  else if 'a' ≤ c ∧ c ≤ 'f' then some (c.toNat - 'a'.toNat + 10)
  else if 'A' ≤ c ∧ c ≤ 'F' then some (c.toNat - 'A'.toNat + 10)
  else none

def blankRanges : Ranges :=
  [(9, 13), (32, 32), (133, 133), (160, 160), (5760, 5760), (8192, 8202), (8232, 8233),
   (8239, 8239), (8287, 8287), (12288, 12288)]

def isBlank (c : Char) : Bool := blankRanges.contains c.toNat

def trimStart (text : List Char) : List Char := text.dropWhile isBlank

def trimEnd (text : List Char) : List Char := (text.reverse.dropWhile isBlank).reverse

def trim (text : List Char) : List Char := trimEnd (trimStart text)

def words (text : List Char) : List (List Char) :=
  (text.splitOnP isBlank).filter fun piece => !piece.isEmpty

end ModelCatalog.Text

namespace ModelCatalog

def trimmed (text : String) : String := String.ofList (Text.trim text.toList)

end ModelCatalog
