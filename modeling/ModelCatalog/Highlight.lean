import ModelCatalog.Query.Connector
import ModelCatalog.Text.Alphanumeric
import ModelCatalog.Text.Character
import ModelCatalog.Text.Lowercase

/-!
Highlighting: the words of a free text are marked where they stand in a field. A word with a star
after it is a prefix, and marks the whole word that begins with it.
-/

namespace ModelCatalog

structure HighlightTerm where
  chars : List Char
  /-- The term may end inside a word. -/
  isPrefix : Bool
  deriving DecidableEq, Repr

def beginsWord : List Char → Bool
  | [] => false
  | c :: _ => Text.isWordChar c

def sameLetter (a b : Char) : Bool := a == b || Text.lowerChar a == Text.lowerChar b

namespace HighlightTerm

/-- A pending word ends; its characters are held last first. No word and a connector are no term. -/
def ofWord (buffer : List Char) (isPrefix : Bool) : List HighlightTerm :=
  let chars := Text.lower buffer.reverse
  if buffer.isEmpty || isConnector chars then [] else [⟨chars, isPrefix⟩]

def ofToken (buffer : List Char) : List Char → List HighlightTerm
  | [] => ofWord buffer false
  | c :: rest =>
    if Text.isWordChar c then ofToken (c :: buffer) rest
    else ofWord buffer (c == '*' && !beginsWord rest) ++ ofToken [] rest

/-- Longer terms come first, and a plain term before the same prefix. -/
def precedes (a b : HighlightTerm) : Bool :=
  if a.chars.length ≠ b.chars.length then decide (b.chars.length < a.chars.length)
  else if a.isPrefix ≠ b.isPrefix then b.isPrefix
  else decide (String.ofList a.chars ≤ String.ofList b.chars)

def matchLength? (term : HighlightTerm) (text : List Char) : Option Nat :=
  let count := term.chars.length
  let front := text.take count
  let rest := text.drop count
  if front.length = count ∧ (front.zip term.chars).all (fun (a, b) => sameLetter a b) then
    if term.isPrefix then some (count + (rest.takeWhile Text.isWordChar).length)
    else if beginsWord rest then none
    else some count
  else none

end HighlightTerm

def highlightTerms (freeText : List Char) : List HighlightTerm :=
  let tokens := (Text.words freeText).filter fun token => !isConnector token
  (tokens.flatMap (HighlightTerm.ofToken [])).eraseDups.mergeSort HighlightTerm.precedes

structure Highlighter where
  terms : List HighlightTerm
  opening : List Char
  closing : List Char
  deriving Repr

namespace Highlighter

def ofText (freeText opening closing : String) : Highlighter :=
  ⟨highlightTerms freeText.toList, opening.toList, closing.toList⟩

def isEmpty (highlighter : Highlighter) : Bool := highlighter.terms.isEmpty

def matchLength? (highlighter : Highlighter) (text : List Char) : Option Nat :=
  highlighter.terms.findSome? fun term => term.matchLength? text

/-- Marks the rest of a text; `inWord` holds after a word character, where no term may begin. -/
def markFrom (highlighter : Highlighter) (inWord : Bool) : List Char → List Char
  | [] => []
  | c :: rest =>
    match if inWord then none else highlighter.matchLength? (c :: rest) with
    | none => c :: highlighter.markFrom (Text.isWordChar c) rest
    | some count =>
      let marked := c :: rest.take (count - 1)
      highlighter.opening ++ marked ++ highlighter.closing ++
        highlighter.markFrom (marked.getLast?.any Text.isWordChar) (rest.drop (count - 1))
  termination_by text => text.length
  decreasing_by
    · simp
    · simp only [List.length_drop, List.length_cons]
      omega

def mark (highlighter : Highlighter) (text : String) : String :=
  String.ofList (highlighter.markFrom false text.toList)

end Highlighter

end ModelCatalog
