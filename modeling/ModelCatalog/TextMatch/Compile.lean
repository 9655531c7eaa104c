import ModelCatalog.Text.Alphanumeric
import ModelCatalog.TextMatch.Piece

/-!
The match expressions sent to a text index. `compile` keeps the user's connectors, or joins all
pieces by AND when there is none; `fallback` is a chain of quoted words that every index accepts.
-/

namespace ModelCatalog.TextMatch

def quoted (text : List Char) : List Char := '"' :: text ++ ['"']

def doubleQuotes (text : List Char) : List Char :=
  text.flatMap fun c => if c = '"' then ['"', '"'] else [c]

def isBareChar (c : Char) : Bool := Text.isWordChar c || !decide (c.toNat < 128)

def withoutStar (term : List Char) : List Char :=
  match term.reverse with
  | '*' :: body => body.reverse
  | _ => term

def isBareword (term : List Char) : Bool :=
  let body := withoutStar term
  !body.isEmpty && body.all isBareChar

def renderTerm (term : List Char) : List Char :=
  if isBareword term then term else quoted (doubleQuotes term)

namespace Piece

def render : Piece → List Char
  | term text => renderTerm text
  | phrase text => quoted text
  | connector word => word.text
  | opening => ['(']
  | closing => [')']

def isConnector : Piece → Bool
  | connector _ => true
  | _ => false

end Piece

/-- An AND stands between two pieces unless the first opens or the second closes a group. -/
def isJoint (before after : Piece) : Bool := before != .opening && after != .closing

def lexemesAfter (joined : Bool) (before : Piece) : List Piece → List (List Char)
  | [] => []
  | piece :: rest =>
    (if joined && isJoint before piece then [Connector.and.text] else []) ++
      piece.render :: lexemesAfter joined piece rest

def lexemes : List Piece → List (List Char)
  | [] => []
  | piece :: rest =>
    piece.render :: lexemesAfter (!(piece :: rest).any Piece.isConnector) piece rest

def compile (freeText : String) : String :=
  String.ofList ([' '].intercalate (lexemes (pieces freeText.toList)))

def plainWords (text : List Char) : List (List Char) :=
  (text.splitOnP fun c => !Text.isWordChar c).filter fun word => !word.isEmpty

/-- The words of a free text that are not connectors, each in quotes, joined by AND. -/
def fallback (freeText : String) : String :=
  String.ofList (" AND ".toList.intercalate
    (((plainWords freeText.toList).filter fun word => !isConnector word).map quoted))

end ModelCatalog.TextMatch
