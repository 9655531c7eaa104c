import ModelCatalog.Query.Connector
import ModelCatalog.Query.Predicate
import ModelCatalog.Text.Character

/-!
Parsing a query. Its tokens are the pieces between blanks, where blanks between two double quotes do not
count; a quote that is never closed is plain text, so the blanks after it count again. The predicates
state filters, and the other tokens make the free text, where a connector stays only between two plain
words.
-/

namespace ModelCatalog

namespace Query

def finish (buffer : List Char) : List (List Char) :=
  if buffer.isEmpty then [] else [buffer.reverse]

/-- Reads on with a token pending; `quoted` holds between an odd quote and the next one. -/
def tokensFrom (quoted : Bool) (buffer : List Char) : List Char → List (List Char)
  | [] => if quoted then Text.words buffer.reverse else finish buffer
  | c :: rest =>
    if c = '"' then tokensFrom (!quoted) (c :: buffer) rest
    else if Text.isBlank c && !quoted then finish buffer ++ tokensFrom false [] rest
    else tokensFrom quoted (c :: buffer) rest

def tokens (query : List Char) : List (List Char) := tokensFrom false [] query

def tokenize (query : String) : List String := (tokens query.toList).map String.ofList

end Query

structure ParsedQuery where
  freeText : String
  filters : FilterSet
  deriving DecidableEq, Repr

namespace Query

inductive Role where
  | predicate (predicate : Predicate)
  | connector
  | plain
  deriving DecidableEq, Repr

def role (token : List Char) : Role :=
  match Predicate.ofToken? token with
  | some predicate => .predicate predicate
  | none => if isConnector token then .connector else .plain

def beginsPlain : List (List Char) → Bool
  | [] => false
  | token :: _ => role token == .plain

/-- The tokens of the free text; `afterPlain` holds when the token before is a plain word. -/
def textTokens (afterPlain : Bool) : List (List Char) → List (List Char)
  | [] => []
  | token :: rest =>
    match role token with
    | .predicate _ => textTokens false rest
    | .connector =>
      if afterPlain && beginsPlain rest then token :: textTokens false rest
      else textTokens false rest
    | .plain => token :: textTokens true rest

def predicates (tokens : List (List Char)) : List Predicate := tokens.filterMap Predicate.ofToken?

def parse (query : String) : ParsedQuery :=
  let tokens := tokens query.toList
  { freeText := String.ofList ([' '].intercalate (textTokens false tokens))
    filters := (predicates tokens).foldl Predicate.addTo {} }

end Query

end ModelCatalog
