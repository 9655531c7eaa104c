import ModelCatalog.Query.Connector
import ModelCatalog.Text.Character

/-!
The pieces of a free text: terms, quoted phrases, connectors and parentheses.
-/

namespace ModelCatalog.TextMatch

inductive Piece where
  | term (text : List Char)
  /-- The text between two quotes, which holds no quote. -/
  | phrase (text : List Char)
  | connector (connector : Connector)
  | opening
  | closing
  deriving DecidableEq, Repr

inductive Pending where
  | word (buffer : List Char)
  | phrase (buffer : List Char)
  deriving DecidableEq, Repr

namespace Pending

def wordPiece (buffer : List Char) : List Piece :=
  if buffer.isEmpty then []
  else
    match Connector.ofWord? buffer.reverse with
    | some connector => [.connector connector]
    | none => [.term buffer.reverse]

def phrasePiece (buffer : List Char) : List Piece :=
  if buffer.isEmpty then [] else [.phrase buffer.reverse]

end Pending

def piecesFrom : Pending → List Char → List Piece
  | .word buffer, [] => Pending.wordPiece buffer
  | .phrase buffer, [] => Pending.phrasePiece buffer
  | .word buffer, c :: rest =>
    if c = '"' then Pending.wordPiece buffer ++ piecesFrom (.phrase []) rest
    else if c = '(' then Pending.wordPiece buffer ++ .opening :: piecesFrom (.word []) rest
    else if c = ')' then Pending.wordPiece buffer ++ .closing :: piecesFrom (.word []) rest
    else if Text.isBlank c then Pending.wordPiece buffer ++ piecesFrom (.word []) rest
    else piecesFrom (.word (c :: buffer)) rest
  | .phrase buffer, c :: rest =>
    if c = '"' then Pending.phrasePiece buffer ++ piecesFrom (.word []) rest
    else piecesFrom (.phrase (c :: buffer)) rest

def pieces (text : List Char) : List Piece := piecesFrom (.word []) text

end ModelCatalog.TextMatch
