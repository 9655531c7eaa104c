import ModelCatalog.TextIndex.Fold

/-!
A text index: for each row the texts of its columns, which are searched by their tokens. The index is
kept by its own operations, beside the table whose rows it describes.
-/

namespace ModelCatalog

namespace TextIndex

/-- The bytes in UTF-8 of a folded run of characters that do not separate. -/
abbrev Token := List UInt8

def greatestToken : Nat := 32768

def finishToken (buffer : List Char) : List Token :=
  if buffer.isEmpty then []
  else [(buffer.reverse.flatMap String.utf8EncodeChar).take greatestToken]

/-- Reads on; `inside` holds after the first character of a token, where a mark is dropped. -/
def tokensFrom (inside : Bool) (buffer : List Char) : List Char → List Token
  | [] => finishToken buffer
  | c :: rest =>
    if inside && isMark c then tokensFrom true buffer rest
    else if isSeparator c then finishToken buffer ++ tokensFrom false [] rest
    else tokensFrom true (foldChar c :: buffer) rest

def tokens (text : List Char) : List Token := tokensFrom false [] text

end TextIndex

structure IndexEntry where
  id : Nat
  texts : List (Option String)
  deriving DecidableEq, Repr

abbrev TextIndex := List IndexEntry

namespace TextIndex

def insert (index : TextIndex) (entry : IndexEntry) : TextIndex := index ++ [entry]

def erase (index : TextIndex) (id : Nat) : TextIndex := index.filter fun entry => entry.id != id

def replace (index : TextIndex) (entry : IndexEntry) : TextIndex :=
  (index.erase entry.id).insert entry

end TextIndex

structure IndexRow where
  id : Nat
  columns : List (List TextIndex.Token)
  deriving Repr

namespace IndexRow

def ofEntry (entry : IndexEntry) : IndexRow :=
  ⟨entry.id, entry.texts.map fun text => TextIndex.tokens (text.getD "").toList⟩

def size (row : IndexRow) : Nat := (row.columns.map List.length).foldr (· + ·) 0

end IndexRow

def TextIndex.rows (index : TextIndex) : List IndexRow := index.map IndexRow.ofEntry

end ModelCatalog
