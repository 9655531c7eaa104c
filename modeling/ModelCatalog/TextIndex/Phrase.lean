import ModelCatalog.TextIndex.Basic

/-!
Phrases: tokens that are searched for in a row. A phrase is found where its tokens follow one
another in one column, the last one being a prefix if the phrase is. Phrases are near one another
where few tokens of a column stand between them.
-/

namespace ModelCatalog.TextIndex

structure Phrase where
  tokens : List Token
  isPrefix : Bool
  deriving DecidableEq, Repr

namespace Phrase

def ofText (text : List Char) (isPrefix : Bool) : Phrase := ⟨TextIndex.tokens text, isPrefix⟩

def isBlank (phrase : Phrase) : Bool := phrase.tokens.isEmpty

def startsAt (isPrefix : Bool) : (phrase column : List Token) → Bool
  | [], _ => true
  | _ :: _, [] => false
  | [token], found :: _ => if isPrefix then token.isPrefixOf found else token == found
  | token :: phrase, found :: column => token == found && startsAt isPrefix phrase column

def placesFrom (phrase : Phrase) (place : Nat) : List Token → List Nat
  | [] => []
  | token :: rest =>
    (if startsAt phrase.isPrefix phrase.tokens (token :: rest) then [place] else []) ++
      phrase.placesFrom (place + 1) rest

def places (phrase : Phrase) (column : List Token) : List Nat := phrase.placesFrom 0 column

def count (phrase : Phrase) (row : IndexRow) : Nat :=
  if phrase.isBlank then 0
  else (row.columns.map fun column => (phrase.places column).length).foldr (· + ·) 0

def isFoundIn (phrase : Phrase) (row : IndexRow) : Bool := 0 < phrase.count row

/-- The phrases of one token each, of which the last one is a prefix if the whole is. -/
def single (isPrefix : Bool) : List Token → List Phrase
  | [] => []
  | [token] => [⟨[token], isPrefix⟩]
  | token :: rest => ⟨[token], false⟩ :: single isPrefix rest

def isScatteredIn (phrase : Phrase) (row : IndexRow) : Bool :=
  !phrase.isBlank && (single phrase.isPrefix phrase.tokens).all fun token => token.isFoundIn row

def nearDistance : Nat := 10

/-- A phrase at `place` is near one at `last`, the last one of those that it is near. -/
def reaches (phrase : Phrase) (place last : Nat) : Bool :=
  decide (place ≤ last) && decide (last ≤ place + phrase.tokens.length + nearDistance)

/-- Where in a column the last one stands of phrases that are all near one another. -/
def gatherings (phrases : List Phrase) (column : List Token) : List Nat :=
  (phrases.flatMap fun phrase => phrase.places column).filter fun last =>
    phrases.all fun phrase => (phrase.places column).any fun place => phrase.reaches place last

def areNearIn (phrases : List Phrase) (row : IndexRow) : Bool :=
  row.columns.any fun column => !(gatherings phrases column).isEmpty

def countNear (phrases : List Phrase) (row : IndexRow) (phrase : Phrase) : Nat :=
  (row.columns.map fun column =>
    (phrase.places column).countP fun place =>
      (gatherings phrases column).any (phrase.reaches place)).foldr (· + ·) 0

end Phrase

end ModelCatalog.TextIndex
