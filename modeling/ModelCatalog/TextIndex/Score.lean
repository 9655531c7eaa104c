import ModelCatalog.TextIndex.Cursor

/-!
The BM25 score of a row: phrases count for more the rarer they are, the more often they stand in the
row, and the shorter the row is.
-/

namespace ModelCatalog.TextIndex

def saturation : Float := 1.2

def lengthWeight : Float := 0.75

/-- The weight of a phrase that stands in half of the rows or more. -/
def leastWeight : Float := 1e-6

def meanSize (rows : List IndexRow) : Float :=
  ((rows.map IndexRow.size).foldr (· + ·) 0).toFloat / rows.length.toFloat

def phraseWeight (rows : List IndexRow) (phrase : Phrase) : Float :=
  let hits := (rows.countP phrase.isFoundIn).toFloat
  let weight := Float.log ((rows.length.toFloat - hits + 0.5) / (hits + 0.5))
  if weight <= 0 then leastWeight else weight

def share (mean : Float) (row : IndexRow) (weight : Float) (count : Nat) : Float :=
  let count := count.toFloat
  let length := 1 - lengthWeight + lengthWeight * row.size.toFloat / mean
  weight * (count * (saturation + 1) / (count + saturation * length))

def score (mean : Float) (row : IndexRow) (weights : List Float) (counts : List Nat) : Float :=
  (weights.zip counts).foldl (fun total (weight, count) => total + share mean row weight count) 0

def scores (rows : List IndexRow) (expression : TextMatch.Expression) : List (Nat × Float) :=
  let mean := meanSize rows
  let weights := expression.phrases.map (phraseWeight rows)
  let hits := hits rows expression
  (rows.filter expression.isMatch).map fun row =>
    let counts := ((hits.find? fun hit => hit.id == row.id).map Hit.counts).getD []
    (row.id, score mean row weights counts)

end ModelCatalog.TextIndex
