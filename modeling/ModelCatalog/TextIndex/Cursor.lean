import ModelCatalog.TextMatch.Expression

/-!
Walks over the rows of an index that an expression matches. A phrase by itself, or phrases near one
another, have a cursor over the rows that hold their tokens, and the connectors move these cursors on
together, in order of the rows. A phrase counts in a row only where its cursor stands there, so that
what a phrase adds to the score of a row may depend on the rows before it.
-/

namespace ModelCatalog.TextIndex

structure Stop where
  id : Nat
  isMatch : Bool
  /-- How often each of the phrases counts there; none where its count before stays as it is. -/
  counts : List (Option Nat)
  deriving DecidableEq, Repr

namespace Stop

/-- Phrases are looked for one after the other, until one of them does not stand in the row. -/
def countsUntilMissing (row : IndexRow) : List Phrase → List (Option Nat)
  | [] => []
  | phrase :: rest =>
    some (phrase.count row) ::
      if phrase.isFoundIn row then countsUntilMissing row rest else rest.map fun _ => none

def ofPhrases (phrases : List Phrase) (row : IndexRow) : Stop :=
  match phrases with
  | [alone] => ⟨row.id, alone.isFoundIn row, [some (alone.count row)]⟩
  | _ =>
    if phrases.all fun phrase => phrase.isFoundIn row then
      ⟨row.id, Phrase.areNearIn phrases row, phrases.map (some ∘ Phrase.countNear phrases row)⟩
    else ⟨row.id, false, countsUntilMissing row phrases⟩

def hold (stop : Stop) (before : List Nat) : List Nat :=
  stop.counts.zipWith (fun count before => count.getD before) before

end Stop

def stops (rows : List IndexRow) (phrases : List Phrase) : List Stop :=
  let holding := rows.filter fun row => phrases.all fun phrase => phrase.isScatteredIn row
  (holding.map (Stop.ofPhrases phrases)).mergeSort fun a b => decide (a.id ≤ b.id)

inductive Cursor where
  /-- Phrases with the stops that are left, and how often each of them counts at the first one. -/
  | phrases (stops : List Stop) (held : List Nat)
  /-- Both sides stand at one row. One that mutes makes them silent where it does not match. -/
  | and (mutes : Bool) (left right : Cursor)
  /-- One that is outermost ends as a whole if both sides have no row to start with. -/
  | or (isOutermost : Bool) (left right : Cursor)
  | not (left right : Cursor)
  deriving Repr

namespace Cursor

def standing (stops : List Stop) (before : List Nat) : Cursor :=
  phrases stops ((stops.head?.map fun stop => stop.hold before).getD before)

def ofPhrases (rows : List IndexRow) (sought : List Phrase) : Cursor :=
  standing (stops rows sought) (sought.map fun _ => 0)

/-- The cursor of an expression below the connector `above`. An AND mutes if it is neither the whole
nor part of a longer AND. -/
def ofExpression (rows : List IndexRow) (above : Option Connector) :
    TextMatch.Expression → Cursor
  | .phrase sought => ofPhrases rows [sought]
  | .near sought => ofPhrases rows sought
  | .and left right =>
    .and (above.any fun connector => connector != .and) (ofExpression rows (some .and) left)
      (ofExpression rows (some .and) right)
  | .or left right =>
    .or (above != some .or) (ofExpression rows (some .or) left) (ofExpression rows (some .or) right)
  | .not left right =>
    .not (ofExpression rows (some .not) left) (ofExpression rows (some .not) right)

def row? : Cursor → Option Nat
  | phrases stops _ => stops.head?.map Stop.id
  | and _ left _ => left.row?
  | or _ left right =>
    match left.row?, right.row? with
    | some left, some right => some (min left right)
    | left, right => left.or right
  | not left _ => left.row?

def isMatch : Cursor → Bool
  | phrases stops _ => stops.head?.any Stop.isMatch
  | and _ left right => left.isMatch && right.isMatch
  | or isOutermost left right =>
    let row := (or isOutermost left right).row?
    (left.row? == row && left.isMatch) || (right.row? == row && right.isMatch)
  | not left _ => left.isMatch

def exhausted : Cursor → Cursor
  | phrases _ held => phrases [] held
  | and mutes left right => and mutes left.exhausted right.exhausted
  | or isOutermost left right => or isOutermost left.exhausted right.exhausted
  | not left right => not left.exhausted right.exhausted

def silenced : Cursor → Cursor
  | phrases stops held => phrases stops (held.map fun _ => 0)
  | and mutes left right => and mutes left.silenced right.silenced
  | or isOutermost left right => or isOutermost left.silenced right.silenced
  | not left right => not left.silenced right.silenced

mutual

/-- Moves on to the row `target` or, if it is not there, to the next one after it. Every call spends
one unit of `fuel`. -/
def seek : (fuel : Nat) → (target : Nat) → Cursor → Cursor
  | 0, _, cursor => cursor
  | fuel + 1, target, cursor =>
    if !cursor.row?.any fun row => row < target then cursor
    else
      match cursor with
      | phrases stops held => standing (stops.dropWhile fun stop => stop.id < target) held
      | and mutes left right => align fuel mutes (left.seek fuel target) right
      | or isOutermost left right => or isOutermost (left.seek fuel target) (right.seek fuel target)
      | not left right => pass fuel (left.seek fuel target) right

def align : (fuel : Nat) → (mutes : Bool) → (left right : Cursor) → Cursor
  | 0, mutes, left, right => and mutes left right
  | fuel + 1, mutes, left, right =>
    match left.row?, right.row? with
    | some l, some r =>
      if l < r then align fuel mutes (left.seek fuel r) right
      else if r < l then align fuel mutes left (right.seek fuel l)
      else if mutes && !(left.isMatch && right.isMatch) then (and mutes left right).silenced
      else and mutes left right
    | _, _ => (and mutes left right).exhausted

def pass : (fuel : Nat) → (left right : Cursor) → Cursor
  | 0, left, right => not left right
  | fuel + 1, left, right =>
    match left.row? with
    | none => not left right.silenced
    | some row =>
      let right := right.seek fuel row
      if right.row? == some row && right.isMatch then pass fuel (left.seek fuel (row + 1)) right
      else not left right

end

/-- Moves on to the first row. A NOT without a row on its left leaves its right side as it is. -/
def start (fuel : Nat) : Cursor → Cursor
  | phrases stops held => phrases stops held
  | and mutes left right => align fuel mutes (left.start fuel) (right.start fuel)
  | or isOutermost left right =>
    let started := or isOutermost (left.start fuel) (right.start fuel)
    if isOutermost && started.row?.isNone then started.exhausted else started
  | not left right =>
    let left := left.start fuel
    let right := right.start fuel
    if left.row?.isNone then not left right else pass fuel left right

def counts (row : Nat) : Cursor → List Nat
  | phrases stops held =>
    if stops.head?.any fun stop => stop.id == row then held else held.map fun _ => 0
  | and _ left right => left.counts row ++ right.counts row
  | or _ left right => left.counts row ++ right.counts row
  | not left right => left.counts row ++ right.counts row

end Cursor

structure Hit where
  id : Nat
  counts : List Nat
  deriving DecidableEq, Repr

def hitsFrom (fuel : Nat) : (left : Nat) → Cursor → List Hit
  | 0, _ => []
  | left + 1, cursor =>
    match cursor.row? with
    | none => []
    | some row =>
      let rest := hitsFrom fuel left (cursor.seek fuel (row + 1))
      if cursor.isMatch then ⟨row, cursor.counts row⟩ :: rest else rest

/-- The rows that an expression matches, in order. Each side of each connector passes every row at
most once. -/
def hits (rows : List IndexRow) (expression : TextMatch.Expression) : List Hit :=
  let fuel := (expression.size + 1) * (2 * rows.length + 4)
  hitsFrom fuel (rows.length + 1) ((Cursor.ofExpression rows none expression).start fuel)

end ModelCatalog.TextIndex
