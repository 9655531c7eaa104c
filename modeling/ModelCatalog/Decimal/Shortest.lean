import ModelCatalog.Decimal.Binary
import ModelCatalog.Decimal.Integer

/-!
The fewest digits that read back as a number: of the decimal grids with 1, 2, … 17 digits, the first
one with a point that rounds to the number, and of two such points the nearer. A tie between the two
goes as the format says.
-/

namespace ModelCatalog.Decimal

structure Scientific where
  coefficient : Nat
  exponent : Int
  deriving DecidableEq, Repr

/-- How many digits stand before the point; none or fewer for a number below one. -/
def leadingPlace (r : Ratio) : Int :=
  if r.ltNat 1 then
    let zeros := (List.range 400).find? fun k : Nat => !(r.scaled ((k : Int) + 1)).ltNat 1
    Int.negOfNat (zeros.getD 400)
  else (digits r.floor).length

def Binary.rounds (b : Binary) (scale : Int) (n : Nat) : Bool :=
  let lower := b.lower.scaled scale
  let upper := b.upper.scaled scale
  if b.takesTies then !Ratio.ltNat upper n && !Ratio.natLt n lower
  else Ratio.natLt n upper && Ratio.ltNat lower n

/-- The point of the grid with `count` digits that rounds to the number, if there is one. -/
def Binary.onGrid? (tie : Tie) (b : Binary) (count : Nat) : Option Scientific :=
  let scale : Int := count - leadingPlace b.size
  let below := (b.size.scaled scale).floor
  let hits := [below, below + 1].filter (b.rounds scale)
  match hits with
  | [] => none
  | [n] => some ⟨n, -scale⟩
  | _ => some ⟨(b.size.scaled scale).round tie, -scale⟩

def Scientific.withoutZeros (s : Scientific) : Scientific :=
  let zeros := ((digits s.coefficient).reverse.takeWhile (· == '0')).length
  ⟨s.coefficient / Nat.pow 10 zeros, s.exponent + zeros⟩

def Binary.shortest (tie : Tie) (b : Binary) : Scientific :=
  let found := (List.range 17).findSome? fun k => b.onGrid? tie (k + 1)
  (found.getD ⟨b.size.floor, 0⟩).withoutZeros

def Scientific.positional (s : Scientific) : List Char :=
  let text := digits s.coefficient
  if 0 ≤ s.exponent then text ++ List.replicate s.exponent.toNat '0'
  else
    let places := (-s.exponent).toNat
    if places < text.length then
      text.take (text.length - places) ++ '.' :: text.drop (text.length - places)
    else '0' :: '.' :: List.replicate (places - text.length) '0' ++ text

end ModelCatalog.Decimal
