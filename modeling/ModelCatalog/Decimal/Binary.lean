/-!
The exact value of a binary64 number, for writing it in decimal.
-/

namespace ModelCatalog.Decimal

structure Ratio where
  numerator : Nat
  denominator : Nat
  deriving Repr

inductive Tie where
  | toEven
  | up
  deriving DecidableEq, Repr

namespace Ratio

def ofBinary (m : Nat) (e : Int) : Ratio :=
  if 0 ≤ e then ⟨m <<< e.toNat, 1⟩ else ⟨m, 1 <<< (-e).toNat⟩

def scaled (r : Ratio) (e : Int) : Ratio :=
  if 0 ≤ e then ⟨r.numerator * Nat.pow 10 e.toNat, r.denominator⟩
  else ⟨r.numerator, r.denominator * Nat.pow 10 (-e).toNat⟩

def floor (r : Ratio) : Nat := r.numerator / r.denominator

def round (tie : Tie) (r : Ratio) : Nat :=
  let below := r.floor
  let rest := 2 * (r.numerator % r.denominator)
  if rest < r.denominator then below
  else if r.denominator < rest then below + 1
  else
    match tie with
    | .toEven => if below % 2 = 0 then below else below + 1
    | .up => below + 1

def ltNat (r : Ratio) (n : Nat) : Bool := decide (r.numerator < n * r.denominator)

def natLt (n : Nat) (r : Ratio) : Bool := decide (n * r.denominator < r.numerator)

end Ratio

/-- The value of a finite number other than zero: `significand · 2 ^ exponent`, and its sign. -/
structure Binary where
  negative : Bool
  significand : Nat
  exponent : Int
  /-- The significand is the least of a binade other than the lowest, so the next number below is
  at half the distance of the next one above. -/
  lowest : Bool
  deriving Repr

inductive Shape where
  | nan
  | infinite (negative : Bool)
  | zero (negative : Bool)
  | finite (value : Binary)
  deriving Repr

def shapeOfBits (bits : Nat) : Shape :=
  let unit := 1 <<< 52
  let negative := (bits >>> 63) % 2 == 1
  let exponent : Nat := (bits >>> 52) % 2048
  let fraction := bits % unit
  if exponent = 2047 then if fraction = 0 then .infinite negative else .nan
  else if exponent = 0 then
    if fraction = 0 then .zero negative else .finite ⟨negative, fraction, -1074, false⟩
  else .finite ⟨negative, unit + fraction, (exponent : Int) - 1075, fraction == 0 && exponent != 1⟩

def shape (x : Float) : Shape := shapeOfBits x.toBits.toNat

namespace Binary

def size (b : Binary) : Ratio := .ofBinary b.significand b.exponent

def lower (b : Binary) : Ratio :=
  if b.lowest then .ofBinary (4 * b.significand - 1) (b.exponent - 2)
  else .ofBinary (2 * b.significand - 1) (b.exponent - 1)

def upper (b : Binary) : Ratio := .ofBinary (2 * b.significand + 1) (b.exponent - 1)

def takesTies (b : Binary) : Bool := b.significand % 2 == 0

end Binary

end ModelCatalog.Decimal
