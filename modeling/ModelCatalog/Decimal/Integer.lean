/-!
Whole numbers written in decimal: reading with an optional sign, within a range, and writing.
-/

namespace ModelCatalog.Decimal

def ofDigits (digits : List Char) : Nat :=
  digits.foldl (fun n c => 10 * n + (c.toNat - '0'.toNat)) 0

def readDigits? (text : List Char) : Option Nat :=
  if text.isEmpty || !text.all Char.isDigit then none else some (ofDigits text)

def readUnsigned? : List Char → Option Nat
  | '+' :: rest => readDigits? rest
  | text => readDigits? text

def readSigned? : List Char → Option Int
  | '+' :: rest => (readDigits? rest).map Int.ofNat
  | '-' :: rest => (readDigits? rest).map fun n => -(n : Int)
  | text => (readDigits? text).map Int.ofNat

def readUInt32? (text : List Char) : Option UInt32 := do
  let n ← readUnsigned? text
  if n < UInt32.size then some (UInt32.ofNat n) else none

def readUInt64? (text : List Char) : Option UInt64 := do
  let n ← readUnsigned? text
  if n < UInt64.size then some (UInt64.ofNat n) else none

def int64? (n : Int) : Option Int64 :=
  if Int64.minValue.toInt ≤ n ∧ n ≤ Int64.maxValue.toInt then some (Int64.ofInt n) else none

def readInt64? (text : List Char) : Option Int64 := do
  int64? (← readSigned? text)

def digits (n : Nat) : List Char := Nat.toDigits 10 n

def signedDigits (n : Int) : List Char :=
  if n < 0 then '-' :: digits n.natAbs else digits n.natAbs

def padded (width n : Nat) : List Char :=
  List.replicate (width - (digits n).length) '0' ++ digits n

end ModelCatalog.Decimal

namespace ModelCatalog

def naturalText (n : Nat) : String := String.ofList (Decimal.digits n)

def integerText (n : Int) : String := String.ofList (Decimal.signedDigits n)

end ModelCatalog
