import ModelCatalog.Decimal.Integer
import ModelCatalog.Time.Calendar

/-!
Instants and the text in which they are stored: RFC 3339, in UTC, with whole seconds.
-/

namespace ModelCatalog.Time

/-- A point in time: whole seconds since 1970-01-01T00:00:00Z, rounded down, and the
nanoseconds past them. -/
structure Instant where
  second : Int
  nanosecond : Nat
  deriving DecidableEq, Repr

def secondsPerDay : Int := 86400

namespace Instant

def earliest : Instant := ⟨-62167219200, 0⟩

/-- The instant `days` days before, but never before `earliest`. -/
def daysBefore (instant : Instant) (days : UInt32) : Instant :=
  let second := instant.second - secondsPerDay * days.toNat
  if second < earliest.second then earliest else ⟨second, instant.nanosecond⟩

def milliseconds (instant : Instant) : Int :=
  instant.second * 1000 + instant.nanosecond / 1000000

def date (instant : Instant) : Date := Date.ofDays (instant.second / secondsPerDay)

def secondOfDay (instant : Instant) : Nat := (instant.second % secondsPerDay).toNat

/-- Writes `YYYY-MM-DDThh:mm:ssZ` for the years 0 to 9999, and the bare count of seconds outside
them. -/
def stamp (instant : Instant) : List Char :=
  let date := instant.date
  let time := instant.secondOfDay
  if 0 ≤ date.year ∧ date.year ≤ 9999 then
    Decimal.padded 4 date.year.toNat ++ '-' :: Decimal.padded 2 date.month ++
      '-' :: Decimal.padded 2 date.day ++ 'T' :: Decimal.padded 2 (time / 3600) ++
      ':' :: Decimal.padded 2 (time / 60 % 60) ++ ':' :: Decimal.padded 2 (time % 60) ++ ['Z']
  else Decimal.signedDigits instant.second

def timestamp (instant : Instant) : String := String.ofList instant.stamp

end Instant

end ModelCatalog.Time
