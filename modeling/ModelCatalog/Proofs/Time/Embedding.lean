import ModelCatalog.Proofs.Text.Bytes
import ModelCatalog.Proofs.Time.Written

/-!
Stamps as an order. The stamp of an instant is that of its second in UTC, in whatever zone a clock shows
it, and the bytes of stamps have the order of these seconds.
-/

namespace ModelCatalog.Time

structure ZonedTime where
  date : Date
  secondOfDay : Nat
  nanosecond : Nat
  offset : Int
  date_valid : date.Valid
  secondOfDay_lt : secondOfDay < 86400
  nanosecond_lt : nanosecond < 1000000000

namespace ZonedTime

def instant (time : ZonedTime) : Instant :=
  ⟨time.date.toDays * secondsPerDay + time.secondOfDay - time.offset, time.nanosecond⟩

end ZonedTime

namespace Instant

variable {instant other : Instant}

theorem timestamp_eq_iff (dated : instant.IsDated) (otherDated : other.IsDated) :
    instant.timestamp = other.timestamp ↔ instant.second = other.second := by
  constructor
  · intro same
    have read := readBound?_timestamp dated
    rw [same, readBound?_timestamp otherDated] at read
    exact (congrArg Instant.second (Option.some.inj read)).symm
  · intro same
    rw [timestamp, timestamp, stamp_congr same]

end Instant

/-- In the years 0 to 9999 the bytes of stamps are in the order of the seconds for which they stand,
whatever is shown below a second and in whatever zones; and a stamp is accepted as a bound, and read as
its second. -/
theorem stamps_embed (time other : ZonedTime) (dated : time.instant.IsDated)
    (otherDated : other.instant.IsDated) :
    (Text.bytes time.instant.timestamp < Text.bytes other.instant.timestamp ↔
      time.instant.second < other.instant.second) ∧
    (time.instant.timestamp = other.instant.timestamp ↔
      time.instant.second = other.instant.second) ∧
    readBound? time.instant.timestamp = some ⟨time.instant.second, 0⟩ ∧
    isTimestamp time.instant.timestamp = true := by
  have read := Instant.readBound?_timestamp dated
  refine ⟨?_, Instant.timestamp_eq_iff dated otherDated, read, ?_⟩
  · rw [← Text.lt_iff_bytes_lt]
    exact Instant.timestamp_lt_iff dated otherDated
  · rw [isTimestamp, read]
    rfl

/-- The first second of the year zero, while a clock to the west shows the year before it, and a leap
day, while a clock to the east shows March. -/
theorem stamps_embed_leap_day :
    let first : ZonedTime := ⟨⟨-1, 12, 31⟩, 82800, 999999999, -3600, by decide, by decide, by decide⟩
    let leap : ZonedTime := ⟨⟨2000, 3, 1⟩, 1800, 250000000, 7200, by decide, by decide, by decide⟩
    first.instant.IsDated ∧ leap.instant.IsDated ∧
      first.instant.timestamp = "0000-01-01T00:00:00Z" ∧
      leap.instant.timestamp = "2000-02-29T22:30:00Z" ∧
      (Text.bytes first.instant.timestamp < Text.bytes leap.instant.timestamp ↔
        first.instant.second < leap.instant.second) ∧
      readBound? first.instant.timestamp = some ⟨-62167219200, 0⟩ := by
  intro first leap
  have dated : first.instant.IsDated := by decide
  have otherDated : leap.instant.IsDated := by decide
  have second : first.instant.second = -62167219200 := by decide
  obtain ⟨order, _, read, _⟩ := stamps_embed first leap dated otherDated
  rw [second] at read
  exact ⟨dated, otherDated, by decide, by decide, order, read⟩

end ModelCatalog.Time
