import ObjectStore.Text.Decimal
import ObjectStore.Time.Calendar

/-!
# Instants

An instant is a number of whole seconds since the start of 1970 in UTC, which
may be negative, and a number of nanoseconds. A leap second has no number of its
own: it is the second before it with 1000000000 nanoseconds or more.
-/

namespace ObjectStore.Time

open ObjectStore.Text (Decimal.padded)

/-- A point in time in UTC. -/
structure Instant where
  /-- Whole seconds since the start of 1970. -/
  seconds : Int
  /-- Nanoseconds within the second; from 1000000000 on, within the leap second after it. -/
  nanos : Nat
  deriving DecidableEq, Repr

/-- What a clock in UTC shows. -/
structure Clock where
  /-- The day. -/
  date : Date
  /-- The hour, from 0 to 23. -/
  hour : Nat
  /-- The minute. -/
  minute : Nat
  /-- The second, 60 in a leap second. -/
  second : Nat
  /-- The nanosecond within the second shown. -/
  nano : Nat
  deriving DecidableEq, Repr

namespace Instant

/-- The start of 1970. -/
def epoch : Instant := ⟨0, 0⟩

/-- The clock at an instant. -/
def clock (t : Instant) : Clock :=
  let secondOfDay := (t.seconds % 86400).toNat
  { date := .ofDays (t.seconds / 86400)
    hour := secondOfDay / 3600
    minute := secondOfDay / 60 % 60
    second := secondOfDay % 60 + t.nanos / 1000000000
    nano := t.nanos % 1000000000 }

end Instant

namespace Clock

/-- Whether a clock can show this. -/
def isValid (c : Clock) : Bool :=
  c.date.isValid && c.hour < 24 && c.minute < 60 && c.second ≤ 60 && c.nano < 1000000000

/-- The instant at which a clock in UTC shows this. -/
def instant (c : Clock) : Instant :=
  let second := min c.second 59
  { seconds := c.date.toDays * 86400 + (c.hour * 3600 + c.minute * 60 + second : Nat)
    nanos := c.nano + (c.second - second) * 1000000000 }

end Clock

/-- A year with four digits; outside 0 to 9999 with a sign and at least four digits. -/
def yearText (year : Int) : List Char :=
  if 0 ≤ year ∧ year ≤ 9999 then Decimal.padded 4 year.toNat
  else (if year < 0 then '-' else '+') :: Decimal.padded 4 year.natAbs

end ObjectStore.Time
