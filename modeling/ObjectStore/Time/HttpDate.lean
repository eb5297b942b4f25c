import ObjectStore.Time.Instant

/-!
# Dates in headers

A date in a header is written with the English names of weekday and month, in
UTC and to the whole second: `Sun, 06 Nov 1994 08:49:37 GMT`. The reader takes a
date in exactly this form, and only if its weekday is the one of the calendar.
-/

namespace ObjectStore.Time.HttpDate

open ObjectStore.Text (Decimal.nat? Decimal.padded)

/-- The names of the weekdays, from Sunday. -/
def weekdayNames : List String := ["Sun", "Mon", "Tue", "Wed", "Thu", "Fri", "Sat"]

/-- The names of the months, from January. -/
def monthNames : List String :=
  ["Jan", "Feb", "Mar", "Apr", "May", "Jun", "Jul", "Aug", "Sep", "Oct", "Nov", "Dec"]

/-- A date as it stands in a header. -/
def format (t : Instant) : String :=
  let c := t.clock
  String.ofList <|
    (weekdayNames.getD c.date.weekday "").toList ++ [',', ' '] ++ Decimal.padded 2 c.date.day ++ [' '] ++
    (monthNames.getD (c.date.month - 1) "").toList ++ [' '] ++ yearText c.date.year ++ [' '] ++
    Decimal.padded 2 c.hour ++ [':'] ++ Decimal.padded 2 c.minute ++ [':'] ++ Decimal.padded 2 c.second ++
    [' ', 'G', 'M', 'T']

/-- The weekday that a date names, and the clock that it shows. -/
def read? : List Char → Option (Nat × Clock)
  | [w₁, w₂, w₃, ',', ' ', d₁, d₂, ' ', m₁, m₂, m₃, ' ', y₁, y₂, y₃, y₄, ' ',
      h₁, h₂, ':', n₁, n₂, ':', s₁, s₂, ' ', 'G', 'M', 'T'] => do
    let weekday ← weekdayNames.idxOf? (String.ofList [w₁, w₂, w₃])
    let day ← Decimal.nat? [d₁, d₂]
    let month ← monthNames.idxOf? (String.ofList [m₁, m₂, m₃])
    let year ← Decimal.nat? [y₁, y₂, y₃, y₄]
    let hour ← Decimal.nat? [h₁, h₂]
    let minute ← Decimal.nat? [n₁, n₂]
    let second ← Decimal.nat? [s₁, s₂]
    let clock : Clock := ⟨⟨year, month + 1, day⟩, hour, minute, second, 0⟩
    if clock.isValid then return (weekday, clock) else none
  | _ => none

/-- The instant of a date whose weekday fits it. -/
def parse? (text : String) : Option Instant := do
  let (weekday, clock) ← read? text.toList
  if weekday = clock.date.weekday then return clock.instant else none

end ObjectStore.Time.HttpDate
