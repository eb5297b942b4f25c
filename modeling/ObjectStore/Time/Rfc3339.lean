import ObjectStore.Text.Classes
import ObjectStore.Time.Instant

/-!
# Timestamps

Timestamps are written in the form of RFC 3339, in UTC, with as many groups of
three fraction digits as the nanoseconds need. The reader is more liberal: it
takes any offset, blanks around the parts, numbers without leading zeros, and
fraction digits without limit, of which it keeps nine.
-/

namespace ObjectStore.Time

open ObjectStore.Text (Decimal.nat? Decimal.padded)

namespace Instant

/-- Whether the year lies within the range that timestamps are limited to. -/
def isRepresentable (t : Instant) : Bool :=
  -262143 ≤ t.clock.date.year && t.clock.date.year ≤ 262142

end Instant

namespace Rfc3339

/-- The fraction of a second, in the fewest groups of three digits that show it. -/
def fraction (nano : Nat) : List Char :=
  if nano = 0 then []
  else if nano % 1000000 = 0 then '.' :: Decimal.padded 3 (nano / 1000000)
  else if nano % 1000 = 0 then '.' :: Decimal.padded 6 (nano / 1000)
  else '.' :: Decimal.padded 9 nano

/-- An instant as a timestamp. -/
def format (t : Instant) : String :=
  let c := t.clock
  String.ofList <|
    yearText c.date.year ++ ['-'] ++ Decimal.padded 2 c.date.month ++ ['-'] ++ Decimal.padded 2 c.date.day ++
    ['T'] ++ Decimal.padded 2 c.hour ++ [':'] ++ Decimal.padded 2 c.minute ++ [':'] ++ Decimal.padded 2 c.second ++
    fraction c.nano ++ ['Z']

/-- The text after leading blanks. -/
def skipBlanks (s : List Char) : List Char := s.dropWhile Text.isBlank

/-- The number at the start of a text, of at most `width` digits, and what follows it. -/
def number? (width : Nat) (s : List Char) : Option (Nat × List Char) := do
  let digits := (s.take width).takeWhile Char.isDigit
  let n ← Decimal.nat? digits
  return (n, s.drop digits.length)

/-- A number of one or two digits after blanks. -/
def part? (s : List Char) : Option (Nat × List Char) := number? 2 (skipBlanks s)

/-- What follows a mark that may have blanks before it. -/
def after? (mark : Char) (s : List Char) : Option (List Char) :=
  match skipBlanks s with
  | c :: rest => if c = mark then some rest else none
  | [] => none

/-- The year: up to four digits, or a sign and any number of digits. -/
def year? (s : List Char) : Option (Int × List Char) :=
  match skipBlanks s with
  | '-' :: rest => (number? rest.length rest).map fun (n, rest) => (-(n : Int), rest)
  | '+' :: rest => (number? rest.length rest).map fun (n, rest) => ((n : Int), rest)
  | s => (number? 4 s).map fun (n, rest) => ((n : Int), rest)

/-- The date at the start of a text. -/
def date? (s : List Char) : Option (Date × List Char) := do
  let (year, s) ← year? s
  let (month, s) ← part? (← after? '-' s)
  let (day, s) ← part? (← after? '-' s)
  return (⟨year, month, day⟩, s)

/-- The nanoseconds that the digits of a fraction write; digits after the ninth count for nothing. -/
def nanos? (digits : List Char) : Option Nat := do
  let kept := digits.take 9
  let n ← Decimal.nat? kept
  return n * Nat.pow 10 (9 - kept.length)

/-- The fraction at the start of a text, none being zero. -/
def fraction? : List Char → Option (Nat × List Char)
  | '.' :: rest => do
    let nano ← nanos? (rest.takeWhile Char.isDigit)
    return (nano, rest.dropWhile Char.isDigit)
  | s => some (0, s)

/-- The clock at the start of a text, of a day given before. -/
def clock? (date : Date) (s : List Char) : Option (Clock × List Char) := do
  let (hour, s) ← part? s
  let (minute, s) ← part? (← after? ':' s)
  let (second, s) ← part? (← after? ':' s)
  let (nano, s) ← fraction? s
  return (⟨date, hour, minute, second, nano⟩, s)

/-- The offset from UTC at the start of a text, in minutes. -/
def offset? (s : List Char) : Option (Int × List Char) :=
  match s with
  | 'Z' :: rest => some (0, rest)
  | 'z' :: rest => some (0, rest)
  | sign :: h₁ :: h₂ :: rest =>
    if [sign, h₁, h₂].map Char.toUpper = ['U', 'T', 'C'] then some (0, rest)
    else do
      let negative ←
        if sign = '+' then some false
        else if sign = '-' ∨ sign = '\u2212' then some true else none
      let hours ← Decimal.nat? [h₁, h₂]
      match rest.dropWhile fun c => c = ':' || Text.isBlank c with
      | m₁ :: m₂ :: rest =>
        let minutes ← Decimal.nat? [m₁, m₂]
        if minutes < 60 ∧ hours < 24 then
          let offset : Int := hours * 60 + minutes
          return (if negative then -offset else offset, rest)
        else none
      | _ => none
  | _ => none

/-- The instant of a timestamp. -/
def parse? (text : String) : Option Instant := do
  let (date, s) ← date? text.toList
  match s with
  | mark :: s =>
    if mark = 'T' ∨ mark = 't' ∨ mark = ' ' then
      let (clock, s) ← clock? date s
      let (offset, s) ← offset? (skipBlanks s)
      let local' := clock.instant
      let t : Instant := { local' with seconds := local'.seconds - offset * 60 }
      if (skipBlanks s).isEmpty ∧ clock.isValid ∧ local'.isRepresentable ∧ t.isRepresentable
      then return t else none
    else none
  | [] => none

/-- The instant of a timestamp in UTC that has nothing left out and nothing between its parts. -/
def parseUtc? (text : String) : Option Instant :=
  match text.toList with
  | y₁ :: y₂ :: y₃ :: y₄ :: '-' :: m₁ :: m₂ :: '-' :: d₁ :: d₂ :: 'T' ::
      h₁ :: h₂ :: ':' :: n₁ :: n₂ :: ':' :: s₁ :: s₂ :: rest => do
    let date : Date :=
      ⟨← Decimal.nat? [y₁, y₂, y₃, y₄], ← Decimal.nat? [m₁, m₂], ← Decimal.nat? [d₁, d₂]⟩
    let (nano, rest) ← fraction? rest
    let clock : Clock :=
      ⟨date, ← Decimal.nat? [h₁, h₂], ← Decimal.nat? [n₁, n₂], ← Decimal.nat? [s₁, s₂], nano⟩
    if rest = ['Z'] ∧ clock.isValid ∧ clock.second < 60 then return clock.instant else none
  | _ => none

end Rfc3339

end ObjectStore.Time
