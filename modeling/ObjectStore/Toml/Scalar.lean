import ObjectStore.Time.Calendar
import ObjectStore.Toml.Value

/-!
# Numbers, dates and truth values in TOML

Everything that is no text and has no brackets is one word of letters, digits and
a few signs, and the word as a whole must be a literal of one of the kinds.
-/

namespace ObjectStore.Toml.Scalar

/-- Whether a character may stand in a word. -/
def isWordChar (c : Char) : Bool :=
  c.isAlphanum || c = '+' || c = '-' || c = '_' || c = '.' || c = ':'

/-- The value of a digit of a base up to 16. -/
def digit? (base : Nat) (c : Char) : Option Nat :=
  let value :=
    if c.isDigit then c.toNat - '0'.toNat
    else if 'a' ≤ c ∧ c ≤ 'f' then c.toNat - 'a'.toNat + 10
    else if 'A' ≤ c ∧ c ≤ 'F' then c.toNat - 'A'.toNat + 10
    else base
  if value < base then some value else none

/-- The digits of a number that may be grouped by single underscores between digits. -/
def grouped? (base : Nat) : List Char → Option (List Nat)
  | [] => none
  | [c] => (digit? base c).map fun d => [d]
  | c :: '_' :: rest => do
    let d ← digit? base c
    let ds ← grouped? base rest
    return d :: ds
  | c :: rest => do
    let d ← digit? base c
    let ds ← grouped? base rest
    return d :: ds

/-- The number that digits write. -/
def valueOf (base : Nat) (digits : List Nat) : Nat := digits.foldl (fun n d => base * n + d) 0

/-- The sign of a literal, and what follows. -/
def splitSign : List Char → Bool × List Char
  | '-' :: rest => (true, rest)
  | '+' :: rest => (false, rest)
  | s => (false, s)

/-- The digits before the point: a lone zero, or digits of which the first is none. -/
def whole? (s : List Char) : Option (List Nat) := do
  let digits ← grouped? 10 s
  if digits.length = 1 ∨ digits.head? ≠ some 0 then return digits else none

/-- An integer of 64 bits, decimal or with the mark of another base. -/
def integer? (word : List Char) : Option Value := do
  let n : Int ← match word with
    | '0' :: 'x' :: digits => (grouped? 16 digits).map fun ds => (valueOf 16 ds : Int)
    | '0' :: 'o' :: digits => (grouped? 8 digits).map fun ds => (valueOf 8 ds : Int)
    | '0' :: 'b' :: digits => (grouped? 2 digits).map fun ds => (valueOf 2 ds : Int)
    | _ =>
      let (negative, digits) := splitSign word
      (whole? digits).map fun ds => if negative then -(valueOf 10 ds : Int) else valueOf 10 ds
  if -9223372036854775808 ≤ n ∧ n ≤ 9223372036854775807 then return .integer n else none

/-- The smallest number that is rounded up out of the range of finite numbers. -/
def overflow : Nat := Nat.pow 2 1024 - Nat.pow 2 970

/-- Whether `mantissa · 10 ^ exponent` stays within the range of finite numbers. -/
def isFinite (mantissa : Nat) (exponent : Int) : Bool :=
  let digits := (Nat.toDigits 10 mantissa).length
  if mantissa = 0 then true
  else if 400 < exponent then false
  else if 0 ≤ exponent then mantissa * Nat.pow 10 exponent.toNat < overflow
  else if digits ≤ exponent.natAbs then true
  else mantissa < overflow * Nat.pow 10 exponent.natAbs

/-- A number with a fraction or an exponent, or a name for one; only a negative one may be too large. -/
def float? (word : List Char) : Option Value := do
  let (negative, s) := splitSign word
  if s = ['i', 'n', 'f'] ∨ s = ['n', 'a', 'n'] then return .float (String.ofList word)
  let isMark (c : Char) := c = 'e' || c = 'E'
  let number := s.takeWhile (!isMark ·)
  let power := (s.dropWhile (!isMark ·)).drop 1
  let wholePart ← whole? (number.takeWhile (· ≠ '.'))
  let fraction ←
    if number.contains '.' then grouped? 10 ((number.dropWhile (· ≠ '.')).drop 1) else some []
  let (low, digits) := splitSign power
  let exponent ← if s.any isMark then grouped? 10 digits else some []
  let e : Int := valueOf 10 exponent
  let scale : Int := (if low then -e else e) - fraction.length
  if fraction.isEmpty ∧ exponent.isEmpty then none
  else if negative ∨ isFinite (valueOf 10 (wholePart ++ fraction)) scale then
    return .float (String.ofList word)
  else none

/-- The number that two digits write. -/
def two? (a b : Char) : Option Nat :=
  if a.isDigit ∧ b.isDigit then some (10 * (a.toNat - '0'.toNat) + (b.toNat - '0'.toNat)) else none

/-- Whether a word is a date. -/
def isDate : List Char → Bool
  | [y₁, y₂, y₃, y₄, '-', m₁, m₂, '-', d₁, d₂] =>
    match two? y₁ y₂, two? y₃ y₄, two? m₁ m₂, two? d₁ d₂ with
    | some century, some year, some month, some day =>
      (⟨100 * century + year, month, day⟩ : Time.Date).isValid
    | _, _, _, _ => false
  | _ => false

/-- Whether a word is an offset from UTC, or none. -/
def isOffset : List Char → Bool
  | [] => true
  | ['Z'] => true
  | ['z'] => true
  | [sign, h₁, h₂, ':', m₁, m₂] =>
    match two? h₁ h₂, two? m₁ m₂ with
    | some hour, some minute => (sign = '+' || sign = '-') && hour < 24 && minute < 60
    | _, _ => false
  | _ => false

/-- The rest of a word after the fraction of a second, if there is one. -/
def afterFraction? : List Char → Option (List Char)
  | '.' :: rest => if (rest.takeWhile Char.isDigit).isEmpty then none else some (rest.dropWhile Char.isDigit)
  | s => some s

/-- The rest of a word after the time of day with which it begins. -/
def afterTime? : List Char → Option (List Char)
  | h₁ :: h₂ :: ':' :: m₁ :: m₂ :: ':' :: s₁ :: s₂ :: rest =>
    match two? h₁ h₂, two? m₁ m₂, two? s₁ s₂ with
    | some hour, some minute, some second =>
      if hour < 24 ∧ minute < 60 ∧ second ≤ 60 then afterFraction? rest else none
    | _, _, _ => none
  | _ => none

/-- Whether a word is a time of day, with an offset only after a date. -/
def isTime (afterDate : Bool) (word : List Char) : Bool :=
  match afterTime? word with
  | some rest => if afterDate then isOffset rest else rest.isEmpty
  | none => false

/-- Whether a word is a date, a time, or a date and a time divided by the letter T. -/
def isDateTime (word : List Char) : Bool :=
  isDate word || isTime false word ||
    match word.drop 10 with
    | mark :: rest => isDate (word.take 10) && (mark = 'T' || mark = 't') && isTime true rest
    | [] => false

/-- The value that a word is a literal of. -/
def ofWord? (word : List Char) : Option Value :=
  if word = ['t', 'r', 'u', 'e'] then some (.bool true)
  else if word = ['f', 'a', 'l', 's', 'e'] then some (.bool false)
  else if isDateTime word then some (.datetime (String.ofList word))
  else (integer? word).orElse fun _ => float? word

/-- The word at the start of a text with its value, and what follows; a date may go on after a blank. -/
def read? (s : List Char) : Option (Value × List Char) :=
  let word := s.takeWhile isWordChar
  match s.dropWhile isWordChar with
  | ' ' :: rest =>
    let more := rest.takeWhile isWordChar
    if isDate word ∧ isTime true more then
      some (.datetime (String.ofList (word ++ ' ' :: more)), rest.dropWhile isWordChar)
    else (ofWord? word).map (·, ' ' :: rest)
  | rest => (ofWord? word).map (·, rest)

end ObjectStore.Toml.Scalar
