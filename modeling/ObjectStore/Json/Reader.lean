import ObjectStore.Json.Value
import ObjectStore.Text.Hex

/-!
# Reading JSON

The reader goes through the characters once and takes exactly the grammar of
RFC 8259. A reading function answers what it read and the characters that are
left. Escapes are read as UTF-16 units first, and pairs of surrogates are joined
afterwards; a text with a surrogate left over is well written but has no content.
-/

namespace ObjectStore.Json

/-- The characters after leading blanks. -/
def skipBlanks (s : List Char) : List Char :=
  s.dropWhile fun c => c = ' ' || c = '\t' || c = '\n' || c = '\r'

/-- A piece of a text: a character that stands for itself or by letter, or an escaped unit. -/
inductive Piece where
  /-- A character. -/
  | char (c : Char)
  /-- A unit of UTF-16. -/
  | unit (u : Nat)
  deriving Repr

/-- The character that a letter after a backslash stands for. -/
def unescape? : Char → Option Char
  | '"' => some '"'
  | '\\' => some '\\'
  | '/' => some '/'
  | 'b' => some '\x08'
  | 'f' => some '\x0c'
  | 'n' => some '\n'
  | 'r' => some '\r'
  | 't' => some '\t'
  | _ => none

/-- The pieces of a text up to its closing quote. -/
def pieces? : List Char → Option (List Piece × List Char)
  | [] => none
  | '"' :: rest => some ([], rest)
  | '\\' :: 'u' :: a :: b :: c :: d :: rest => do
    let u ← Text.Hex.number? [a, b, c, d]
    let (pieces, rest) ← pieces? rest
    return (.unit u :: pieces, rest)
  | '\\' :: e :: rest => do
    let c ← unescape? e
    let (pieces, rest) ← pieces? rest
    return (.char c :: pieces, rest)
  | c :: rest =>
    if c = '\\' ∨ c.toNat < 32 then none
    else do
      let (pieces, rest) ← pieces? rest
      return (.char c :: pieces, rest)

/-- The characters of the pieces, `none` if a surrogate stands alone. -/
def assemble? : List Piece → Option (List Char)
  | [] => some []
  | .char c :: rest => (assemble? rest).map (c :: ·)
  | .unit u :: .unit v :: rest =>
    if 0xd800 ≤ u ∧ u < 0xdc00 ∧ 0xdc00 ≤ v ∧ v < 0xe000 then
      (assemble? rest).map (Char.ofNat (0x10000 + (u - 0xd800) * 0x400 + (v - 0xdc00)) :: ·)
    else if 0xd800 ≤ u ∧ u < 0xe000 then none
    else (assemble? (.unit v :: rest)).map (Char.ofNat u :: ·)
  | .unit u :: rest =>
    if 0xd800 ≤ u ∧ u < 0xe000 then none else (assemble? rest).map (Char.ofNat u :: ·)

/-- The content of a text after its opening quote, if it has one. -/
def text? (s : List Char) : Option (Option String × List Char) :=
  (pieces? s).map fun (pieces, rest) => ((assemble? pieces).map String.ofList, rest)

/-- The value of a row of decimal digits. -/
def natOfDigits (digits : List Char) : Nat :=
  digits.foldl (fun n c => 10 * n + (c.toNat - '0'.toNat)) 0

/-- A row of at least one digit. -/
def digits? (s : List Char) : Option (List Char × List Char) :=
  let digits := s.takeWhile Char.isDigit
  if digits.isEmpty then none else some (digits, s.dropWhile Char.isDigit)

/-- The digits before the point: a zero, or digits of which the first is none. -/
def wholeDigits? : List Char → Option (List Char × List Char)
  | '0' :: rest => some (['0'], rest)
  | s => digits? s

/-- The point and the digits after it, if there is a point. -/
def fraction? : List Char → Option (List Char × List Char)
  | '.' :: rest => (digits? rest).map fun (digits, rest) => ('.' :: digits, rest)
  | s => some ([], s)

/-- The sign of an exponent, if there is one. -/
def splitSign : List Char → List Char × List Char
  | '+' :: rest => (['+'], rest)
  | '-' :: rest => (['-'], rest)
  | s => ([], s)

/-- The exponent, if there is one. -/
def exponent? : List Char → Option (List Char × List Char)
  | c :: rest =>
    if c = 'e' ∨ c = 'E' then
      let (sign, rest) := splitSign rest
      (digits? rest).map fun (digits, rest) => (c :: sign ++ digits, rest)
    else some ([], c :: rest)
  | [] => some ([], [])

/-- A number. The literal `-0` is no integer, for no integer has a sign on its zero. -/
def number? (s : List Char) : Option (Value × List Char) := do
  let (sign, s) := match s with
    | '-' :: rest => (['-'], rest)
    | s => ([], s)
  let (whole, s) ← wholeDigits? s
  let (fraction, s) ← fraction? s
  let (exponent, s) ← exponent? s
  let n : Int := natOfDigits whole
  if fraction.isEmpty ∧ exponent.isEmpty ∧ (sign.isEmpty ∨ n ≠ 0) then
    return (.integer (if sign.isEmpty then n else -n), s)
  else return (.decimal (String.ofList (sign ++ whole ++ fraction ++ exponent)), s)

/-- Items separated by commas, up to a closing mark; at least one. -/
def itemsUntil {α : Type} (close : Char) (item : List Char → Option (α × List Char))
    (s : List Char) : Option (List α × List Char) :=
  match item s with
  | none => none
  | some (a, rest) =>
    match skipBlanks rest with
    | [] => none
    | mark :: more =>
      if mark = close then some ([a], more)
      else
        let next := skipBlanks more
        if mark = ',' ∧ next.length < s.length then
          (itemsUntil close item next).map fun (as, rest) => (a :: as, rest)
        else none
termination_by s.length
decreasing_by exact And.right ‹_›

/-- Items as above, or none at all. -/
def itemsOrNone {α : Type} (close : Char) (item : List Char → Option (α × List Char))
    (s : List Char) : Option (List α × List Char) :=
  match skipBlanks s with
  | [] => none
  | c :: rest => if c = close then some ([], rest) else itemsUntil close item (c :: rest)

/-- A field of an object, its value read by `value`. -/
def field? (value : List Char → Option (Value × List Char)) :
    List Char → Option ((Option String × Value) × List Char)
  | '"' :: rest => do
    let (name, rest) ← text? rest
    match skipBlanks rest with
    | ':' :: rest =>
      let (v, rest) ← value (skipBlanks rest)
      return ((name, v), rest)
    | _ => none
  | _ => none

/-- A value that nests at most `depth` deep. -/
def value? : Nat → List Char → Option (Value × List Char)
  | 0, _ => none
  | depth + 1, s =>
    match s with
    | 'n' :: 'u' :: 'l' :: 'l' :: rest => some (.null, rest)
    | 't' :: 'r' :: 'u' :: 'e' :: rest => some (.bool true, rest)
    | 'f' :: 'a' :: 'l' :: 's' :: 'e' :: rest => some (.bool false, rest)
    | '"' :: rest => (text? rest).map fun (content, rest) => (.text content, rest)
    | '[' :: rest => (itemsOrNone ']' (value? depth) rest).map fun (items, rest) => (.array items, rest)
    | '\x7b' :: rest =>
      (itemsOrNone '\x7d' (field? (value? depth)) rest).map fun (fields, rest) => (.object fields, rest)
    | _ => number? s

/-- The value that a text writes, blanks around it aside. No text nests deeper than it is long. -/
def parse? (text : String) : Option Value :=
  let s := text.toList
  match value? (s.length + 1) (skipBlanks s) with
  | some (v, rest) => if (skipBlanks rest).isEmpty then some v else none
  | none => none

end ObjectStore.Json
