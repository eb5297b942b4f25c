import ObjectStore.Text.Hex

/-!
# Texts in TOML

A text stands between double quotes, with escapes, or between single quotes, as it
is; tripled quotes let it go over several lines. The writer takes the first form
in which the text needs no escapes, and the reader takes every form.
-/

namespace ObjectStore.Toml.Text

open ObjectStore.Text (Hex.four Hex.upperDigit Hex.number?)

/-- Whether a character may stand in a document only by number: a control but tab and newline. -/
def isControl (c : Char) : Bool := (c.toNat < 32 && c ≠ '\t' && c ≠ '\n') || c.toNat = 127

/-- The longest row of a character. -/
def longestRow (c : Char) : Nat → List Char → Nat
  | row, [] => row
  | row, d :: rest => if d = c then longestRow c (row + 1) rest else max row (longestRow c 0 rest)

/-- The forms of a text. -/
inductive Form where
  /-- Between double quotes. -/
  | basic
  /-- Between single quotes. -/
  | literal
  /-- Between tripled double quotes. -/
  | multilineBasic
  /-- Between tripled single quotes. -/
  | multilineLiteral
  deriving DecidableEq, Repr

/-- The first form that suits a text. -/
def form (s : List Char) : Form :=
  let controls := s.any isControl
  let lines := s.contains '\n'
  if !controls && !s.contains '\\' && !s.contains '"' && !lines then .basic
  else if !controls && !s.contains '\x27' && !lines then .literal
  else if !controls && !s.contains '\\' && longestRow '"' 0 s < 3 then .multilineBasic
  else if !controls && longestRow '\x27' 0 s < 3 then .multilineLiteral
  else if lines then .multilineBasic
  else .basic

/-- A character that is no double quote, between double quotes. -/
def escape (multiline : Bool) (c : Char) : List Char :=
  if c = '\x08' then ['\\', 'b']
  else if c = '\t' then ['\\', 't']
  else if c = '\n' then (if multiline then ['\n'] else ['\\', 'n'])
  else if c = '\x0c' then ['\\', 'f']
  else if c = '\r' then ['\\', 'r']
  else if c = '\\' then ['\\', '\\']
  else if isControl c then '\\' :: 'u' :: Hex.four Hex.upperDigit c.toNat
  else [c]

/-- A text between double quotes, of which `row` in a row may come before it is escaped. -/
def escapeAll (multiline : Bool) (row : Nat) : List Char → List Char
  | [] => []
  | c :: rest =>
    if c = '"' then
      if multiline ∧ row < 2 then '"' :: escapeAll multiline (row + 1) rest
      else '\\' :: '"' :: escapeAll multiline 0 rest
    else escape multiline c ++ escapeAll multiline 0 rest

/-- The line break after the opening of a text over several lines. -/
def opening (s : List Char) : List Char := if s.contains '\n' then ['\n'] else []

/-- A text in the form that suits it. -/
def write (s : List Char) : List Char :=
  match form s with
  | .basic => '"' :: escapeAll false 0 s ++ ['"']
  | .literal => '\x27' :: s ++ ['\x27']
  | .multilineBasic => ['"', '"', '"'] ++ opening s ++ escapeAll true 0 s ++ ['"', '"', '"']
  | .multilineLiteral => ['\x27', '\x27', '\x27'] ++ opening s ++ s ++ ['\x27', '\x27', '\x27']

/-! ## Reading -/

/-- Whether a character may stand for itself in a text of one line. -/
def isPlain (c : Char) : Bool := c ≠ '\n' && !isControl c

/-- The character that a letter after a backslash stands for. -/
def unescape? : Char → Option Char
  | '"' => some '"'
  | '\\' => some '\\'
  | 'b' => some '\x08'
  | 'f' => some '\x0c'
  | 'n' => some '\n'
  | 'r' => some '\r'
  | 't' => some '\t'
  | _ => none

/-- The character of a number in hexadecimal digits. -/
def scalar? (digits : List Char) : Option Char := do
  let n ← Hex.number? digits
  if h : n.isValidChar then return Char.ofNatAux n h else none

/-- The text up to a closing double quote, and what follows. -/
def basic? : List Char → Option (List Char × List Char)
  | [] => none
  | '"' :: rest => some ([], rest)
  | '\\' :: 'u' :: a :: b :: c :: d :: rest => do
    let x ← scalar? [a, b, c, d]
    let (text, rest) ← basic? rest
    return (x :: text, rest)
  | '\\' :: 'U' :: a :: b :: c :: d :: e :: f :: g :: h :: rest => do
    let x ← scalar? [a, b, c, d, e, f, g, h]
    let (text, rest) ← basic? rest
    return (x :: text, rest)
  | '\\' :: e :: rest => do
    let x ← unescape? e
    let (text, rest) ← basic? rest
    return (x :: text, rest)
  | c :: rest =>
    if isPlain c ∧ c ≠ '\\' then do
      let (text, rest) ← basic? rest
      return (c :: text, rest)
    else none

/-- The text up to a closing single quote, and what follows. -/
def literal? : List Char → Option (List Char × List Char)
  | [] => none
  | c :: rest =>
    if c = '\x27' then some ([], rest)
    else if isPlain c then do
      let (text, rest) ← literal? rest
      return (c :: text, rest)
    else none

/-- What follows a closing of three quotes: of up to two more quotes, the text ends with them. -/
def closing (quote : Char) : List Char → List Char × List Char
  | c :: d :: rest =>
    if c = quote then (if d = quote then ([quote, quote], rest) else ([quote], d :: rest))
    else ([], c :: d :: rest)
  | [c] => if c = quote then ([quote], []) else ([], [c])
  | [] => ([], [])

/-- Whether only blanks stand before the end of the line. -/
def isLineEnd : List Char → Bool
  | '\n' :: _ => true
  | '\r' :: '\n' :: _ => true
  | ' ' :: rest => isLineEnd rest
  | '\t' :: rest => isLineEnd rest
  | _ => false

mutual

/-- The text up to tripled double quotes, and what follows. -/
def multilineBasic? : List Char → Option (List Char × List Char)
  | [] => none
  | '"' :: '"' :: '"' :: rest => some (closing '"' rest)
  | '\\' :: 'u' :: a :: b :: c :: d :: rest => do
    let x ← scalar? [a, b, c, d]
    let (text, rest) ← multilineBasic? rest
    return (x :: text, rest)
  | '\\' :: 'U' :: a :: b :: c :: d :: e :: f :: g :: h :: rest => do
    let x ← scalar? [a, b, c, d, e, f, g, h]
    let (text, rest) ← multilineBasic? rest
    return (x :: text, rest)
  | '\\' :: e :: rest =>
    match unescape? e with
    | some x => do
      let (text, rest) ← multilineBasic? rest
      return (x :: text, rest)
    | none => if isLineEnd (e :: rest) then afterLineEnd? (e :: rest) else none
  | '\r' :: '\n' :: rest => do
    let (text, rest) ← multilineBasic? rest
    return ('\n' :: text, rest)
  | c :: rest =>
    if (isPlain c ∨ c = '\n') ∧ c ≠ '\\' then do
      let (text, rest) ← multilineBasic? rest
      return (c :: text, rest)
    else none

/-- The same after a backslash that ends its line: blanks and line breaks are skipped first. -/
def afterLineEnd? : List Char → Option (List Char × List Char)
  | '\n' :: rest => afterLineEnd? rest
  | '\r' :: '\n' :: rest => afterLineEnd? rest
  | ' ' :: rest => afterLineEnd? rest
  | '\t' :: rest => afterLineEnd? rest
  | s => multilineBasic? s

end

/-- The text up to tripled single quotes, and what follows. -/
def multilineLiteral? : List Char → Option (List Char × List Char)
  | [] => none
  | '\x27' :: '\x27' :: '\x27' :: rest => some (closing '\x27' rest)
  | '\r' :: '\n' :: rest => do
    let (text, rest) ← multilineLiteral? rest
    return ('\n' :: text, rest)
  | c :: rest =>
    if isPlain c ∨ c = '\n' then do
      let (text, rest) ← multilineLiteral? rest
      return (c :: text, rest)
    else none

/-- What follows a line break right after the opening of a text over several lines. -/
def skipOpening : List Char → List Char
  | '\n' :: rest => rest
  | '\r' :: '\n' :: rest => rest
  | s => s

/-- A text of any form, and what follows; `none` for anything else. -/
def read? : List Char → Option (List Char × List Char)
  | '"' :: '"' :: '"' :: rest => multilineBasic? (skipOpening rest)
  | '"' :: rest => basic? rest
  | '\x27' :: '\x27' :: '\x27' :: rest => multilineLiteral? (skipOpening rest)
  | '\x27' :: rest => literal? rest
  | _ => none

end ObjectStore.Toml.Text
