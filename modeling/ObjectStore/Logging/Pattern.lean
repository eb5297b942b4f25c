import ObjectStore.Text.Classes
import ObjectStore.Text.Hex

/-!
# Patterns of field values

A directive may ask for the value of a field, by a number or by a regular
expression. Here is told which texts are well formed: groups and classes are
closed, a repetition has something to repeat, an escape is a known one, and a range
does not run backwards. Counted repetitions and properties with a name of several
letters need a closing brace, which a value cannot hold, and so are never well
formed; nor are word boundaries, which are not supported.
-/

namespace ObjectStore.Logging.Pattern

open ObjectStore.Text (Hex.number?)

/-- What can stand at one place of a pattern. -/
inductive Atom where
  /-- A character that stands for itself. -/
  | char (c : Char)
  /-- A class of characters. -/
  | charClass
  /-- A place between characters. -/
  | position
  deriving DecidableEq, Repr

/-! ## Escapes -/

/-- Whether a character stands for itself after a backslash: punctuation of ASCII, but no angle bracket. -/
def isEscapable (c : Char) : Bool :=
  c.toNat < 128 && !c.isAlphanum && c ≠ '<' && c ≠ '>'

/-- The characters that have a letter after a backslash. -/
def lettered : List (Char × Char) :=
  [('a', '\x07'), ('f', '\x0c'), ('t', '\t'), ('n', '\n'), ('r', '\r'), ('v', '\x0b')]

/-- A character by its number, in exactly `width` hexadecimal digits. -/
def numbered? (width : Nat) (s : List Char) : Option (Atom × List Char) := do
  let digits := s.take width
  if digits.length ≠ width then none
  else
    let n ← Hex.number? digits
    if n.isValidChar then return (.char (Char.ofNat n), s.drop width) else none

/-- The letters of the major categories of characters. -/
def categories : List Char := ['c', 'l', 'm', 'n', 'p', 's', 'z']

/-- What an escape stands for, given the text after the backslash, and the text after it. -/
def escape? : List Char → Option (Atom × List Char)
  | [] => none
  | 'x' :: s => numbered? 2 s
  | 'u' :: s => numbered? 4 s
  | 'U' :: s => numbered? 8 s
  | c :: s =>
    if c = 'p' ∨ c = 'P' then
      match s with
      | category :: s => if category.toLower ∈ categories then some (.charClass, s) else none
      | [] => none
    else if c ∈ ['d', 'D', 's', 'S', 'w', 'W'] then some (.charClass, s)
    else if c ∈ ['A', 'z'] then some (.position, s)
    else if isEscapable c then some (.char c, s)
    else (lettered.lookup c).map fun c => (.char c, s)

/-! ## Classes -/

/-- The names of classes of ASCII characters. -/
def classNames : List String :=
  ["alnum", "alpha", "ascii", "blank", "cntrl", "digit", "graph", "lower", "print", "punct",
    "space", "upper", "word", "xdigit"]

/-- What follows a named class, given the text after the bracket that opens it. -/
def afterNamedClass? : List Char → Option (List Char)
  | ':' :: s =>
    let s := if s.head? = some '^' then s.tail else s
    let name := s.takeWhile (· ≠ ':')
    match s.drop name.length with
    | ':' :: ']' :: rest => if String.ofList name ∈ classNames then some rest else none
    | _ => none
  | _ => none

/--
What follows the beginning of a class, given the text after the bracket that opens it. Hyphens
at the beginning, or else one closing bracket, stand for themselves.
-/
def afterOpening? (s : List Char) : Option (List Char) :=
  let s := if s.head? = some '^' then s.tail else s
  let rest := s.dropWhile (· = '-')
  let rest := if rest.length = s.length ∧ rest.head? = some ']' then rest.tail else rest
  if rest.isEmpty then none else some rest

/-- One member of a class, or one end of a range, and the text after it. -/
def member? : List Char → Option (Atom × List Char)
  | [] => none
  | '\\' :: s =>
    match escape? s with
    | some (.position, _) => none
    | r => r
  | c :: s => some (.char c, s)

/-- What follows one member of a class or a range of members. -/
def afterItem? (s : List Char) : Option (List Char) := do
  let (first, rest) ← member? s
  match rest with
  | '-' :: after =>
    if after.head? = some ']' ∨ after.head? = some '-' then return rest
    else
      match first, ← member? after with
      | .char a, (.char b, rest) => if a ≤ b then return rest else none
      | _, _ => none
  | _ => return rest

/-- What follows a class that has begun, with `depth` classes around it, in at most `fuel` steps. -/
def afterClass? : Nat → Nat → List Char → Option (List Char)
  | 0, _, _ => none
  | fuel + 1, depth, s =>
    match s with
    | [] => none
    | '[' :: rest =>
      match afterNamedClass? rest with
      | some rest => afterClass? fuel depth rest
      | none => (afterOpening? rest).bind (afterClass? fuel (depth + 1))
    | ']' :: rest => if depth = 0 then some rest else afterClass? fuel (depth - 1) rest
    | '&' :: '&' :: rest => afterClass? fuel depth rest
    | '-' :: '-' :: rest => afterClass? fuel depth rest
    | '~' :: '~' :: rest => afterClass? fuel depth rest
    | s => (afterItem? s).bind (afterClass? fuel depth)

/-! ## Groups -/

/-- The switches of a group, the letters before or after one hyphen at most. -/
def areSwitches (s : List Char) : Bool :=
  s.all (fun c => c = '-' || c ∈ ['i', 'm', 's', 'U', 'u', 'R', 'x']) &&
    s.Nodup && s.getLast? ≠ some '-'

/-- Whether a group may have the name. -/
def isGroupName : List Char → Bool
  | [] => false
  | c :: s =>
    (c = '_' || (Text.isAlphanumeric c && !c.isDigit)) &&
      s.all fun c => c ∈ ['_', '.', '[', ']'] || Text.isAlphanumeric c

/-- What the text after an opening parenthesis begins. -/
inductive Opening where
  /-- A group, with its name if it has one. -/
  | group (name : Option (List Char))
  /-- Switches for what follows. -/
  | switches
  deriving DecidableEq, Repr

/-- What an opening parenthesis begins, given the text after it, and the text after its beginning. -/
def opening? (s : List Char) : Option (Opening × List Char) :=
  let named (s : List Char) :=
    let name := s.takeWhile (· ≠ '>')
    if isGroupName name ∧ name.length < s.length then
      some (Opening.group (some name), s.drop (name.length + 1))
    else none
  match s with
  | '?' :: 'P' :: '<' :: s => named s
  | '?' :: '<' :: s => named s
  | '?' :: s =>
    let switches := s.takeWhile fun c => c ≠ ':' && c ≠ ')'
    match s.drop switches.length with
    | c :: rest =>
      if !areSwitches switches then none
      else if c = ':' then some (.group none, rest)
      else if switches.isEmpty then none
      else some (.switches, rest)
    | [] => none
  | s => some (.group none, s)

/-! ## Patterns -/

/--
Whether the rest of a pattern is well formed, in at most `fuel` steps: with `depth` groups around
it, with something before it to repeat or not, and with the names that groups have so far.
-/
def isWellFormedFrom : Nat → Nat → Bool → List (List Char) → List Char → Bool
  | 0, _, _, _, _ => false
  | fuel + 1, depth, canRepeat, names, s =>
    match s with
    | [] => depth = 0
    | '(' :: rest =>
      match opening? rest with
      | some (.group none, rest) => isWellFormedFrom fuel (depth + 1) false names rest
      | some (.group (some name), rest) =>
        !names.contains name && isWellFormedFrom fuel (depth + 1) false (name :: names) rest
      | some (.switches, rest) => isWellFormedFrom fuel depth false names rest
      | none => false
    | ')' :: rest => depth ≠ 0 && isWellFormedFrom fuel (depth - 1) true names rest
    | '|' :: rest => isWellFormedFrom fuel depth false names rest
    | '[' :: rest =>
      match (afterOpening? rest).bind (afterClass? rest.length 0) with
      | some rest => isWellFormedFrom fuel depth true names rest
      | none => false
    | '\x7b' :: _ => false
    | '\\' :: rest =>
      match escape? rest with
      | some (_, rest) => isWellFormedFrom fuel depth true names rest
      | none => false
    | c :: rest =>
      if c = '?' ∨ c = '*' ∨ c = '+' then
        canRepeat &&
          isWellFormedFrom fuel depth true names (if rest.head? = some '?' then rest.tail else rest)
      else isWellFormedFrom fuel depth true names rest

/-- Whether a regular expression is well formed. -/
def isWellFormed (s : List Char) : Bool := isWellFormedFrom (s.length + 1) 0 false [] s

/-! ## Numbers -/

/-- Whether a text is a row of digits, perhaps empty, and nothing else. -/
def areDigits (s : List Char) : Bool := s.all Char.isDigit

/-- Whether a text is a decimal number without a sign, with or without point and exponent. -/
def isUnsigned (s : List Char) : Bool :=
  let whole := s.takeWhile Char.isDigit
  let rest := s.drop whole.length
  let fraction := if rest.head? = some '.' then rest.tail.takeWhile Char.isDigit else []
  let rest := if rest.head? = some '.' then rest.tail.drop fraction.length else rest
  let exponent := match rest with
    | [] => true
    | c :: '+' :: digits => c.toLower = 'e' && areDigits digits && !digits.isEmpty
    | c :: '-' :: digits => c.toLower = 'e' && areDigits digits && !digits.isEmpty
    | c :: digits => c.toLower = 'e' && areDigits digits && !digits.isEmpty
  !(whole ++ fraction).isEmpty && exponent

/-- Whether a text is a number: decimal, infinite or none, with or without a sign. -/
def isNumber (s : List Char) : Bool :=
  let s := if s.head? = some '+' ∨ s.head? = some '-' then s.tail else s
  isUnsigned s || ["inf", "infinity", "nan"].contains (String.ofList (s.map Char.toLower))

end ObjectStore.Logging.Pattern
