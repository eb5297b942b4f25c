import ObjectStore.Logging.Pattern
import ObjectStore.Text.Decimal
import ObjectStore.Text.Places

/-!
# Directives of a log

A directive says how much is logged: of all events, of those of one target, or of
those within certain spans. A span is told by its name, by a field that it has, and
by the value of that field. Directives are separated by commas.

Blanks around a directive have an odd effect: its marks are looked for in the text
without them, and its parts are cut out of the text with them, at the same numbers of
bytes. Blanks at the end thus belong to the last part, and blanks at the beginning shift
all parts. A shifted part may begin or end within a character: there the reading breaks
down, which is not the same as finding the text malformed.
-/

namespace ObjectStore.Logging

/-- How much is logged, from nothing to everything. -/
inductive Level where
  /-- Nothing. -/
  | off
  /-- Errors. -/
  | error
  /-- Warnings too. -/
  | warn
  /-- What is worth knowing too. -/
  | info
  /-- What helps to find faults too. -/
  | debug
  /-- Everything. -/
  | trace
  deriving DecidableEq, Repr, Inhabited

namespace Level

/-- The levels, least first. -/
def all : List Level := [off, error, warn, info, debug, trace]

/-- The name of a level. -/
def name : Level → String
  | off => "off"
  | error => "error"
  | warn => "warn"
  | info => "info"
  | debug => "debug"
  | trace => "trace"

/-- The place of a level, from 0. -/
def rank (l : Level) : Nat := all.idxOf l

/-- The higher of two levels. -/
def max (k l : Level) : Level := if k.rank < l.rank then l else k

/-- The number that decimal digits write, a plus sign before them allowed. -/
def number? : List Char → Option Nat
  | '+' :: digits => Text.Decimal.nat? digits
  | digits => Text.Decimal.nat? digits

/-- The level of a place, or of a name in whatever case. -/
def parse? (s : List Char) : Option Level :=
  match number? s with
  | some n => all[n]?
  | none => all.find? fun l => l.name.toList = s.map Char.toLower

end Level

/-- A field that a span must have. -/
structure FieldFilter where
  /-- Its name. -/
  name : String
  /-- A number, a truth value or a pattern that its value must match, `none` for any. -/
  value : Option String
  deriving DecidableEq, Repr

/-- What follows an equals sign is the value; from a second one on all counts for nothing. -/
def FieldFilter.parse? (s : List Char) : Option FieldFilter :=
  let name := s.takeWhile (· ≠ '=')
  match s.drop name.length with
  | [] => if name.isEmpty then none else some ⟨String.ofList name, none⟩
  | _ :: rest =>
    let value := rest.takeWhile (· ≠ '=')
    if Pattern.isNumber value || Pattern.isWellFormed value then
      some ⟨String.ofList name, some (String.ofList value)⟩
    else none

/-- A directive: a level, for all events or for some. -/
structure Directive where
  /-- The target of the events, `none` for any. -/
  target : Option String := none
  /-- The name of a span around them, `none` for any. -/
  span : Option String := none
  /-- A field of a span around them, `none` for any. -/
  field : Option FieldFilter := none
  /-- The level. -/
  level : Level
  deriving DecidableEq, Repr

/-- Why a text is not read as a directive. -/
inductive Flaw where
  /-- It has not the form of a directive. -/
  | malformed
  /-- A part of it would have to be cut out within a character. -/
  | broken
  deriving DecidableEq, Repr

namespace Directive

/-- Whether a directive may begin with a character, other than the bracket before a span. -/
def canBegin (c : Char) : Bool := c = '-' || c = ':' || c = '_' || Text.isAlphanumeric c

/-- What was read, if the text had the right form. -/
def ofForm {α : Type} (r : Option α) : Except Flaw α := r.elim (.error .malformed) .ok

/-- The part of a text that is cut out from one number of bytes to another. -/
def part (text : List Char) (start stop : Nat) : Except Flaw (List Char) :=
  (Text.between? start stop text).elim (.error .broken) .ok

/-- The level that a part names; an empty one stands for everything. -/
def levelOf (s : List Char) : Except Flaw Level :=
  if s.isEmpty then .ok .trace else ofForm (Level.parse? s)

/-- A directive for a target and spans, given the rest of the text after them and where it begins. -/
def withLevel (d : Directive) (text : List Char) (start : Nat) (rest : List Char) :
    Except Flaw Directive :=
  match rest with
  | [] => .ok d
  | c :: _ => do
    if c = '=' then
      let level ← levelOf (← part text (start + 1) (Text.width text))
      return { d with level }
    else .error .malformed

/-- A directive with a field of a span, given the text after the brace before the field. -/
def withField (d : Directive) (text : List Char) (start : Nat) (rest : List Char) :
    Except Flaw Directive := do
  let stop := start + Text.width (rest.takeWhile (· ≠ '\x7d'))
  match rest.dropWhile (· ≠ '\x7d') with
  | [] => .error .malformed
  | _ :: rest =>
    let field ← part text start stop
    let filter ← ofForm (if field.isEmpty then none else FieldFilter.parse? field)
    match rest with
    | ']' :: rest => withLevel { d with field := some filter } text (stop + 2) rest
    | _ => .error .malformed

/-- A directive with a span, given the text after the bracket before the span. -/
def withSpan (d : Directive) (text : List Char) (start : Nat) (rest : List Char) :
    Except Flaw Directive := do
  let isName (c : Char) := c ≠ ']' && c ≠ '\x7b'
  let stop := start + Text.width (rest.takeWhile isName)
  match rest.dropWhile isName with
  | [] => .error .malformed
  | c :: rest =>
    let span ← part text start stop
    if c = ']' then withLevel { d with span := some (String.ofList span) } text (stop + 1) rest
    else
      let span := if span.isEmpty then none else some (String.ofList span)
      withField { d with span } text (stop + 1) rest

/-- The directive that a text writes. Without a level it stands for everything. -/
def parse (text : String) : Except Flaw Directive := do
  let whole := text.toList
  let shown := Text.trim whole
  let isTarget (c : Char) := c ≠ '=' && c ≠ '['
  let stop := Text.width (shown.takeWhile isTarget)
  match shown.head?, shown.dropWhile isTarget with
  | none, _ => .error .malformed
  | some first, [] =>
    if canBegin first then
      match Level.parse? whole with
      | some level => return { level }
      | none => return { target := text, level := .trace }
    else .error .malformed
  | some first, c :: rest =>
    if first = '[' then withSpan { level := .trace } whole (stop + 1) rest
    else if canBegin first then
      let target ← part whole 0 stop
      let d : Directive := { target := String.ofList target, level := .trace }
      if c = '[' then withSpan d whole (stop + 1) rest else withLevel d whole stop (c :: rest)
    else .error .malformed

/-- The name of a level is a directive for all events. -/
theorem parse_name (l : Level) : parse l.name = .ok { level := l } := by
  cases l <;> rfl

/-- The most that is logged by a directive. Where a value counts it may be anything, until it is known. -/
def maxLevel (d : Directive) : Level :=
  if d.field.any (·.value.isSome) then .trace else d.level

end Directive

/--
The directives of a text, or the first flaw in it. Between two commas with nothing between them
there is none.
-/
def parseDirectives (text : String) : Except Flaw (List Directive) :=
  ((text.splitToList (· = ',')).filter (!·.isEmpty)).mapM Directive.parse

end ObjectStore.Logging
