import ObjectStore.Json.Value
import ObjectStore.Text.Hex

/-!
# JSON texts

Values are written without blanks, in the order in which they stand. In a text
only the quote, the backslash and the controls below 0x20 are escaped.
-/

namespace ObjectStore.Json

/-- One character of a text. -/
def escape (c : Char) : List Char :=
  if c = '"' then ['\\', '"']
  else if c = '\\' then ['\\', '\\']
  else if c = '\x08' then ['\\', 'b']
  else if c = '\x0c' then ['\\', 'f']
  else if c = '\n' then ['\\', 'n']
  else if c = '\r' then ['\\', 'r']
  else if c = '\t' then ['\\', 't']
  else if c.toNat < 32 then '\\' :: 'u' :: Text.Hex.four Text.Hex.lowerDigit c.toNat
  else [c]

/-- A text between its quotes. -/
def quote (s : String) : List Char := '"' :: s.toList.flatMap escape ++ ['"']

/-- The literal of a text that may have no content; the replacement is an unpaired surrogate. -/
def quoteContent : Option String → List Char
  | some s => quote s
  | none => "\"\\ud800\"".toList

namespace Value

mutual

/-- The characters of a value. -/
def print : Value → List Char
  | null => ['n', 'u', 'l', 'l']
  | bool true => ['t', 'r', 'u', 'e']
  | bool false => ['f', 'a', 'l', 's', 'e']
  | integer n => (toString n).toList
  | decimal literal => literal.toList
  | text content => quoteContent content
  | array items => '[' :: printItems items ++ [']']
  | object fields => '\x7b' :: printFields fields ++ ['\x7d']

/-- The items of an array, separated by commas. -/
def printItems : List Value → List Char
  | [] => []
  | [v] => print v
  | v :: w :: vs => print v ++ ',' :: printItems (w :: vs)

/-- The fields of an object, separated by commas. -/
def printFields : List (Option String × Value) → List Char
  | [] => []
  | [(name, v)] => quoteContent name ++ ':' :: print v
  | (name, v) :: f :: fs => quoteContent name ++ ':' :: print v ++ ',' :: printFields (f :: fs)

end

/-- The text of a value. -/
def format (v : Value) : String := String.ofList v.print

end Value

end ObjectStore.Json
