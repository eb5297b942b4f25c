import ObjectStore.Headers
import ObjectStore.SortedMap

/-!
# Header fields on the wire

On the wire the case of a field's name does not matter, so names are kept in lower
case. A name may have several values. Not every name and value can be sent: a name
is a non-empty token, and a value has no control characters but tabs.
-/

namespace ObjectStore.Http

/-- Header fields: the values of each name, names in lower case. -/
structure Fields where
  /-- The values of each name, in the order in which they were added. -/
  values : SortedMap (List String)
  deriving DecidableEq

namespace Fields

/-- The form of a name in which it is kept. -/
def fold (name : String) : String := name.map Char.toLower

/-- No fields. -/
def empty : Fields := ⟨.empty⟩

instance : EmptyCollection Fields := ⟨empty⟩

instance : Inhabited Fields := ⟨empty⟩

/-- All values of a name. -/
def getAll (f : Fields) (name : String) : List String := (f.values.get? (fold name)).getD []

/-- The first value of a name. -/
def get? (f : Fields) (name : String) : Option String := (f.getAll name).head?

/-- Make `value` the only value of a name. -/
def replace (f : Fields) (name value : String) : Fields := ⟨f.values.insert (fold name) [value]⟩

/-- Add `value` after the values that a name has. -/
def add (f : Fields) (name value : String) : Fields :=
  ⟨f.values.insert (fold name) (f.getAll name ++ [value])⟩

/-- The fields of a list, in its order. -/
def ofList (fields : List (String × String)) : Fields :=
  fields.foldl (fun f field => f.add field.1 field.2) ∅

/-- One pair for each value, in ascending order of the names. -/
def toList (f : Fields) : List (String × String) :=
  f.values.entries.flatMap fun entry => entry.2.map (entry.1, ·)

/-- Whether a value may hold a character. -/
def isValueChar (c : Char) : Bool := c = '\t' || (32 ≤ c.toNat && c.toNat ≠ 127)

/-- Whether a field can be sent. -/
def isSendable (name value : String) : Bool :=
  !name.isEmpty && HeaderName.isToken name && value.toList.all isValueChar

/-- Replace the values of a name; a field that cannot be sent changes nothing. -/
def tryReplace (f : Fields) (name value : String) : Fields :=
  if isSendable name value then f.replace name value else f

/-- Replace the values of all names that headers give a value to. -/
def project (f : Fields) (h : Headers) : Fields :=
  h.toList.foldl (fun f field => f.tryReplace field.1 field.2) f

end Fields

end ObjectStore.Http
