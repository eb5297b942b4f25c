import ObjectStore.Headers

/-!
# Edits of headers

Headers come about edit by edit: a header is given a value, or taken away. An edit may spell
the name as it likes.
-/

namespace ObjectStore.Headers

/-- One edit of headers. -/
inductive Edit where
  /-- Give the header a value. -/
  | set (name value : String)
  /-- Take the header away. -/
  | erase (name : String)
  deriving DecidableEq, Repr

namespace Edit

/-- The name of the header, as the edit spells it. -/
def name : Edit → String
  | set name _ => name
  | erase name => name

/-- The value that the header is left with. -/
def value? : Edit → Option String
  | set _ value => some value
  | erase _ => none

end Edit

/-- The headers after an edit. -/
def edit (h : Headers) : Edit → Headers
  | .set name value => h.set name value
  | .erase name => h.erase name

/-- The headers after all edits of a list. -/
def editAll (h : Headers) (edits : List Edit) : Headers := edits.foldl edit h

/-- The headers that edits make. -/
def ofEdits (edits : List Edit) : Headers := editAll ∅ edits

end ObjectStore.Headers
