/-!
# TOML values

The values of a TOML document. A table remembers how it came about, because that
decides where the document may add to it: a table written in braces is complete, a
table under its own header takes no second header and no dotted keys, and a table
that only stands between others can still be given a header. Numbers with a
fraction and dates are kept as they are written.
-/

namespace ObjectStore.Toml

/-- How a table came about. -/
inductive Origin where
  /-- By a header of its own, or as the document itself. -/
  | header
  /-- As a part of the path of another header. -/
  | implied
  /-- As a part of a dotted key. -/
  | dotted
  /-- In braces. -/
  | inline
  deriving DecidableEq, Repr

/-- Whether a table came about by being on the way to something else. -/
def Origin.isImplicit : Origin → Bool
  | implied => true
  | dotted => true
  | _ => false

/-- A TOML value. -/
inductive Value where
  /-- A text. -/
  | text (s : String)
  /-- An integer. -/
  | integer (n : Int)
  /-- A number with a fraction or an exponent, an infinity, or no number. -/
  | float (literal : String)
  /-- A truth value. -/
  | bool (b : Bool)
  /-- A date, a time, or both. -/
  | datetime (literal : String)
  /-- An array in brackets. -/
  | array (items : List Value)
  /-- A table: keys with values. -/
  | table (origin : Origin) (fields : List (String × Value))
  /-- The tables under headers in double brackets. -/
  | tables (earlier : List (List (String × Value))) (last : List (String × Value))
  deriving Repr, Inhabited

/-- The fields of a table. -/
abbrev Fields := List (String × Value)

namespace Fields

/-- Give a key a value, in place of the one it has. -/
def put (key : String) (v : Value) : Fields → Fields
  | [] => [(key, v)]
  | field :: rest => if field.1 = key then (key, v) :: rest else field :: put key v rest

/--
Change the table at the end of a path. A table that is missing on the way comes into being with the
given origin; of tables under double brackets the last is meant. A path of dotted keys leads through
no table with a header, and no path leads through a value in braces.
-/
def descend (origin : Origin) (change : Origin → Fields → Option Fields) :
    List String → Origin → Fields → Option Fields
  | [], here, fields => change here fields
  | key :: path, _, fields =>
    match fields.lookup key with
    | none => (descend origin change path origin []).map fun t => fields ++ [(key, .table origin t)]
    | some (.table o t) =>
      if o = .inline ∨ origin = .dotted ∧ !o.isImplicit then none
      else (descend origin change path o t).map fun t => put key (.table o t) fields
    | some (.tables earlier t) =>
      (descend origin change path .header t).map fun t => put key (.tables earlier t) fields
    | some _ => none

/--
Add a value under a dotted key, whose last part is `key`. A key with one part adds to a table as it
stands, a longer one only to a table that dotted keys made; and no key is given twice.
-/
def addPair (path : List String) (key : String) (v : Value) (fields : Fields) : Option Fields :=
  descend .dotted
    (fun here fields =>
      if (here == .dotted) == path.isEmpty || (fields.lookup key).isSome then none
      else some (fields ++ [(key, v)]))
    path .header fields

end Fields

end ObjectStore.Toml
