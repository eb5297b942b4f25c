import ObjectStore.Toml.Scalar
import ObjectStore.Toml.Text

/-!
# Reading TOML

A document is read in two steps. The first takes it apart into lines that count:
headers, and keys with values. The second enters them one by one into the table
of the whole document, which is where a key or a table is found to be given twice.
A reading function answers what it read and the characters that are left.
-/

namespace ObjectStore.Toml

/-- How deep brackets and braces may nest, and how many parts a key may have. -/
def maxDepth : Nat := 79

/-- The characters after blanks. -/
def skipBlanks (s : List Char) : List Char := s.dropWhile fun c => c = ' ' || c = '\t'

/-- Whether a character may stand in a comment. -/
def isCommentChar (c : Char) : Bool := Text.isPlain c

/-- The characters after the end of the line, before which a comment may stand. -/
def lineEnd? (s : List Char) : Option (List Char) :=
  let s := skipBlanks s
  let s := match s with
    | '#' :: rest => rest.dropWhile isCommentChar
    | s => s
  match s with
  | [] => some []
  | '\n' :: rest => some rest
  | '\r' :: '\n' :: rest => some rest
  | _ => none

mutual

/-- The characters after blanks, line breaks and comments. -/
def skipFiller : List Char → List Char
  | ' ' :: rest => skipFiller rest
  | '\t' :: rest => skipFiller rest
  | '\n' :: rest => skipFiller rest
  | '\r' :: '\n' :: rest => skipFiller rest
  | '#' :: rest => skipComment rest
  | s => s

/-- The same within a comment. -/
def skipComment : List Char → List Char
  | [] => []
  | '\n' :: rest => skipFiller rest
  | '\r' :: '\n' :: rest => skipFiller rest
  | c :: rest => if isCommentChar c then skipComment rest else c :: rest

end

/-- Whether a character may stand in a key without quotes. -/
def isBareKeyChar (c : Char) : Bool := c.isAlphanum || c = '-' || c = '_'

/-- One part of a key. -/
def keyPart? (s : List Char) : Option (String × List Char) :=
  match s with
  | '"' :: rest => (Text.basic? rest).map fun (text, rest) => (String.ofList text, rest)
  | '\x27' :: rest => (Text.literal? rest).map fun (text, rest) => (String.ofList text, rest)
  | s =>
    let part := s.takeWhile isBareKeyChar
    if part.isEmpty then none else some (String.ofList part, s.dropWhile isBareKeyChar)

/-- The parts of a key, divided by points, and the characters after the blanks that follow. -/
def keyParts? (s : List Char) : Option (List String × List Char) :=
  match keyPart? (skipBlanks s) with
  | none => none
  | some (part, rest) =>
    match skipBlanks rest with
    | '.' :: more =>
      if more.length < s.length then
        (keyParts? more).map fun (parts, rest) => (part :: parts, rest)
      else none
    | rest => some ([part], rest)
termination_by s.length
decreasing_by assumption

/-- A key: the parts before the last, the last part, and the characters after it. -/
def key? (s : List Char) : Option ((List String × String) × List Char) := do
  let (parts, rest) ← keyParts? s
  let last ← parts.getLast?
  if parts.length ≤ maxDepth then return ((parts.dropLast, last), rest) else none

/-- A key with its value, which `value` reads. -/
def pair? {α : Type} (value : List Char → Option (α × List Char)) (s : List Char) :
    Option (((List String × String) × α) × List Char) := do
  let (key, rest) ← key? s
  match rest with
  | '=' :: rest =>
    let (v, rest) ← value (skipBlanks rest)
    return ((key, v), rest)
  | _ => none

/-- The items of an array after its opening bracket, with a comma allowed after the last. -/
def arrayItems? {α : Type} (item : List Char → Option (α × List Char)) (s : List Char) :
    Option (List α × List Char) :=
  match skipFiller s with
  | ']' :: rest => some ([], rest)
  | start =>
    match item start with
    | none => none
    | some (a, rest) =>
      match skipFiller rest with
      | ',' :: more =>
        if more.length < s.length then
          (arrayItems? item more).map fun (as, rest) => (a :: as, rest)
        else none
      | ']' :: more => some ([a], more)
      | _ => none
termination_by s.length
decreasing_by assumption

/-- The pairs of a table in braces, at least one, up to its closing brace. -/
def inlinePairs? {α : Type} (item : List Char → Option (α × List Char)) (s : List Char) :
    Option (List α × List Char) :=
  match item s with
  | none => none
  | some (a, rest) =>
    match skipBlanks rest with
    | '\x7d' :: more => some ([a], more)
    | ',' :: more =>
      if more.length < s.length then
        (inlinePairs? item more).map fun (as, rest) => (a :: as, rest)
      else none
    | _ => none
termination_by s.length
decreasing_by assumption

/-- The table of pairs in braces. -/
def inlineTable? (pairs : List ((List String × String) × Value)) : Option Value :=
  (pairs.foldlM (fun fields pair => Fields.addPair pair.1.1 pair.1.2 pair.2 fields) []).map
    (.table .inline)

/-- A text or a word. -/
def plainValue? (s : List Char) : Option (Value × List Char) :=
  match s with
  | '"' :: _ => (Text.read? s).map fun (text, rest) => (.text (String.ofList text), rest)
  | '\x27' :: _ => (Text.read? s).map fun (text, rest) => (.text (String.ofList text), rest)
  | _ => Scalar.read? s

/-- A value in which brackets and braces nest at most `depth` deep. -/
def value? : Nat → List Char → Option (Value × List Char)
  | 0, s => plainValue? s
  | depth + 1, s =>
    match s with
    | '[' :: rest => (arrayItems? (value? depth) rest).map fun (items, rest) => (.array items, rest)
    | '\x7b' :: rest =>
      match skipBlanks rest with
      | '\x7d' :: rest => some (.table .inline [], rest)
      | rest => do
        let (pairs, rest) ← inlinePairs? (pair? (value? depth)) rest
        let table ← inlineTable? pairs
        return (table, rest)
    | _ => plainValue? s

/-- A line that counts. -/
inductive Line where
  /-- The header of a table. -/
  | header (path : List String) (key : String)
  /-- The header of one more table of a row of tables. -/
  | element (path : List String) (key : String)
  /-- A key with its value. -/
  | pair (path : List String) (key : String) (v : Value)
  deriving Repr

/-- A line that counts, and the characters after the end of it. -/
def line? (s : List Char) : Option (Line × List Char) :=
  match s with
  | '[' :: '[' :: rest => do
    let ((path, key), rest) ← key? rest
    match rest with
    | ']' :: ']' :: rest => return (.element path key, ← lineEnd? rest)
    | _ => none
  | '[' :: rest => do
    let ((path, key), rest) ← key? rest
    match rest with
    | ']' :: rest => return (.header path key, ← lineEnd? rest)
    | _ => none
  | _ => do
    let (((path, key), v), rest) ← pair? (value? maxDepth) s
    return (.pair path key v, ← lineEnd? rest)

/-- The lines of a document that count. -/
def lines? (s : List Char) : Option (List Line) :=
  match skipFiller s with
  | [] => some []
  | start =>
    match line? start with
    | none => none
    | some (line, rest) =>
      if rest.length < s.length then (lines? rest).map (line :: ·) else none
termination_by s.length
decreasing_by assumption

/-- A document while its lines are entered: all tables, and the path of the one that pairs go to. -/
structure Draft where
  /-- The table of the whole document. -/
  fields : Fields := []
  /-- The path of the last header. -/
  current : List String := []
  deriving Repr

namespace Draft

/-- Open the table of a header, which must be new or only on the way to others. -/
def openTable (key : String) (_ : Origin) (fields : Fields) : Option Fields :=
  match fields.lookup key with
  | none => some (fields ++ [(key, .table .header [])])
  | some (.table .implied t) => some (Fields.put key (.table .header t) fields)
  | some _ => none

/-- Open one more table of a row. -/
def openElement (key : String) (_ : Origin) (fields : Fields) : Option Fields :=
  match fields.lookup key with
  | none => some (fields ++ [(key, .tables [] [])])
  | some (.tables earlier last) => some (Fields.put key (.tables (earlier ++ [last]) []) fields)
  | some _ => none

/-- Enter a line. -/
def enter (d : Draft) : Line → Option Draft
  | .header path key => do
    let fields ← Fields.descend .implied (openTable key) path .header d.fields
    return { fields, current := path ++ [key] }
  | .element path key => do
    let fields ← Fields.descend .implied (openElement key) path .header d.fields
    return { fields, current := path ++ [key] }
  | .pair path key v => do
    let fields ← Fields.descend .implied (fun _ t => Fields.addPair path key v t) d.current .header d.fields
    return { d with fields }

end Draft

/-- The fields of a document; a mark of the byte order at its start does not count. -/
def parse? (text : String) : Option Fields := do
  let s := match text.toList with
    | '\ufeff' :: rest => rest
    | s => s
  let draft ← (← lines? s).foldlM Draft.enter {}
  return draft.fields

end ObjectStore.Toml
