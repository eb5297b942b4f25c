/-!
# XML documents

The content of an element is a row of nodes: texts and further elements. Elements
are told apart by their local names, and a field of a record is an element whose
content is its value.

Written out, the characters that have a meaning in markup become entities, and line
ends become character references, since a reader may take them for other line ends.
-/

namespace ObjectStore.Xml

/-- A text or an element. -/
inductive Node where
  /-- A text. -/
  | text (content : String)
  /-- An element: its name without a namespace, its attributes, and its content. -/
  | element (name : String) (attributes : List (String × String)) (content : List Node)
  deriving Repr, Inhabited

/-- One character of a text or of the value of an attribute. -/
def escape (c : Char) : List Char :=
  match c with
  | '&' => "&amp;".toList
  | '<' => "&lt;".toList
  | '>' => "&gt;".toList
  | '"' => "&quot;".toList
  | '\x27' => "&apos;".toList
  | '\r' => "&#xD;".toList
  | '\n' => "&#xA;".toList
  | c => [c]

/-- A text as it stands in a document. -/
def escapeText (s : String) : List Char := s.toList.flatMap escape

/-- An attribute as it stands in a tag. -/
def printAttribute (a : String × String) : List Char :=
  ' ' :: a.1.toList ++ '=' :: '"' :: escapeText a.2 ++ ['"']

namespace Node

/-- An element without attributes that holds a text. -/
def field (name value : String) : Node := element name [] [text value]

mutual

/-- A node as it stands in a document. -/
def print : Node → List Char
  | text content => escapeText content
  | element name attributes content =>
    '<' :: name.toList ++ attributes.flatMap printAttribute ++ '>' :: printAll content ++
      '<' :: '/' :: name.toList ++ ['>']

/-- Nodes one after another. -/
def printAll : List Node → List Char
  | [] => []
  | node :: nodes => print node ++ printAll nodes

end

/-- The document of a node. -/
def format (node : Node) : String := String.ofList node.print

end Node

/-- The contents of the elements with a name, in order. -/
def children (name : String) (content : List Node) : List (List Node) :=
  content.filterMap fun
    | .element n _ inner => if n = name then some inner else none
    | .text _ => none

/-- The text that a content amounts to, `none` if it holds an element. -/
def textOf? : List Node → Option String
  | [] => some ""
  | .text s :: rest => (textOf? rest).map (s ++ ·)
  | .element _ _ _ :: _ => none

/--
The value of a field that may be missing, as `read` takes it from the text. Each occurrence
must be readable, and the last one counts.
-/
def optional? {α : Type} (read : String → Option α) (name : String) (content : List Node) :
    Option (Option α) :=
  ((children name content).mapM fun inner => (textOf? inner).bind read).map List.getLast?

end ObjectStore.Xml
