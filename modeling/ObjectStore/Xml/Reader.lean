import ObjectStore.Text.Decimal
import ObjectStore.Text.Hex
import ObjectStore.Xml.Node

/-!
# Reading XML

A document is cut into texts and tags, and the tags are matched up to a tree.
Declarations, comments and processing instructions are passed over; a document type
declaration is refused. References stand for characters both in texts and in the
values of attributes.
-/

namespace ObjectStore.Xml

/-! ## References -/

/-- The character with a number; a document cannot hold the one with number 0. -/
def charOfNumber? (n : Nat) : Option Char :=
  if h : n.isValidChar then (if n = 0 then none else some (Char.ofNatAux n h)) else none

/-- The character that a reference stands for, given what is between `&` and `;`. -/
def reference? : List Char → Option Char
  | ['a', 'm', 'p'] => some '&'
  | ['l', 't'] => some '<'
  | ['g', 't'] => some '>'
  | ['q', 'u', 'o', 't'] => some '"'
  | ['a', 'p', 'o', 's'] => some '\x27'
  | '#' :: 'x' :: d :: ds => (Text.Hex.number? (d :: ds)).bind charOfNumber?
  | '#' :: digits => (Text.Decimal.nat? digits).bind charOfNumber?
  | _ => none

/-- The characters of a text, given the reference that has begun before it, if one has. -/
def resolve? : Option (List Char) → List Char → Option (List Char)
  | none, [] => some []
  | some _, [] => none
  | none, c :: rest =>
    if c = '&' then resolve? (some []) rest else (resolve? none rest).map (c :: ·)
  | some name, c :: rest =>
    if c = ';' then do
      let resolved ← reference? name
      let more ← resolve? none rest
      return resolved :: more
    else resolve? (some (name ++ [c])) rest

/-- The text that characters of a document stand for. -/
def unescape? (s : List Char) : Option String := (resolve? none s).map String.ofList

/-! ## Texts and tags -/

/-- A piece of a document. -/
inductive Token where
  /-- A text. -/
  | text (content : String)
  /-- The tag that begins an element. -/
  | start (name : List Char) (attributes : List (String × String))
  /-- The tag that ends an element. -/
  | stop (name : List Char)
  deriving Repr

/-- Whether a character is a blank. -/
def isBlank (c : Char) : Bool := c = ' ' || c = '\t' || c = '\n' || c = '\r'

/-- The characters after leading blanks. -/
def skipBlanks (s : List Char) : List Char := s.dropWhile isBlank

/-- Whether a name may begin with a character. -/
def isNameStart (c : Char) : Bool := c.isAlpha || c = '_' || c = ':' || 128 ≤ c.toNat

/-- Whether a character may stand in a name. -/
def isNameChar (c : Char) : Bool := isNameStart c || c.isDigit || c = '-' || c = '.'

/-- The name at the start of a text, and what follows it. -/
def name? (s : List Char) : Option (List Char × List Char) :=
  match s with
  | c :: _ => if isNameStart c then some (s.takeWhile isNameChar, s.dropWhile isNameChar) else none
  | [] => none

/-- What comes before a mark, and what follows it. -/
def splitAt? (mark : List Char) : List Char → Option (List Char × List Char)
  | [] => if mark.isEmpty then some ([], []) else none
  | c :: rest =>
    if mark.isPrefixOf (c :: rest) then some ([], (c :: rest).drop mark.length)
    else (splitAt? mark rest).map fun (before, after) => (c :: before, after)

/-- A value between quotes of either kind, and what follows it. -/
def quoted? : List Char → Option (String × List Char)
  | '"' :: rest => do
    let (value, rest) ← splitAt? ['"'] rest
    return (← unescape? value, rest)
  | '\x27' :: rest => do
    let (value, rest) ← splitAt? ['\x27'] rest
    return (← unescape? value, rest)
  | _ => none

/-- At most `count` attributes, each after blanks, and what follows them. -/
def attributes? : Nat → List Char → Option (List (String × String) × List Char)
  | 0, s => some ([], s)
  | count + 1, s =>
    match name? (skipBlanks s) with
    | none => some ([], skipBlanks s)
    | some (name, rest) =>
      match s.head?.filter isBlank, skipBlanks rest with
      | some _, '=' :: rest => do
        let (value, rest) ← quoted? (skipBlanks rest)
        let (more, rest) ← attributes? count rest
        return ((String.ofList name, value) :: more, rest)
      | _, _ => none

/-- The tokens of a tag after its opening bracket, and what follows it. -/
def tag? (s : List Char) : Option (List Token × List Char) :=
  match s with
  | '/' :: rest => do
    let (name, rest) ← name? rest
    match skipBlanks rest with
    | '>' :: rest => return ([.stop name], rest)
    | _ => none
  | _ => do
    let (name, rest) ← name? s
    let (attributes, rest) ← attributes? rest.length rest
    match rest with
    | '>' :: rest => return ([.start name attributes], rest)
    | '/' :: '>' :: rest => return ([.start name attributes, .stop name], rest)
    | _ => none

/-- The tokens of what begins with an opening bracket, given what follows the bracket. -/
def markup? (s : List Char) : Option (List Token × List Char) :=
  match s with
  | '?' :: rest => (splitAt? ['?', '>'] rest).map fun (_, rest) => ([], rest)
  | '!' :: '-' :: '-' :: rest => (splitAt? ['-', '-', '>'] rest).map fun (_, rest) => ([], rest)
  | '!' :: '[' :: 'C' :: 'D' :: 'A' :: 'T' :: 'A' :: '[' :: rest =>
    (splitAt? [']', ']', '>'] rest).map fun (content, rest) => ([.text (String.ofList content)], rest)
  | _ => tag? s

/-- The tokens of a document that has at most `count` of texts and markup. -/
def tokens? : Nat → List Char → Option (List Token)
  | _, [] => some []
  | 0, _ :: _ => none
  | count + 1, c :: rest =>
    if c = '<' then do
      let (tokens, rest) ← markup? rest
      let more ← tokens? count rest
      return tokens ++ more
    else do
      let content ← unescape? ((c :: rest).takeWhile (· ≠ '<'))
      let more ← tokens? count ((c :: rest).dropWhile (· ≠ '<'))
      return .text content :: more

/-! ## Trees -/

/-- A name without the namespace in front of it. -/
def localName (name : List Char) : String :=
  String.ofList (if name.contains ':' then (name.dropWhile (· ≠ ':')).drop 1 else name)

/-- The nodes up to the end of the content they stand in, and what follows them. -/
def content? : Nat → List Token → Option (List Node × List Token)
  | _, [] => some ([], [])
  | _, .stop name :: rest => some ([], .stop name :: rest)
  | 0, _ => none
  | size + 1, .text s :: rest => do
    let (nodes, rest) ← content? size rest
    return (.text s :: nodes, rest)
  | size + 1, .start name attributes :: rest => do
    let (inner, rest) ← content? size rest
    match rest with
    | .stop stopped :: rest =>
      if stopped = name then
        let (nodes, rest) ← content? size rest
        return (.element (localName name) attributes inner :: nodes, rest)
      else none
    | _ => none

/-- Whether a node is only blanks. -/
def Node.isBlank : Node → Bool
  | text s => s.toList.all Xml.isBlank
  | element _ _ _ => false

/-- The element that a document consists of. -/
def parse? (document : String) : Option Node := do
  let s := document.toList
  let tokens ← tokens? s.length s
  match ← content? tokens.length tokens with
  | (nodes, []) =>
    match nodes.filter (!·.isBlank) with
    | [.element name attributes content] => return .element name attributes content
    | _ => none
  | _ => none

end ObjectStore.Xml
