import ObjectStore.Text.Bytes

/-!
# Trees of files

Directories and files with their modes, found by path. A path is walked part by
part: whatever is walked on from must be a directory. A file is created where the
path leads, a directory with all that are missing above it. Access rights are
recorded but not enforced, as for the owner of the machine.
-/

namespace ObjectStore

/-- Why an access to a file fails. -/
inductive FileError where
  /-- Nothing is at the path. -/
  | notFound
  /-- Something already is at the path. -/
  | alreadyExists
  /-- A part of the path that must be a directory is a file. -/
  | notDirectory
  /-- A directory is where a file must be. -/
  | isDirectory
  /-- The path, or the name of a file in it, is longer than names can be. -/
  | nameTooLong
  /-- The path holds the character that ends a path. -/
  | nulInPath
  /-- The content is no text. -/
  | notText
  deriving DecidableEq, Repr

/-- The wording of the operating system. -/
def FileError.message : FileError → String
  | notFound => "No such file or directory (os error 2)"
  | alreadyExists => "File exists (os error 17)"
  | notDirectory => "Not a directory (os error 20)"
  | isDirectory => "Is a directory (os error 21)"
  | nameTooLong => "File name too long (os error 36)"
  | nulInPath => "file name contained an unexpected NUL byte"
  | notText => "stream did not contain valid UTF-8"

/-- What is at a path. -/
inductive FileNode where
  /-- A directory. -/
  | directory (mode : Nat)
  /-- A file. -/
  | file (mode : Nat) (content : List UInt8)
  deriving DecidableEq

namespace FileNode

/-- The access rights. -/
def mode : FileNode → Nat
  | directory m => m
  | file m _ => m

/-- The same with other access rights. -/
def withMode (m : Nat) : FileNode → FileNode
  | directory _ => directory m
  | file _ content => file m content

/-- Whether this is a directory. -/
def isDirectory : FileNode → Bool
  | directory _ => true
  | file _ _ => false

end FileNode

/-- Everything below the top directory, by the names on the way from it. -/
structure FileTree where
  /-- Names and what they lead to; the first entry of a way counts. -/
  nodes : List (List String × FileNode) := []

namespace FileTree

/-- The access rights of a new directory. -/
def newDirectoryMode : Nat := 0o755

/-- The access rights of a new file. -/
def newFileMode : Nat := 0o644

/-- What a way leads to. -/
def node? (t : FileTree) (way : List String) : Option FileNode :=
  if way.isEmpty then some (.directory newDirectoryMode) else t.nodes.lookup way

/-- Put something at the end of a way. -/
def put (t : FileTree) (way : List String) (node : FileNode) : FileTree :=
  ⟨(way, node) :: t.nodes.filter (·.1 != way)⟩

/-- The most bytes that a path may have. -/
def maxPathBytes : Nat := 4095

/-- The most bytes that a name may have. -/
def maxNameBytes : Nat := 255

/-- The parts of a path, without the slashes between them. -/
def parts (path : String) : List String := (path.splitOn "/").filter (!·.isEmpty)

/-- The parts of a path that can be walked at all. -/
def walkable (path : String) : Except FileError (List String) :=
  if path.contains '\x00' then .error .nulInPath
  else if path.utf8ByteSize > maxPathBytes then .error .nameTooLong
  else .ok (parts path)

/-- Whether a part of a path leads to a directory that is there anyway. -/
def isDots (part : String) : Bool := part = "." || part = ".."

/-- Where a part of a path leads from a directory; whether anything is there is left open. -/
def step (here : List String) (part : String) : Except FileError (List String) :=
  if part = "." then .ok here
  else if part = ".." then .ok here.dropLast
  else if part.utf8ByteSize > maxNameBytes then .error .nameTooLong
  else .ok (here ++ [part])

/-- A way that must lead to a directory. -/
def requireDirectory (t : FileTree) (way : List String) : Except FileError (List String) :=
  match t.node? way with
  | some (.directory _) => .ok way
  | some (.file _ _) => .error .notDirectory
  | none => .error .notFound

/-- Where the parts of a path lead, walked on from a directory, if all on the way are directories. -/
def walk (t : FileTree) : List String → List String → Except FileError (List String)
  | here, [] => .ok here
  | here, part :: rest => do
    let next ← step here part
    t.walk (← t.requireDirectory next) rest

/-- Where the last part of a path leads, the others being directories. -/
def locate (t : FileTree) (parts : List String) : Except FileError (List String) := do
  let here ← t.walk [] parts.dropLast
  match parts.getLast? with
  | some part => step here part
  | none => return here

/-- What is at a path, with the way to it; before a slash at the end there must be a directory. -/
def find (t : FileTree) (path : String) : Except FileError (List String × FileNode) := do
  let way ← t.locate (← walkable path)
  match t.node? way with
  | some (.file _ _) => if path.endsWith "/" then throw .notDirectory
  | _ => pure ()
  match t.node? way with
  | some node => return (way, node)
  | none => throw .notFound

/-- Whether something is at a path. -/
def contains (t : FileTree) (path : String) : Bool :=
  match t.find path with
  | .ok _ => true
  | .error _ => false

/-- The content of the file at a path. -/
def read (t : FileTree) (path : String) : Except FileError (List UInt8) := do
  match ← t.find path with
  | (_, .file _ content) => return content
  | (_, .directory _) => throw .isDirectory

/-- The text of the file at a path. -/
def readText (t : FileTree) (path : String) : Except FileError String := do
  match Text.ofUtf8? (← t.read path) with
  | some text => return text
  | none => throw .notText

/-- Make the content of the file at a path; a file that is not there is created. -/
def write (t : FileTree) (path : String) (content : List UInt8) : Except FileError FileTree := do
  let parts ← walkable path
  let here ← t.walk [] parts.dropLast
  match parts.getLast? with
  | none => throw .isDirectory
  | some part =>
    if path.endsWith "/" ∧ !isDots part then throw .isDirectory
    let way ← step here part
    match t.node? way with
    | some (.file mode _) => return t.put way (.file mode content)
    | some (.directory _) => throw .isDirectory
    | none => return t.put way (.file newFileMode content)

/-- Set the access rights of what is at a path. -/
def setMode (t : FileTree) (path : String) (mode : Nat) : Except FileError FileTree := do
  let (way, node) ← t.find path
  return t.put way (node.withMode mode)

/-- Remove the file at a path. -/
def remove (t : FileTree) (path : String) : Except FileError FileTree := do
  match ← t.find path with
  | (way, .file _ _) => return ⟨t.nodes.filter (·.1 != way)⟩
  | (_, .directory _) => throw .isDirectory

/-- Create the directory that a path's parts lead to, in a directory that is there. -/
def createLast (t : FileTree) (parts : List String) : Except FileError FileTree := do
  let here ← t.walk [] parts.dropLast
  match parts.getLast? with
  | none => throw .alreadyExists
  | some part =>
    let way ← step here part
    if isDots part ∨ (t.node? way).isSome then throw .alreadyExists
    return t.put way (.directory newDirectoryMode)

/-- Create the directory that a path's parts lead to, unless there is one. -/
def ensureLast (t : FileTree) (parts : List String) : Except FileError FileTree :=
  match t.createLast parts, (t.walk [] parts).toOption with
  | .ok t, _ => .ok t
  | .error _, some _ => .ok t
  | .error e, none => .error e

/-- What comes of a change: whether it was made, and the tree afterwards. -/
def attempt (t : FileTree) : Except FileError FileTree → Except FileError Unit × FileTree
  | .ok t => (.ok (), t)
  | .error e => (.error e, t)

/-- Create the directory that a path's parts lead to, given from the last on, and those above it. -/
def ensureAll (t : FileTree) : List String → Except FileError Unit × FileTree
  | [] => (.ok (), t)
  | part :: above =>
    let parts := above.reverse ++ [part]
    match t.ensureLast parts with
    | .error .notFound =>
      match t.ensureAll above with
      | (.ok (), t) => t.attempt (t.ensureLast parts)
      | r => r
    | r => t.attempt r

/--
Create the directory at a path, and those above it, where they are missing. What lies above a path
is told by its parts other than a single dot, so that one at the end stands for a directory that
must be there already. Directories that were created stay, even if the last one cannot be.
-/
def createDirectory (t : FileTree) (path : String) : Except FileError Unit × FileTree :=
  match walkable path with
  | .error e => (.error e, t)
  | .ok parts =>
    match t.ensureLast parts with
    | .error .notFound =>
      match t.ensureAll (parts.filter (· ≠ ".")).reverse.tail with
      | (.ok (), t) => t.attempt (t.ensureLast parts)
      | r => r
    | r => t.attempt r

/-- A name put below a path. -/
def join (path name : String) : String :=
  if path.endsWith "/" then path ++ name else path ++ "/" ++ name

end FileTree

end ObjectStore
