import ObjectStore.Config.Toml
import ObjectStore.FileTree

/-!
# Configurations in files

A configuration is kept in a file that only its owner can read. By default it lies
in a directory of its own below the home directory, which comes into being as soon
as anything asks for it.
-/

namespace ObjectStore.Config

/-- The path of the directory below a home directory. -/
def directory (home : String) : String := (FileTree.join (FileTree.join home ".config") "bucketflow")

/-- The path of the file below a home directory. -/
def path (home : String) : String := FileTree.join (directory home) "config.toml"

/-- The access rights of the file. -/
def fileMode : Nat := 0o600

/-- Create the directory if it is not there. -/
def ensureDirectory (t : FileTree) (home : String) : Except Error Unit × FileTree :=
  if t.contains (directory home) then (.ok (), t)
  else
    let (result, t) := t.createDirectory (directory home)
    (result.mapError fun e => .config ("Failed to create config directory: " ++ e.message), t)

/-- The configuration in the bytes of a file. -/
def ofText (text : String) : Except Error Config :=
  match parse? text with
  | some c => .ok c
  | none => .error (.invalidConfig "Failed to parse config file")

/-- The configuration in the file at a path. -/
def loadFrom (t : FileTree) (path : String) : Except Error Config :=
  if t.contains path then
    match t.readText path with
    | .ok text => ofText text
    | .error e => .error (.invalidConfig ("Failed to read config file: " ++ e.message))
  else .error (.configNotFound path)

/-- Write a configuration to the file at a path. One that has no written form leaves the file alone. -/
def saveTo (t : FileTree) (path : String) (c : Config) : Except Error FileTree := do
  let text ← c.format
  match t.write path (Text.utf8 text) with
  | .error e => .error (.config ("Failed to write config file: " ++ e.message))
  | .ok t =>
    match t.setMode path fileMode with
    | .error e => .error (.io e.message)
    | .ok t => .ok t

/-- Something done with the path of the file below a home directory, once its directory is there. -/
def withPath {α : Type} (t : FileTree) (home : String)
    (act : FileTree → String → Except Error α × FileTree) : Except Error α × FileTree :=
  match ensureDirectory t home with
  | (.ok (), t) => act t (path home)
  | (.error e, t) => (.error e, t)

/-- The configuration below a home directory. -/
def load (t : FileTree) (home : String) : Except Error Config × FileTree :=
  withPath t home fun t path => (loadFrom t path, t)

/-- Write the configuration below a home directory. -/
def save (t : FileTree) (home : String) (c : Config) : Except Error Unit × FileTree :=
  withPath t home fun t path =>
    match saveTo t path c with
    | .ok t => (.ok (), t)
    | .error e => (.error e, t)

/-- Whether there is a configuration below a home directory. -/
def isPresent (t : FileTree) (home : String) : Bool × FileTree :=
  let (present, t) := withPath t home fun t path => (.ok (t.contains path), t)
  (present.toOption.getD false, t)

end ObjectStore.Config
