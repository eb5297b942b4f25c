import ObjectStore.Config
import ObjectStore.Toml.Reader

/-!
# Configurations in TOML

A configuration is written section by section, with every setting but those that
are not set. It is read with defaults for what is missing and without regard to
what is not known. A section may also be given as an array of its settings in the
order in which they are written, and a date, which has no settings, counts as a
section without any.
-/

namespace ObjectStore

namespace Toml.Value

/-- The content of a text. -/
def toText? : Value → Option String
  | text s => some s
  | _ => none

/-- The truth value of a literal. -/
def toBool? : Value → Option Bool
  | bool b => some b
  | _ => none

/-- The natural number below `bound` that an integer is. -/
def toNat? (bound : Nat) : Value → Option Nat
  | integer n => if 0 ≤ n ∧ n < bound then some n.toNat else none
  | _ => none

/-- The settings of a section by their names, given those names in the order of an array. -/
def settings? (names : List String) : Value → Option Fields
  | table _ fields => some fields
  | datetime _ => some []
  | array items => some (names.zip items)
  | tables earlier last => some (names.zip ((earlier ++ [last]).map (.table .header)))
  | _ => none

end Toml.Value

namespace Toml.Fields

/-- A setting that may be missing. -/
def get? {α : Type} (fields : Fields) (name : String) (read : Value → Option α) : Option (Option α) :=
  match fields.lookup name with
  | some v => (read v).map some
  | none => some none

/-- A setting with a default. -/
def getD {α : Type} (fields : Fields) (name : String) (read : Value → Option α) (default : α) :
    Option α :=
  (fields.get? name read).map (·.getD default)

end Toml.Fields

namespace Endpoint

open Toml

/-- The names of the settings in the order in which they are written. -/
def names : List String := ["url", "region", "access_key_id", "secret_access_key", "force_path_style"]

/-- The endpoint that a section describes; an array must go as far as the keys. -/
def ofToml? (v : Value) : Option Endpoint := do
  let fields ← v.settings? names
  let complete : Bool := match v with
    | .array items => 4 ≤ items.length
    | .tables earlier _ => 3 ≤ earlier.length
    | _ => true
  if complete then
    return {
      url := ← (← fields.lookup "url").toText?
      region := ← fields.getD "region" Value.toText? "us-east-1"
      accessKeyId := ← fields.get? "access_key_id" Value.toText?
      secretAccessKey := ← fields.get? "secret_access_key" Value.toText?
      forcePathStyle := ← fields.getD "force_path_style" Value.toBool? true }
  else none

end Endpoint

namespace Transfer

open Toml

/-- The names of the settings in the order in which they are written. -/
def names : List String := ["list_page_size", "delete_batch_size", "timeout", "max_retries"]

/-- The settings of the calls that a section describes. -/
def ofToml? (v : Value) : Option Transfer := do
  let fields ← v.settings? names
  let size := Value.toNat? UInt64.size
  return {
    listPageSize := ← fields.getD "list_page_size" size maxKeysPerCall
    deleteBatchSize := ← fields.getD "delete_batch_size" size maxKeysPerCall
    timeout := ← fields.getD "timeout" size 30
    maxRetries := .ofNat (← fields.getD "max_retries" (Value.toNat? UInt32.size) 3) }

end Transfer

namespace LogSettings

open Toml

/-- The names of the settings in the order in which they are written. -/
def names : List String := ["level", "format"]

/-- The settings of the log that a section describes. -/
def ofToml? (v : Value) : Option LogSettings := do
  let fields ← v.settings? names
  return {
    level := ← fields.getD "level" Value.toText? "info"
    format := ← fields.getD "format" Value.toText? "pretty" }

end LogSettings

namespace Config

/-- The configuration that the fields of a document describe. -/
def ofToml? (fields : Toml.Fields) : Option Config := do
  return {
    endpoint := ← Endpoint.ofToml? (← fields.lookup "endpoint")
    transfer := ← fields.get? "transfer" Transfer.ofToml?
    logging := ← fields.get? "logging" LogSettings.ofToml? }

/-- The configuration that a document describes. -/
def parse? (text : String) : Option Config := (Toml.parse? text).bind ofToml?

/-! ## Writing -/

/-- A value as it is written after its key. -/
inductive Setting where
  /-- A text. -/
  | text (s : String)
  /-- A number. -/
  | number (n : Nat)
  /-- A truth value. -/
  | bool (b : Bool)

/-- A setting in TOML. -/
def Setting.write : Setting → List Char
  | text s => Toml.Text.write s.toList
  | number n => Nat.toDigits 10 n
  | bool true => ['t', 'r', 'u', 'e']
  | bool false => ['f', 'a', 'l', 's', 'e']

/-- A line with a setting. -/
def writeLine (line : String × Setting) : List Char :=
  line.1.toList ++ [' ', '=', ' '] ++ line.2.write ++ ['\n']

/-- A section: its header and its settings. -/
def writeSection (s : String × List (String × Setting)) : List Char :=
  ['['] ++ s.1.toList ++ [']', '\n'] ++ s.2.flatMap writeLine

/-- The settings of an endpoint. -/
def endpointLines (e : Endpoint) : List (String × Setting) :=
  [("url", .text e.url), ("region", .text e.region)]
    ++ e.accessKeyId.toList.map (("access_key_id", .text ·))
    ++ e.secretAccessKey.toList.map (("secret_access_key", .text ·))
    ++ [("force_path_style", .bool e.forcePathStyle)]

/-- The settings of the calls. -/
def transferLines (t : Transfer) : List (String × Setting) :=
  [("list_page_size", .number t.listPageSize), ("delete_batch_size", .number t.deleteBatchSize),
    ("timeout", .number t.timeout), ("max_retries", .number t.maxRetries.toNat)]

/-- The settings of the log. -/
def loggingLines (l : LogSettings) : List (String × Setting) :=
  [("level", .text l.level), ("format", .text l.format)]

/-- The sections of a configuration. -/
def sections (c : Config) : List (String × List (String × Setting)) :=
  ("endpoint", endpointLines c.endpoint)
    :: c.transfer.toList.map (fun t => ("transfer", transferLines t))
    ++ c.logging.toList.map fun l => ("logging", loggingLines l)

/-- The largest number that a document can hold. -/
def maxNumber : Nat := 9223372036854775807

/-- Whether all numbers of the settings of the calls can be written. -/
def isWritable (c : Config) : Bool :=
  c.transfer.all fun t =>
    t.listPageSize ≤ maxNumber && t.deleteBatchSize ≤ maxNumber && t.timeout ≤ maxNumber

/-- The document of a configuration: its sections, with an empty line between two. -/
def format (c : Config) : Except Error String :=
  if c.isWritable then .ok (String.ofList (['\n'].intercalate (c.sections.map writeSection)))
  else .error (.serialization "out-of-range value for u64 type")

end Config

end ObjectStore
