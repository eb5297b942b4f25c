import ObjectStore.Json.Printer
import ObjectStore.Json.Reader
import ObjectStore.Object
import ObjectStore.Time.Rfc3339

/-!
# Entries and modes in JSON

An entry is written as an object with all its fields in a fixed order. It is read
from an object with its fields in any order, where unknown fields are skipped,
optional ones may be missing and none may stand twice, or from an array of the
fields in their fixed order.
-/

namespace ObjectStore

namespace Json.Value

/-- A text with content. -/
def ofString (s : String) : Value := text (some s)

/-- A value that may be missing. -/
def ofOption {α : Type} (f : α → Value) : Option α → Value
  | none => null
  | some a => f a

/-- The content of a text. -/
def toString? : Value → Option String
  | text content => content
  | _ => none

/-- The truth value of a literal. -/
def toBool? : Value → Option Bool
  | bool b => some b
  | _ => none

/-- The integer of 64 bits that a number writes. -/
def toInt64? : Value → Option Int64
  | integer n => if Int64.minValue.toInt ≤ n ∧ n ≤ Int64.maxValue.toInt then some (.ofInt n) else none
  | _ => none

/-- The instant of a timestamp. -/
def toInstant? : Value → Option Time.Instant
  | text (some s) => Time.Rfc3339.parse? s
  | _ => none

/-- A value that may be missing: `null` says that it is. -/
def toOption? {α : Type} (f : Value → Option α) : Value → Option (Option α)
  | null => some none
  | v => (f v).map some

end Json.Value

namespace ObjectEntry

open Json (Value)

/-- The fields in the order in which they are written. -/
def fieldNames : List String :=
  ["key", "size", "last_modified", "etag", "version_id", "storage_class", "is_prefix"]

/-- The values of the fields, in the order of their names. -/
def fieldValues (entry : ObjectEntry) : List Value :=
  [.ofString entry.key, .integer entry.size.toInt,
    .ofOption (fun t => .ofString (Time.Rfc3339.format t)) entry.lastModified, .ofString entry.etag,
    .ofOption .ofString entry.versionId, .ofOption .ofString entry.storageClass,
    .bool entry.isCommonPrefix]

/-- An entry as a JSON value. -/
def toJson (entry : ObjectEntry) : Value :=
  .object ((fieldNames.zip entry.fieldValues).map fun (name, v) => (some name, v))

/-- The entry of the values of its fields; a missing optional field is as good as `null`. -/
def ofFields? (key size lastModified etag versionId storageClass isCommonPrefix : Option Value) :
    Option ObjectEntry := do
  return {
    key := ← (← key).toString?
    size := ← (← size).toInt64?
    lastModified := ← (lastModified.getD .null).toOption? Value.toInstant?
    etag := ← (← etag).toString?
    versionId := ← (versionId.getD .null).toOption? Value.toString?
    storageClass := ← (storageClass.getD .null).toOption? Value.toString?
    isCommonPrefix := ← (isCommonPrefix.getD (.bool false)).toBool? }

/-- The fields of an object by name: every name has content, and none of an entry's stands twice. -/
def fieldMap? (fields : List (Option String × Value)) : Option (List (String × Value)) := do
  let named ← fields.mapM fun (name, v) => name.map (·, v)
  if fieldNames.all fun name => (named.filter (·.1 == name)).length ≤ 1 then some named else none

/-- The entry that a JSON value describes. -/
def ofJson? : Value → Option ObjectEntry
  | .object fields => do
    let named ← fieldMap? fields
    let get (name : String) := named.lookup name
    ofFields? (get "key") (get "size") (get "last_modified") (get "etag") (get "version_id")
      (get "storage_class") (get "is_prefix")
  | .array [key, size, lastModified, etag, versionId, storageClass] =>
    ofFields? key size lastModified etag versionId storageClass none
  | .array [key, size, lastModified, etag, versionId, storageClass, isCommonPrefix] =>
    ofFields? key size lastModified etag versionId storageClass isCommonPrefix
  | _ => none

/-- The JSON text of an entry. -/
def format (entry : ObjectEntry) : String := entry.toJson.format

/-- The entry that a JSON text describes. -/
def parse? (text : String) : Option ObjectEntry := (Json.parse? text).bind ofJson?

end ObjectEntry

namespace RetentionMode

/-- The JSON text of a mode. -/
def format (mode : RetentionMode) : String := (Json.Value.ofString mode.name).format

/-- The mode of a name. -/
def ofName? (name : String) : Option RetentionMode :=
  if name = governance.name then some governance
  else if name = compliance.name then some compliance
  else none

/-- The mode that a JSON text names: by its name, or by an object with nothing under its name. -/
def parse? (text : String) : Option RetentionMode :=
  match Json.parse? text with
  | some (.text (some name)) => ofName? name
  | some (.object [(some name, .null)]) => ofName? name
  | _ => none

end RetentionMode

end ObjectStore
