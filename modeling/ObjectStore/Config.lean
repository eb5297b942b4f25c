import ObjectStore.Error
import ObjectStore.Text.Quoted
import ObjectStore.Transfer

/-!
# Configuration

Where the store is and how to reach it, how much to ask of it in one call, and what
to log. A configuration may hold any texts and sizes; `validate` says which ones
the library can work with, and names the first fault.
-/

namespace ObjectStore

/-- Where the store is, and who asks. -/
structure Endpoint where
  /-- The URL of the store. -/
  url : String
  /-- The region. -/
  region : String := "us-east-1"
  /-- The identifier of the key with which requests are signed. -/
  accessKeyId : Option String := none
  /-- The key with which requests are signed. -/
  secretAccessKey : Option String := none
  /-- Whether the bucket stands in the path of a URL rather than in its host. -/
  forcePathStyle : Bool := true
  deriving DecidableEq, Repr

/-- What to log, and how. -/
structure LogSettings where
  /-- Which events are logged, as directives. -/
  level : String := "info"
  /-- The layout of the log. -/
  format : String := "pretty"
  deriving DecidableEq, Repr

/-- A configuration; a section that is missing stands for its defaults. -/
structure Config where
  /-- Where the store is. -/
  endpoint : Endpoint
  /-- Settings of the calls. -/
  transfer : Option Transfer := none
  /-- What to log. -/
  logging : Option LogSettings := none
  deriving DecidableEq, Repr

/-- Whether a text begins with another. -/
def beginsWith (start s : String) : Bool := start.toList.isPrefixOf s.toList

/-- A fault of a configuration. -/
def invalid (detail : String) : Except Error Unit := .error (.invalidConfig detail)

namespace Endpoint

/-- The rules for an endpoint. -/
def validate (e : Endpoint) : Except Error Unit :=
  if !beginsWith "http://" e.url && !beginsWith "https://" e.url then
    invalid ("Endpoint URL must start with http:// or https://, got " ++ Text.Quoted.quote e.url)
  else if e.accessKeyId.isSome ≠ e.secretAccessKey.isSome then
    .error (.config "access_key_id and secret_access_key must be set together")
  else .ok ()

end Endpoint

namespace Transfer

/-- The rule for a number of objects in one call. -/
def validateSize (name : String) (n : Nat) : Except Error Unit :=
  if 1 ≤ n ∧ n ≤ maxKeysPerCall then .ok ()
  else invalid (name ++ " must be between 1 and " ++ toString maxKeysPerCall)

/-- The rules for settings of the calls. -/
def validate (t : Transfer) : Except Error Unit := do
  validateSize "list_page_size" t.listPageSize
  validateSize "delete_batch_size" t.deleteBatchSize
  if t.timeout = 0 then invalid "timeout must be greater than 0" else .ok ()

end Transfer

namespace LogSettings

/-- The rule for settings of the log. -/
def validate (l : LogSettings) : Except Error Unit :=
  if l.format = "pretty" ∨ l.format = "compact" then .ok ()
  else invalid
    ("Unknown log format " ++ Text.Quoted.quote l.format ++ " (expected pretty or compact)")

end LogSettings

namespace Config

/-- The rules for a configuration, in order: the first one broken is reported. -/
def validate (c : Config) : Except Error Unit := do
  c.endpoint.validate
  c.transfer.forM Transfer.validate
  c.logging.forM LogSettings.validate

end Config

end ObjectStore
