import ObjectStore.Config
import ObjectStore.Listing.Options
import ObjectStore.Removal.Options

/-!
# Clients

A client knows where on its host the store lies and how much to ask of it in one
call. It is made for a URL, with default settings, or from a configuration, which
must be valid.
-/

namespace ObjectStore

/-- Whether a character ends the host of a URL. -/
def endsHost (c : Char) : Bool := c = '/' || c = '?' || c = '#'

/-- The path of a URL, without the slash at its end. -/
def pathOfUrl (url : String) : String :=
  let afterScheme := (url.toList.dropWhile (· ≠ ':')).drop 3
  let path := (afterScheme.dropWhile (!endsHost ·)).takeWhile fun c => c ≠ '?' && c ≠ '#'
  String.ofList (if path.getLast? = some '/' then path.dropLast else path)

/-- What a client knows of its store. -/
structure Client where
  /-- The path under which the store lies on its host. -/
  basePath : String := ""
  /-- Settings of the calls. -/
  transfer : Transfer := {}
  deriving DecidableEq, Repr

namespace Client

/-- A client of the store at a URL. -/
def ofUrl (url : String) : Client := { basePath := pathOfUrl url }

/--
A client as it is configured. How often a request is tried, once more than the configured number
of retries, is for the link to keep. That 4294967295 and one more are beyond 32 bits is left out.
-/
def ofConfig (config : Config) : Except Error Client := do
  config.validate
  return { basePath := pathOfUrl config.endpoint.url, transfer := config.transfer.getD {} }

/-- Options for listing the keys that begin in some way. -/
def listOptions (c : Client) (keyPrefix : String) : ListOptions := .ofTransfer keyPrefix c.transfer

/-- Options for removing objects. -/
def removeOptions (c : Client) : RemoveOptions := .ofTransfer c.transfer

end Client

end ObjectStore
