/-!
# What can go wrong

`Error` is the one error type of the library. Its constructors are the classes a
caller can react to; each carries the detail that its message ends with. The
class `transport` is set apart: it alone means that the store was not reached,
so that further calls are pointless. `CallFailure` lists the ways in which one
call to the store fails, and `CallFailure.toError` classifies them.
-/

namespace ObjectStore

/-- A failed operation: its class, and the detail for the reader of the message. -/
inductive Error where
  /-- The configuration cannot be used. -/
  | config (detail : String)
  /-- There is no configuration file at the path. -/
  | configNotFound (path : String)
  /-- The configuration is not in the form it must have. -/
  | invalidConfig (detail : String)
  /-- The caller supplied a value that has no meaning here. -/
  | invalidArgument (detail : String)
  /-- The store was not reached, or the connection broke. -/
  | transport (detail : String)
  /-- The store was reached and the operation as a whole failed. -/
  | operation (detail : String)
  /-- The store has no such object. -/
  | notFound (detail : String)
  /-- The operating system refused an access to a file. -/
  | io (detail : String)
  /-- A value has no written form. -/
  | serialization (detail : String)
  /-- A text is not the written form of a value. -/
  | deserialization (detail : String)
  /-- Anything else, described by its whole message. -/
  | other (message : String)
  deriving DecidableEq, Repr, Inhabited

namespace Error

/-- The message: what failed, then the detail. -/
def message : Error → String
  | config detail => "Configuration error: " ++ detail
  | configNotFound path => "Configuration file not found: " ++ path
  | invalidConfig detail => "Invalid configuration format: " ++ detail
  | invalidArgument detail => "Invalid argument: " ++ detail
  | transport detail => "Transport failure: " ++ detail
  | operation detail => "S3 operation failed: " ++ detail
  | notFound detail => "Not found: " ++ detail
  | io detail => "IO error: " ++ detail
  | serialization detail => "Serialization error: " ++ detail
  | deserialization detail => "Deserialization error: " ++ detail
  | other message => message

/-- Whether the store is out of reach, as opposed to having refused a request. -/
def isTransport : Error → Bool
  | transport _ => true
  | _ => false

theorem isTransport_iff {error : Error} :
    error.isTransport = true ↔ ∃ detail, error = transport detail := by
  cases error <;> simp [isTransport]

end Error

/-- The ways in which a call to the store fails. -/
inductive CallFailure where
  /-- The request could not be put together. -/
  | construction
  /-- A part of the request was left without a field that it must have. -/
  | missingField (field owner : String)
  /-- No answer came within the time allowed. -/
  | timeout
  /-- The request could not be delivered, or the connection ended before an answer. -/
  | dispatch
  /-- The store answered with this status, and the answer could not be read. -/
  | response (status : Nat)
  /-- The store answered with this status, and the answer is a refusal. -/
  | service (status : Nat)
  deriving DecidableEq, Repr

namespace CallFailure

/-- The wording of a failed call. -/
def message : CallFailure → String
  | construction => "failed to construct request"
  | missingField field owner =>
    field ++ " was missing: " ++ field ++ " was not specified but it is required when building " ++ owner
  | timeout => "request has timed out"
  | dispatch => "dispatch failure"
  | response _ => "response error"
  | service _ => "service error"

/-- The status of the answer, where there was one. -/
def status? : CallFailure → Option Nat
  | response status => some status
  | service status => some status
  | _ => none

/--
The class of a failed call. An undelivered or unanswered request is a transport failure
whatever else is known; of the answered ones, status 404 says that the object is absent.
-/
def toError (failure : CallFailure) : Error :=
  match failure with
  | dispatch => .transport failure.message
  | timeout => .transport failure.message
  | missingField _ _ => .invalidArgument failure.message
  | _ => if failure.status? = some 404 then .notFound failure.message else .operation failure.message

/-- The stop condition of a run is visible in the kind of failure alone. -/
theorem isTransport_toError (failure : CallFailure) :
    failure.toError.isTransport = true ↔ failure = dispatch ∨ failure = timeout := by
  cases failure <;> grind [toError, Error.isTransport]

end CallFailure

end ObjectStore
