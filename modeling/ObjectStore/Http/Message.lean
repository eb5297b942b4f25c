import ObjectStore.Http.Fields
import ObjectStore.Query
import ObjectStore.Text.Bytes
import ObjectStore.Text.Decimal

/-!
# Requests and responses

A request carries headers and query parameters of the options on top of its own:
the headers replace those of the same name, and the parameters come after its own.
A response declares how long its body is; a body that is shorter has been cut off.
-/

namespace ObjectStore.Http

/-- What a request asks for. -/
inductive Method where
  /-- The resource. -/
  | get
  /-- The header fields of the resource. -/
  | head
  /-- To store a resource. -/
  | put
  /-- To process the body. -/
  | post
  /-- To remove the resource. -/
  | delete
  deriving DecidableEq, Repr

/-- The word for a method. -/
def Method.word : Method → String
  | get => "GET"
  | head => "HEAD"
  | put => "PUT"
  | post => "POST"
  | delete => "DELETE"

/-- A request. -/
structure Request where
  /-- What is asked for. -/
  method : Method
  /-- The path of the resource, and the query parameters. -/
  target : String
  /-- The header fields. -/
  fields : Fields := ∅
  /-- The body. -/
  body : List UInt8 := []
  deriving DecidableEq

namespace Request

/-- A target with further query parameters. -/
def extendTarget (target : String) (query : Query) : String :=
  if query.isEmpty then target
  else target ++ (if target.toList.contains '?' then "&" else "?") ++ query.encode

/-- A request with headers and query parameters on top of its own. -/
def project (r : Request) (headers : Headers) (query : Query) : Request :=
  { r with fields := r.fields.project headers, target := extendTarget r.target query }

end Request

/-- A response. -/
structure Response where
  /-- The status. -/
  status : Nat
  /-- The header fields. -/
  fields : Fields
  /-- As much of the body as arrived. -/
  body : List UInt8
  deriving DecidableEq

namespace Response

/-- Whether the request was fulfilled. -/
def isSuccess (r : Response) : Bool := 200 ≤ r.status && r.status < 300

/-- The length that the body is to have. -/
def declaredLength (r : Response) : Nat :=
  ((r.fields.get? "content-length").bind (Text.Decimal.nat? ·.toList)).getD r.body.length

/-- The whole body, `none` if it was cut off. -/
def wholeBody? (r : Response) : Option (List UInt8) :=
  if r.body.length < r.declaredLength then none else some (r.body.take r.declaredLength)

end Response

end ObjectStore.Http
