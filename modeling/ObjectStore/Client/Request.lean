import ObjectStore.Client
import ObjectStore.Http.Message
import ObjectStore.Object
import ObjectStore.ReadOptions
import ObjectStore.Text.Classes
import ObjectStore.WriteOptions
import ObjectStore.Xml.Node

/-!
# The requests of a client

Each call of a client is one request. The bucket stands in the path, then the key.
A request cannot be put together for a bucket whose name says nothing, nor for such a
key; only the retention can be asked of a key that is all white space. Reads and
uploads carry the headers and query parameters that their options come to, on top of
their own.
-/

namespace ObjectStore.Client

open ObjectStore.Http (Request)

/-- The target of a path below the store, with query parameters as they are written. -/
def target (c : Client) (path : String) (params : List String) : String :=
  c.basePath ++ path ++ (if params.isEmpty then "" else "?" ++ "&".intercalate params)

/-- The path of a bucket. -/
def bucketPath (bucket : String) : String := "/" ++ Text.Percent.encode bucket ++ "/"

/-- A name that says something, not only white space. -/
def requireName (name : String) : Except CallFailure Unit :=
  if name.toList.all Text.isBlank then .error .construction else .ok ()

/-- The target of a bucket; every bucket has a name. -/
def bucketTarget (c : Client) (bucket : String) (params : List String) : Except CallFailure String := do
  requireName bucket
  return c.target (bucketPath bucket) params

/-- The target of an object; no object has an empty key. -/
def objectTarget (c : Client) (bucket key : String) (params : List String) :
    Except CallFailure String := do
  requireName bucket
  if key.isEmpty then throw .construction
  return c.target (bucketPath bucket ++ Text.Percent.encodePath key) params

/-- The target of an object whose key has to say something. -/
def namedTarget (c : Client) (bucket key : String) (params : List String) :
    Except CallFailure String := do
  requireName key
  c.objectTarget bucket key params

/-- The query parameter that names a version. -/
def versionParam (versionId : Option String) : List String :=
  versionId.toList.map fun id => Query.encodePair ("versionId", id)

/-- Read the content of an object. -/
def contentRequest (c : Client) (bucket key : String) (options : ReadOptions) :
    Except CallFailure Request := do
  let target ← c.namedTarget bucket key [Query.encodePair ("x-id", "GetObject")]
  let request : Request :=
    { method := .get, target, fields := .ofList [(HeaderName.checksumMode, "ENABLED")] }
  return request.project options.header options.query

/-- Read what the store has to say of an object. -/
def metadataRequest (c : Client) (bucket key : String) (options : ReadOptions) :
    Except CallFailure Request := do
  let request : Request := { method := .head, target := ← c.namedTarget bucket key [] }
  return request.project options.header options.query

/-- Store an object. -/
def uploadRequest (c : Client) (bucket key : String) (body : List UInt8) (options : WriteOptions) :
    Except CallFailure Request := do
  let target ← c.namedTarget bucket key [Query.encodePair ("x-id", "PutObject")]
  let request : Request := { method := .put, target, body }
  return request.project options.header ∅

/-- Read how long an object is locked. -/
def retentionRequest (c : Client) (bucket key : String) (versionId : Option String) :
    Except CallFailure Request := do
  return { method := .get
           target := ← c.objectTarget bucket key ("retention" :: versionParam versionId) }

/-- Remove an object. -/
def removalRequest (c : Client) (bucket key : String) (versionId : Option String) :
    Except CallFailure Request := do
  let params := Query.encodePair ("x-id", "DeleteObject") :: versionParam versionId
  return { method := .delete, target := ← c.namedTarget bucket key params }

/-- The query parameters of a page of a listing. -/
def pageParams (options : ListOptions) (token : Option String) : List (String × String) :=
  ("list-type", "2")
    :: (if options.recursive then [] else [("delimiter", "/")])
    ++ [("max-keys", toString options.pageSize), ("prefix", options.keyPrefix)]
    ++ token.toList.map ("continuation-token", ·)
    ++ options.startAfter.toList.map ("start-after", ·)

/-- Read a page of a listing. -/
def pageRequest (c : Client) (bucket : String) (options : ListOptions) (token : Option String) :
    Except CallFailure Request := do
  let target ← c.bucketTarget bucket ((pageParams options token).map Query.encodePair)
  return { method := .get, target }

/-- The namespace of the documents that are sent, a URL of the protocol. -/
def documentNamespace : String := "http" ++ "://" ++ "s3.amazonaws.com" ++ "/doc/2006-03-01/"

/-- How an object is named in a batch. -/
def batchMember (id : ObjectId) : Xml.Node :=
  .element "Object" [] (.field "Key" id.key :: id.versionId.toList.map (.field "VersionId"))

/-- The document that asks for the removal of objects; only failures are to be reported. -/
def batchDocument (ids : List ObjectId) : Xml.Node :=
  .element "Delete" [("xmlns", documentNamespace)]
    (ids.map batchMember ++ [.field "Quiet" "true"])

/-- Remove objects. -/
def batchRequest (c : Client) (bucket : String) (ids : List ObjectId) (options : RemoveOptions) :
    Except CallFailure Request := do
  let fields := (HeaderName.contentType, "application/xml")
    :: (if options.bypassGovernance then [("X-Amz-Bypass-Governance-Retention", "true")] else [])
  return {
    method := .post
    target := ← c.bucketTarget bucket ["delete"]
    fields := .ofList fields
    body := Text.utf8 (batchDocument ids).format }

end ObjectStore.Client
