import ObjectStore.ByteRange
import ObjectStore.Encryption
import ObjectStore.Query
import ObjectStore.Time.HttpDate

/-!
# Options of a read

The options of reading an object or its metadata. Headers and query parameters
of the caller accumulate; what is sent is projected from all the options at the
end, so that the headers of the encryption, of the replication and of the
checksum win in whatever order the options were given.
-/

namespace ObjectStore

/-- What a read of an object is to send. -/
structure ReadOptions where
  /-- Headers of the caller. -/
  headers : Headers := ∅
  /-- Query parameters of the caller. -/
  params : Query := ∅
  /-- The encryption of the object; a read announces only a key of the caller. -/
  encryption : Option Encryption := none
  /-- The version to read. -/
  versionId : Option String := none
  /-- The part to read, from 1. -/
  partNumber : Option Nat := none
  /-- Whether the store is to send its checksums. -/
  checksum : Bool := false
  /-- What marks a read that one site passes on to another. -/
  sourceProxy : Option String := none
  deriving DecidableEq, Inhabited

namespace ReadOptions

/-- Send a header, in place of the value it had. -/
def setHeader (o : ReadOptions) (name value : String) : ReadOptions :=
  { o with headers := o.headers.set name value }

/-- Send `value` as the only value of a query key. A key that is not supported changes nothing. -/
def setParam (o : ReadOptions) (key value : String) : ReadOptions :=
  if QueryKey.isSupported key then { o with params := o.params.set key value } else o

/-- Send one more value of a query key. A key that is not supported changes nothing. -/
def addParam (o : ReadOptions) (key value : String) : ReadOptions :=
  if QueryKey.isSupported key then { o with params := o.params.add key value } else o

/-- A tag in the form that a condition takes. -/
def quotedTag (etag : String) : String := "\"" ++ etag ++ "\""

/-- Set a condition on the tag; there is no empty tag. -/
def setTagCondition (o : ReadOptions) (name etag : String) : Except Error ReadOptions :=
  if etag.isEmpty then .error (.invalidArgument "ETag cannot be empty")
  else .ok (o.setHeader name (quotedTag etag))

/-- Read only if the object has this tag. -/
def setMatch (o : ReadOptions) (etag : String) : Except Error ReadOptions :=
  o.setTagCondition HeaderName.ifMatch etag

/-- Read only if the object has another tag. -/
def setMatchExcept (o : ReadOptions) (etag : String) : Except Error ReadOptions :=
  o.setTagCondition HeaderName.ifNoneMatch etag

/-- Set a condition on the date of the last change; the start of 1970 stands for no date. -/
def setDateCondition (o : ReadOptions) (name subject : String) (time : Time.Instant) :
    Except Error ReadOptions :=
  if time = .epoch then .error (.invalidArgument (subject ++ " cannot be empty"))
  else .ok (o.setHeader name (Time.HttpDate.format time))

/-- Read only if the object changed after this instant. -/
def setModifiedSince (o : ReadOptions) (time : Time.Instant) : Except Error ReadOptions :=
  o.setDateCondition HeaderName.ifModifiedSince "Modified since" time

/-- Read only if the object did not change after this instant. -/
def setUnmodifiedSince (o : ReadOptions) (time : Time.Instant) : Except Error ReadOptions :=
  o.setDateCondition HeaderName.ifUnmodifiedSince "Unmodified since" time

/-- Read only a part of the object. -/
def setRange (o : ReadOptions) (first last : Int) : Except Error ReadOptions :=
  match ByteRange.ofBounds? first last with
  | some range => .ok (o.setHeader HeaderName.range range.format)
  | none => .error <| .invalidArgument <|
      "Invalid range specified: start=" ++ toString first ++ " end=" ++ toString last

/-- The headers of the encryption that a read announces. -/
def encryptionHeaders (o : ReadOptions) : List (String × String) :=
  match o.encryption with
  | some (.customerKey key) => (Encryption.customerKey key).headers
  | _ => []

/-- The headers of the options that win over headers of the caller, a later one over an earlier. -/
def ownHeaders (o : ReadOptions) : List (String × String) :=
  o.encryptionHeaders
    ++ o.sourceProxy.toList.map (HeaderName.sourceProxyRequest, ·)
    ++ (if o.checksum then [(HeaderName.checksumMode, "ENABLED")] else [])

/-- The headers to send. -/
def header (o : ReadOptions) : Headers :=
  o.headers.setAll o.ownHeaders

/-- The query parameters that the options themselves stand for. -/
def ownParams (o : ReadOptions) : Query :=
  let version := match o.versionId with
    | some id => if id.isEmpty then ∅ else Query.set ∅ "versionId" id
    | none => ∅
  match o.partNumber with
  | some n => if n = 0 then version else version.set "partNumber" (toString n)
  | none => version

/-- The query parameters to send: those of the options, then those of the caller. -/
def query (o : ReadOptions) : Query :=
  o.ownParams.addAll o.params.pairs

end ReadOptions

end ObjectStore
