import ObjectStore.Error
import ObjectStore.Http.Message
import ObjectStore.Listing.Page
import ObjectStore.Object
import ObjectStore.Removal.Failure
import ObjectStore.Time.HttpDate
import ObjectStore.Time.Rfc3339
import ObjectStore.Xml.Reader

/-!
# Reading the responses of a store

A response answers its call if its status is one of success, and is a refusal
otherwise. The answer is in the header fields, in the body, or in a document in the
body; a document of another kind, or one with a value that cannot be read, counts
as a refusal too.

A page of a listing that claims to be followed by another one, but does not
tell how to ask for it, is an error: to take it for the last one would cut the
listing short without a word.
-/

namespace ObjectStore.Http.Response

open ObjectStore.Time (Instant HttpDate.read? Rfc3339.parseUtc?)

/-- Fail unless the request was fulfilled. -/
def requireSuccess (r : Response) : Except CallFailure Unit :=
  if r.isSuccess then .ok () else .error (.service r.status)

/-- The body of a fulfilled request. -/
def requireBody (r : Response) : Except CallFailure (List UInt8) := do
  r.requireSuccess
  match r.wholeBody? with
  | some body => return body
  | none => throw (.response r.status)

/-- The content of the document in the body, whose element must have this name. -/
def document (r : Response) (name : String) : Except CallFailure (List Xml.Node) := do
  let body ← r.requireBody
  match (Text.ofUtf8? body).bind Xml.parse? with
  | some (.element n _ content) => if n = name then return content else throw (.service r.status)
  | _ => throw (.service r.status)

/-- What the document in the body tells, as `read` takes it from its content. -/
def record {α : Type} (r : Response) (name : String) (read : List Xml.Node → Option α) :
    Except CallFailure α := do
  match read (← r.document name) with
  | some a => return a
  | none => throw (.service r.status)

/-! ## Objects -/

/-- The content of an object. A body that was cut off shows that the connection broke. -/
def content (r : Response) : Except Error (List UInt8) := do
  r.requireSuccess.mapError CallFailure.toError
  match r.wholeBody? with
  | some body => return body
  | none => throw (.transport "streaming error")

/-- The instant of a date in a header, whatever weekday it names. -/
def instantOfHeader? (date : String) : Option Instant :=
  (HttpDate.read? date.toList).map fun (_, clock) => clock.instant

/-- The date of the last change; a date that cannot be read spoils the response. -/
def lastModified (r : Response) : Except CallFailure (Option Instant) :=
  match r.fields.get? "last-modified" with
  | none => .ok none
  | some date =>
    match instantOfHeader? date with
    | some t => .ok (some t)
    | none => .error (.service r.status)

/-- The version that the response is about. -/
def versionId (r : Response) : Option String := r.fields.get? "x-amz-version-id"

/-- The tag of the content. -/
def etag (r : Response) : String := (r.fields.get? "etag").getD ""

/-- What the store says of an object. -/
def metadata (r : Response) (key : String) : Except CallFailure ObjectMetadata := do
  r.requireSuccess
  return {
    key
    size := r.declaredLength
    contentType := (r.fields.get? "content-type").getD ""
    lastModified := ← r.lastModified
    etag := r.etag
    versionId := r.versionId }

/-- What the store answers to an upload. -/
def receipt (r : Response) : Except CallFailure UploadReceipt := do
  let _ ← r.requireBody
  return ⟨r.etag, r.versionId⟩

/-- The lock that a document tells of. -/
def retentionOf? (content : List Xml.Node) : Option Retention := do
  let mode ← Xml.optional? some "Mode" content
  let lockedUntil ← Xml.optional? Rfc3339.parseUtc? "RetainUntilDate" content
  return ⟨mode.bind RetentionMode.ofWord?, lockedUntil⟩

/-- The lock of an object. -/
def retention (r : Response) : Except CallFailure Retention := r.record "Retention" retentionOf?

/-! ## Listings -/

/-- A size in bytes. -/
def size? (s : String) : Option Int64 := do
  let n ← Text.Decimal.int? s.toList
  if Int64.minValue.toInt ≤ n ∧ n ≤ Int64.maxValue.toInt then return .ofInt n else none

/-- A truth value. -/
def bool? (s : String) : Option Bool :=
  if s = "true" then some true else if s = "false" then some false else none

/-- An object of a page. -/
def entryOf? (content : List Xml.Node) : Option ObjectEntry := do
  let key ← Xml.optional? some "Key" content
  let size ← Xml.optional? size? "Size" content
  let etag ← Xml.optional? some "ETag" content
  return {
    key := key.getD ""
    size := size.getD 0
    lastModified := ← Xml.optional? Rfc3339.parseUtc? "LastModified" content
    etag := etag.getD ""
    storageClass := ← Xml.optional? some "StorageClass" content }

/-- A page as the store reports it. -/
structure PageReport where
  /-- Whether another page follows. -/
  isTruncated : Bool
  /-- What to ask for it with. -/
  nextToken : Option String
  /-- The objects. -/
  objects : List ObjectEntry
  /-- The common beginnings of keys. -/
  commonPrefixes : List String
  deriving DecidableEq, Repr

namespace PageReport

/-- The report that a document makes. A common beginning without its text is passed over. -/
def of? (content : List Xml.Node) : Option PageReport := do
  let isTruncated ← Xml.optional? bool? "IsTruncated" content
  let commonPrefixes ← (Xml.children "CommonPrefixes" content).mapM (Xml.optional? some "Prefix")
  return {
    isTruncated := isTruncated.getD false
    nextToken := ← Xml.optional? some "NextContinuationToken" content
    objects := ← (Xml.children "Contents" content).mapM entryOf?
    commonPrefixes := commonPrefixes.filterMap id }

/-- The page of a report; the next page can be asked for only with a token that is not empty. -/
def page (report : PageReport) (bucket : String) : Except Error Listing.Page :=
  let page (next : Option String) : Listing.Page :=
    { objects := report.objects, commonPrefixes := report.commonPrefixes, next }
  if report.isTruncated then
    match report.nextToken.filter (!·.isEmpty) with
    | some token => .ok (page (some token))
    | none => .error <| .operation <|
        "Listing of " ++ bucket ++ " is truncated but has no continuation token"
  else .ok (page none)

end PageReport

/-- A page of the listing of a bucket. -/
def page (r : Response) (bucket : String) : Except Error Listing.Page := do
  let report ← (r.record "ListBucketResult" PageReport.of?).mapError CallFailure.toError
  report.page bucket

/-! ## Removals -/

/-- The cause of a failure, by its code and its message. -/
def cause : Option String → Option String → String
  | some code, some message => code ++ ": " ++ message
  | some code, none => code
  | none, some message => message
  | none, none => "unknown error"

/-- An object that was not removed. -/
def failureOf? (content : List Xml.Node) : Option Removal.Failure := do
  let key ← Xml.optional? some "Key" content
  let versionId ← Xml.optional? some "VersionId" content
  let code ← Xml.optional? some "Code" content
  let message ← Xml.optional? some "Message" content
  return ⟨key.getD "", versionId, cause code message⟩

/-- The objects of a batch that were not removed. -/
def failures (r : Response) : Except CallFailure (List Removal.Failure) :=
  r.record "DeleteResult" fun content => (Xml.children "Error" content).mapM failureOf?

end ObjectStore.Http.Response
