import ObjectStore.Client.Request
import ObjectStore.Client.Response
import ObjectStore.Http.Link
import ObjectStore.Listing.Session
import ObjectStore.Removal.Consumer

/-!
# The calls of a client

A call puts a request together, sends it over the link, and reads what comes of it.
A request that cannot be put together is not sent. A listing asks for page after page
and a removal for batch after batch: each call of the lister or of the deleter is a
call of the client, at the link where the exchanges of the calls before it are over.
-/

namespace ObjectStore

/-- A call: it has a result, and may use the link. -/
abbrev Call (α : Type) := Http.Link → Except Error α × Http.Link

namespace Call

/-- The result of a call, given what came of its request. -/
def result {α : Type} (read : Http.Response → Except Error α) :
    Except CallFailure Http.Response → Except Error α
  | .ok response => read response
  | .error failure => .error failure.toError

/-- Send a request, if it can be put together, and read what comes of it. -/
def perform {α : Type} (request : Except CallFailure Http.Request)
    (read : Http.Response → Except Error α) : Call α := fun link =>
  match request with
  | .ok request =>
    let (outcome, link) := link.exchange request
    (result read outcome, link)
  | .error failure => (.error failure.toError, link)

/-- A reading whose failures are failures of the call. -/
def reading {α : Type} (read : Http.Response → Except CallFailure α) (response : Http.Response) :
    Except Error α :=
  (read response).mapError CallFailure.toError

end Call

namespace Client

open Call (perform reading)

/-- The content of an object. -/
def getObject (c : Client) (bucket key : String) (options : ReadOptions) : Call (List UInt8) :=
  perform (c.contentRequest bucket key options) (·.content)

/-- What the store says of an object. -/
def statObject (c : Client) (bucket key : String) (options : ReadOptions) : Call ObjectMetadata :=
  perform (c.metadataRequest bucket key options) (reading (·.metadata key))

/-- Store an object. Tags beyond the limits are an error of the caller, and nothing is sent. -/
def putObject (c : Client) (bucket key : String) (body : List UInt8) (options : WriteOptions) :
    Call UploadReceipt := fun link =>
  match options.validate with
  | .ok () => perform (c.uploadRequest bucket key body options) (reading (·.receipt)) link
  | .error e => (.error e, link)

/-- How long an object is locked. -/
def getRetention (c : Client) (bucket key : String) (versionId : Option String) : Call Retention :=
  perform (c.retentionRequest bucket key versionId) (reading (·.retention))

/-- Remove an object. -/
def removeObject (c : Client) (bucket key : String) (versionId : Option String) : Call Unit :=
  perform (c.removalRequest bucket key versionId) (reading fun r => r.requireBody.map fun _ => ())

/-- A page of a listing. -/
def listPage (c : Client) (bucket : String) (options : ListOptions) (token : Option String) :
    Call Listing.Page :=
  perform (c.pageRequest bucket options token) (·.page bucket)

/-- Remove a batch of objects; those that were not removed. -/
def deleteBatch (c : Client) (bucket : String) (ids : List ObjectId) (options : RemoveOptions) :
    Call (List Removal.Failure) :=
  perform (c.batchRequest bucket ids options) (reading (·.failures))

/-- What a lister answers with, given the result of its call. -/
def pageReply : Except Error Listing.Page → Listing.Reply
  | .ok page => .page page
  | .error e => .failed e

/-- The lister that asks for page after page over a link, in one exchange each. -/
def lister (c : Client) (link : Http.Link) : Listing.Lister := fun n call =>
  pageReply (c.listPage call.bucket call.options call.token (link.skip n)).1

/-- A link after calls for pages, made one after the other. -/
def afterPages (c : Client) (calls : List Listing.PageCall) (link : Http.Link) : Http.Link :=
  calls.foldl (fun link call => (c.listPage call.bucket call.options call.token link).2) link

/-- What a deleter answers with, given the result of its call. -/
def batchAnswer : Except Error (List Removal.Failure) → Removal.Answer
  | .ok failures => .failures failures
  | .error e => .failed e

/-- The deleter that removes batch after batch over a link, in one exchange each. -/
def deleter (c : Client) (bucket : String) (options : RemoveOptions) (link : Http.Link) :
    Removal.Deleter := fun n ids =>
  batchAnswer (c.deleteBatch bucket ids options (link.skip n)).1

/-- A link after calls for batches, made one after the other. -/
def afterBatches (c : Client) (bucket : String) (options : RemoveOptions)
    (batches : List (List ObjectId)) (link : Http.Link) : Http.Link :=
  batches.foldl (fun link batch => (c.deleteBatch bucket batch options link).2) link

/-- Let a listing go on until `limit` records can be read, or it has ended. -/
def awaitRecords (lister : Listing.Lister) (limit : Nat) : Nat → Listing.Stream → Listing.Stream
  | 0, s => s
  | steps + 1, s =>
    if (Listing.Session.collect limit s.unread).isSome || !s.producer.isAlive then s
    else awaitRecords lister limit steps (s.advance lister)

/--
The first `limit` records of a bucket. Each page but the last uses up a reply, so that the
listing ends within two moves more than there are replies. A page that is asked for
while the last records are read is still answered.
-/
def listObjects (c : Client) (bucket : String) (options : ListOptions) (limit : Nat) :
    Call (List ObjectEntry) := fun link =>
  let s := awaitRecords (c.lister link) limit (link.replies.length + 2)
    (.start bucket options)
  let records := (Listing.Session.collect limit s.unread).getD
    (.ok (Listing.Session.entries s.unread))
  (records, c.afterPages s.requests link)

end Client

end ObjectStore
