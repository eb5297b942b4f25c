import ObjectStore.Proofs.Client.Documents
import ObjectStore.Proofs.Client.Exchanges
import ObjectStore.Proofs.Removal.Attempts
import ObjectStore.Proofs.Xml.RoundTrip

/-!
# A batch, from its request to its answer

A request to remove a batch names the objects of the batch, each with its version, in their
order. The answer has the failures that the store reports, or the call failed. Of the ways
in which a call fails only two mean that the store was not reached, whatever the status of a
response says.
-/

namespace ObjectStore.Client

open ObjectStore.Http (Link Request)
open ObjectStore.Http.Response (failureOf?)
open ObjectStore.Removal (Attempt Failure)

/-! ## Requests -/

/-- The object that an element of a batch names. -/
def objectOf? (content : List Xml.Node) : Option ObjectId := do
  let key ← (Xml.optional? some "Key" content).join
  return ⟨key, ← Xml.optional? some "VersionId" content⟩

/-- The objects that a document asks to remove. -/
def objectsOf? : Xml.Node → Option (List ObjectId)
  | .element name _ content =>
    if name = "Delete" then (Xml.children "Object" content).mapM objectOf? else none
  | .text _ => none

/-- The element of a batch that names an object, as it is read back. -/
def memberRead (id : ObjectId) : Xml.Node :=
  .element "Object" [] (.element "Key" [] (Xml.contentOf id.key) ::
    id.versionId.toList.map fun versionId => .element "VersionId" [] (Xml.contentOf versionId))

/-- The document for a batch, as it is read back. -/
def documentRead (ids : List ObjectId) : Xml.Node :=
  .element "Delete" [("xmlns", documentNamespace)] (ids.map memberRead ++ [.field "Quiet" "true"])

theorem print_batchMember (id : ObjectId) : (batchMember id).print = (memberRead id).print := by
  rcases id with ⟨key, _ | versionId⟩ <;>
    simp [batchMember, memberRead, Xml.Node.print, Xml.Node.printAll, Xml.Node.print_field]

theorem format_batchDocument (ids : List ObjectId) :
    (batchDocument ids).format = (documentRead ids).format := by
  have hall : Xml.Node.printAll (ids.map batchMember ++ [.field "Quiet" "true"]) =
      Xml.Node.printAll (ids.map memberRead ++ [.field "Quiet" "true"]) := by
    induction ids with
    | nil => rfl
    | cons id ids ih =>
      simp only [List.map_cons, List.cons_append, Xml.Node.printAll, print_batchMember, ih]
  rw [Xml.Node.format, Xml.Node.format, batchDocument, documentRead, Xml.Node.print,
    Xml.Node.print, hall]

theorem isTidy_documentRead (ids : List ObjectId) : Xml.IsTidy [documentRead ids] := by
  have hmember (id : ObjectId) {rest : List Xml.Node} (hrest : Xml.IsTidy rest) :
      Xml.IsTidy (memberRead id :: rest) := by
    refine .element (Xml.isName_iff.mpr (by decide)) (by decide) (by simp) ?_ hrest
    refine .element (Xml.isName_iff.mpr (by decide)) (by decide) (by simp)
      (Xml.isTidy_contentOf _) ?_
    cases id.versionId with
    | none => exact .nil
    | some versionId =>
      exact .element (Xml.isName_iff.mpr (by decide)) (by decide) (by simp)
        (Xml.isTidy_contentOf _) .nil
  have hmembers : Xml.IsTidy (ids.map memberRead ++ [.field "Quiet" "true"]) := by
    induction ids with
    | nil =>
      exact .element (Xml.isName_iff.mpr (by decide)) (by decide) (by simp)
        (.text (by decide) (by simp) .nil) .nil
    | cons id ids ih => exact hmember id ih
  refine .element (Xml.isName_iff.mpr (by decide)) (by decide) ?_ hmembers .nil
  rw [List.forall_mem_singleton]
  exact Xml.isName_iff.mpr (by decide)

/-- The document for a batch names the objects of the batch, in their order. -/
theorem objectsOf?_documentRead (ids : List ObjectId) :
    objectsOf? (documentRead ids) = some ids := by
  let contentRead (id : ObjectId) : List Xml.Node :=
    .element "Key" [] (Xml.contentOf id.key) ::
      id.versionId.toList.map fun versionId => .element "VersionId" [] (Xml.contentOf versionId)
  have hmember (id : ObjectId) : objectOf? (contentRead id) = some id := by
    rcases id with ⟨key, _ | versionId⟩ <;>
      simp [contentRead, objectOf?, Xml.optional?, Xml.children, Xml.textOf?_contentOf]
  have hobjects : Xml.children "Object" (ids.map memberRead ++ [.field "Quiet" "true"]) =
      ids.map contentRead := by
    induction ids with
    | nil => rfl
    | cons id ids ih => exact congrArg (_ :: ·) ih
  rw [documentRead, objectsOf?, if_pos rfl, Xml.mapM_eq_some_iff, hobjects, List.map_map]
  exact List.map_congr_left fun id _ => hmember id

/-- A request removes a batch: what it carries. The objects are read from the text of its body. -/
structure CarriesBatch (c : Client) (request : Request) (bucket : String)
    (batch : List ObjectId) : Prop where
  /-- The body is to be processed. -/
  method_eq : request.method = .post
  /-- It is about removals from the bucket. -/
  target : ∃ segment, request.target = c.basePath ++ "/" ++ segment ++ "/" ++ "?" ++ "delete" ∧
    Text.Percent.decode? segment.toList = some bucket
  /-- The document in the body names the objects of the batch, with their versions, in order. -/
  body : ((Text.ofUtf8? request.body).bind Xml.parse?).bind objectsOf? = some batch

/-- What is put together for a batch carries the batch. -/
theorem carriesBatch_of_batchRequest {c : Client} {bucket : String} {batch : List ObjectId}
    {options : RemoveOptions} {request : Request}
    (h : c.batchRequest bucket batch options = .ok request) :
    c.CarriesBatch request bucket batch := by
  rw [batchRequest, bucketTarget] at h
  cases hname : requireName bucket with
  | error failure =>
    rw [hname] at h
    cases h
  | ok _ =>
    rw [hname] at h
    cases h
    refine ⟨rfl, ⟨Text.Percent.encode bucket, ?_, Text.Percent.decode?_encode bucket⟩, ?_⟩
    · simp only [target, bucketPath, String.append_assoc]
      rfl
    · have hparse : Xml.parse? (documentRead batch).format = some (documentRead batch) :=
        Xml.parse?_format (isTidy_documentRead batch)
      rw [Text.ofUtf8?_utf8, Option.bind_some, format_batchDocument, hparse, Option.bind_some,
        objectsOf?_documentRead]

/-- A request for a batch can be put together for every bucket that has a name. -/
theorem map_batchRequest (c : Client) (bucket : String) (batch : List ObjectId)
    (options : RemoveOptions) :
    (c.batchRequest bucket batch options).map (fun _ => ()) = requireName bucket := by
  rw [batchRequest, bucketTarget]
  cases requireName bucket <;> rfl

/-! ## Answers -/

/-- What came of the call with this number, for a batch. -/
def batchOutcome (c : Client) (bucket : String) (options : RemoveOptions) (link : Link)
    (number : Nat) (batch : List ObjectId) : Except CallFailure (List Failure) := do
  let request ← c.batchRequest bucket batch options
  (← link.outcome number request).failures

/-- What is reported of a batch: the failures of the answer, or each object if the call failed. -/
def reportOf (batch : List ObjectId) : Except CallFailure (List Failure) → List Failure
  | .ok failures => failures
  | .error failure => batch.map fun id =>
      { key := id.key, versionId := id.versionId, cause := failure.toError.message }

/-- What an element of an answer tells of an object, whatever else it holds. -/
structure TellsOf (element : List Xml.Node) (failure : Failure) : Prop where
  /-- The key; it may be missing. -/
  key : ∃ key?, Xml.optional? some "Key" element = some key? ∧ failure.key = key?.getD ""
  /-- The version. -/
  versionId : Xml.optional? some "VersionId" element = some failure.versionId
  /-- The code and the message, as far as there are such. -/
  cause : ∃ code? message?, Xml.optional? some "Code" element = some code? ∧
    Xml.optional? some "Message" element = some message? ∧
    failure.cause = if code? = none ∧ message? = none then "unknown error"
      else ": ".intercalate (code?.toList ++ message?.toList)

theorem tellsOf_of_failureOf? {element : List Xml.Node} {failure : Failure}
    (h : failureOf? element = some failure) : TellsOf element failure := by
  simp only [failureOf?, Option.bind_eq_bind, Option.bind_eq_some_iff] at h
  obtain ⟨key?, hkey, versionId, hversion, code?, hcode, message?, hmessage, hfailure⟩ := h
  cases hfailure
  refine ⟨⟨key?, hkey, rfl⟩, hversion, code?, message?, hcode, hmessage, ?_⟩
  cases code? <;> cases message? <;> simp [Http.Response.cause]

/-- A call that could not be delivered, or was not answered in time. -/
def IsUnreached (outcome : Except CallFailure (List Failure)) : Prop :=
  outcome = .error .dispatch ∨ outcome = .error .timeout

instance (outcome : Except CallFailure (List Failure)) : Decidable (IsUnreached outcome) :=
  inferInstanceAs (Decidable (_ ∨ _))

variable {c : Client} {bucket : String} {options : RemoveOptions} {link : Link} {number : Nat}
  {batch : List ObjectId}

/-- The deleter answers with what came of the call. -/
theorem deleter_eq (c : Client) (bucket : String) (options : RemoveOptions) (link : Link)
    (number : Nat) (batch : List ObjectId) : c.deleter bucket options link number batch =
      batchAnswer ((c.batchOutcome bucket options link number batch).mapError
        CallFailure.toError) := by
  rw [deleter, deleteBatch, Call.perform_fst, batchOutcome]
  cases c.batchRequest bucket batch options with
  | error failure => rfl
  | ok request =>
    simp only [Except.bind, bind, Link.outcome]
    cases ((link.skip number).exchange request).1 <;> rfl

/-- The failures of an answer are what the document of a response tells, in its order. -/
theorem exists_of_batchOutcome {failures : List Failure}
    (h : c.batchOutcome bucket options link number batch = .ok failures) :
    ∃ request response content, c.batchRequest bucket batch options = .ok request ∧
      link.outcome number request = .ok response ∧
      response.document "DeleteResult" = .ok content ∧
      List.Forall₂ TellsOf (Xml.children "Error" content) failures := by
  obtain ⟨request, hrequest, h⟩ := bind_eq_ok_iff.mp h
  obtain ⟨response, hresponse, h⟩ := bind_eq_ok_iff.mp h
  obtain ⟨content, hcontent, hread⟩ := Http.Response.record_eq_ok_iff.mp h
  exact ⟨request, response, content, hrequest, hresponse, hcontent,
    (Xml.mapM_eq_some_iff_forall₂.mp hread).imp fun _ _ => tellsOf_of_failureOf?⟩

/-- For no other bucket can a request be put together, and nothing else is wrong with it then. -/
theorem batchRequest_of_error {failure : CallFailure}
    (h : c.batchRequest bucket batch options = .error failure) : failure = .construction := by
  have hname := c.map_batchRequest bucket batch options
  rw [h, requireName] at hname
  split at hname
  · cases hname
    rfl
  · cases hname

/-- A response, whatever it says, is not an unreached store. -/
theorem isUnreached_batchOutcome_iff :
    IsUnreached (c.batchOutcome bucket options link number batch) ↔
      ∃ request, c.batchRequest bucket batch options = .ok request ∧
        (link.outcome number request = .error .dispatch ∨
          link.outcome number request = .error .timeout) := by
  rw [batchOutcome]
  cases hrequest : c.batchRequest bucket batch options with
  | error failure =>
    rw [batchRequest_of_error hrequest]
    simp [IsUnreached, bind, Except.bind]
  | ok request =>
    simp only [Except.ok.injEq, exists_eq_left', bind, Except.bind]
    cases link.outcome number request with
    | error failure => simp [IsUnreached]
    | ok response =>
      cases hread : response.failures with
      | error failure =>
        rcases Http.Response.record_of_error hread with rfl | rfl <;> simp [IsUnreached, hread]
      | ok failures => simp [IsUnreached, hread]

/-! ## What is sent -/

/-- A call for a batch is a call of the client, at the link after calls for earlier batches. -/
theorem deleter_eq_deleteBatch (c : Client) (bucket : String) (options : RemoveOptions)
    (link : Link) (earlier : List (List ObjectId)) (batch : List ObjectId) :
    c.deleter bucket options link earlier.length batch = batchAnswer
      (c.deleteBatch bucket batch options (c.afterBatches bucket options earlier link)).1 := by
  have hnamed : ∀ other ∈ earlier, (c.batchRequest bucket other options).map (fun _ => ()) =
      (c.batchRequest bucket batch options).map (fun _ => ()) := by
    intro other _
    rw [map_batchRequest, map_batchRequest]
  have hresult := Call.perform_foldl_fst (fun batch => c.batchRequest bucket batch options)
    (fun _ => Call.reading (·.failures)) link hnamed
  exact congrArg batchAnswer hresult.symm

/-- The requests for batches are sent one after the other, as far as the store gets them. -/
theorem exists_sent_afterBatches (c : Client) (bucket : String) (options : RemoveOptions)
    (link : Link) (batches : List (List ObjectId)) :
    ∃ sent : List Request,
      (c.afterBatches bucket options batches link).sent = link.sent ++ sent ∧
      (requireName bucket = .ok () → sent.length = min batches.length link.room) ∧
      (requireName bucket ≠ .ok () → sent = []) ∧
      ∀ (number : Nat) request, sent[number]? = some request →
        ∃ batch, batches[number]? = some batch ∧
          c.batchRequest bucket batch options = .ok request ∧
          c.CarriesBatch request bucket batch := by
  have hname : ∀ batch ∈ batches,
      (c.batchRequest bucket batch options).map (fun _ => ()) = requireName bucket :=
    fun batch _ => c.map_batchRequest bucket batch options
  obtain ⟨sent, hsent, hnamed, hunnamed, hrequests⟩ := Call.exists_sent_foldl_perform
    (fun batch => c.batchRequest bucket batch options)
    (fun _ => Call.reading (·.failures)) link hname
  refine ⟨sent, hsent, hnamed, hunnamed, fun number request hrequest => ?_⟩
  obtain ⟨batch, hbatch, hrequest⟩ := hrequests number request hrequest
  exact ⟨batch, hbatch, hrequest, carriesBatch_of_batchRequest hrequest⟩

/-! ## Attempts -/

variable {outcome : Except CallFailure (List Failure)}

/-- Only an unreached store ends a run. -/
theorem isLast_batchAnswer_iff :
    (⟨batch, batchAnswer (outcome.mapError CallFailure.toError)⟩ : Attempt).isLast = true ↔
      IsUnreached outcome := by
  cases outcome with
  | ok failures => simp [batchAnswer, Except.mapError, Attempt.isLast, IsUnreached]
  | error failure =>
    simp only [batchAnswer, Except.mapError, Attempt.isLast, IsUnreached, Except.error.injEq]
    exact failure.isTransport_toError

theorem reported_batchAnswer :
    (⟨batch, batchAnswer (outcome.mapError CallFailure.toError)⟩ : Attempt).reported =
      reportOf batch outcome := by
  cases outcome <;> rfl

end ObjectStore.Client
