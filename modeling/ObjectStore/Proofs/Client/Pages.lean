import ObjectStore.Proofs.Client.Documents
import ObjectStore.Proofs.Client.Exchanges
import ObjectStore.Proofs.Listing.Merging
import ObjectStore.Proofs.Query.Written

/-!
# A page, from its request to its reply

A request for a page carries the bucket and everything that is to be listed, and nothing else but
the token that tells the pages apart. What the store reports is the page; a report that
claims a further page without saying how to ask for it is not taken for the last one, but is
an error.
-/

namespace ObjectStore

open ObjectStore.Http (Link Request)
open ObjectStore.Http.Response (PageReport)

namespace ListOptions

theorem one_le_pageSize (o : ListOptions) : 1 ≤ o.pageSize := Int.le_max_left ..

theorem pageSize_le (o : ListOptions) : o.pageSize ≤ maxKeysPerCall :=
  Int.max_le.mpr ⟨by decide, Int.min_le_right ..⟩

end ListOptions

namespace Client

/-! ## Requests -/

/-- The query parameters of a request for a page; each key is given once at most. -/
structure AsksFor (options : ListOptions) (token : Option String)
    (params : List (String × String)) : Prop where
  /-- No key is given twice. -/
  nodup : (params.map Prod.fst).Nodup
  /-- What the keys are to begin with. -/
  keyPrefix : params.lookup "prefix" = some options.keyPrefix
  /-- The key to start after, if there is one. -/
  startAfter : params.lookup "start-after" = options.startAfter
  /-- A slash, unless keys are listed whole. -/
  delimiter : params.lookup "delimiter" = if options.recursive then none else some "/"
  /-- The size of the page. -/
  maxKeys : params.lookup "max-keys" = some (toString options.pageSize)
  /-- It is one that a call may ask for. -/
  pageSize_mem : 1 ≤ options.pageSize ∧ options.pageSize ≤ maxKeysPerCall
  /-- The token of the page. -/
  token : params.lookup "continuation-token" = token

theorem asksFor_pageParams (options : ListOptions) (token : Option String) :
    AsksFor options token (pageParams options token) := by
  have hsize := And.intro options.one_le_pageSize options.pageSize_le
  rcases options with ⟨keyPrefix, maxKeys, recursive, startAfter⟩
  refine ⟨?_, ?_, ?_, ?_, ?_, hsize, ?_⟩ <;> cases recursive <;> cases token <;>
    cases startAfter <;> simp [pageParams, List.lookup_cons]

/-- A request reads a page of a bucket: what it carries. -/
def Carries (c : Client) (request : Request) (bucket : String) (options : ListOptions)
    (token : Option String) : Prop :=
  request.method = .get ∧ ∃ segment text params,
    request.target = c.basePath ++ "/" ++ segment ++ "/" ++ "?" ++ text ∧
    Text.Percent.decode? segment.toList = some bucket ∧
    Query.decode? text = some params ∧ AsksFor options token params

/-- A request for a page can be put together for every bucket that has a name. -/
theorem pageRequest_eq (c : Client) (bucket : String) (options : ListOptions)
    (token : Option String) :
    c.pageRequest bucket options token = (requireName bucket).map fun _ =>
      { method := .get
        target := c.target (bucketPath bucket)
          ((pageParams options token).map Query.encodePair) } := by
  rw [pageRequest, bucketTarget]
  cases requireName bucket <;> rfl

/-- For no other bucket can it be put together. -/
theorem map_pageRequest (c : Client) (bucket : String) (options : ListOptions)
    (token : Option String) :
    (c.pageRequest bucket options token).map (fun _ => ()) = requireName bucket := by
  rw [pageRequest_eq]
  cases requireName bucket <;> rfl

/-- What is put together for a page carries what is asked for. -/
theorem carries_of_pageRequest {c : Client} {bucket : String} {options : ListOptions}
    {token : Option String} {request : Request}
    (h : c.pageRequest bucket options token = .ok request) :
    c.Carries request bucket options token := by
  rw [pageRequest_eq] at h
  cases hname : requireName bucket with
  | error failure =>
    rw [hname] at h
    cases h
  | ok _ =>
    rw [hname] at h
    have hne : pageParams options token ≠ [] := List.cons_ne_nil _ _
    refine ⟨?_, Text.Percent.encode bucket, _, pageParams options token, ?_,
      Text.Percent.decode?_encode bucket, Query.decode?_intercalate hne,
      asksFor_pageParams options token⟩
    · cases h
      rfl
    · cases h
      rw [target, if_neg (by simpa using hne)]
      simp only [bucketPath, String.append_assoc]

end Client

namespace Http.Response.PageReport

/-! ## Reports -/

/-- What an element of a document tells of an object, whatever else it holds. -/
structure Describes (element : List Xml.Node) (entry : ObjectEntry) : Prop where
  /-- The key; it may be missing. -/
  key : ∃ key?, Xml.optional? some "Key" element = some key? ∧ entry.key = key?.getD ""
  /-- The size; it may be missing. -/
  size : ∃ bytes?, Xml.optional? size? "Size" element = some bytes? ∧ entry.size = bytes?.getD 0
  /-- The instant of the last change. -/
  lastModified :
    Xml.optional? Time.Rfc3339.parseUtc? "LastModified" element = some entry.lastModified
  /-- The tag of the content; it may be missing. -/
  etag : ∃ etag?, Xml.optional? some "ETag" element = some etag? ∧ entry.etag = etag?.getD ""
  /-- The storage class. -/
  storageClass : Xml.optional? some "StorageClass" element = some entry.storageClass
  /-- An object as a whole, and no common beginning. -/
  whole : entry.versionId = none ∧ entry.isCommonPrefix = false

theorem describes_of_entryOf? {element : List Xml.Node} {entry : ObjectEntry}
    (h : entryOf? element = some entry) : Describes element entry := by
  simp only [entryOf?, Option.bind_eq_bind, Option.bind_eq_some_iff] at h
  obtain ⟨key?, hkey, bytes?, hsize, etag?, hetag, changed, hchanged, storage, hstorage, h⟩ := h
  cases h
  exact ⟨⟨key?, hkey, rfl⟩, ⟨bytes?, hsize, rfl⟩, hchanged, ⟨etag?, hetag, rfl⟩, hstorage, rfl, rfl⟩

/-- A report that says what its document says. -/
structure Tells (report : PageReport) (content : List Xml.Node) : Prop where
  /-- Another page follows only if the document says so. -/
  isTruncated_iff :
    report.isTruncated = true ↔ Xml.optional? some "IsTruncated" content = some (some "true")
  /-- The token for it. -/
  nextToken_eq : Xml.optional? some "NextContinuationToken" content = some report.nextToken
  /-- The objects, each as it is described, in their order. -/
  objects : List.Forall₂ Describes (Xml.children "Contents" content) report.objects
  /-- The common beginnings that have a text. -/
  commonPrefixes_eq : report.commonPrefixes = (Xml.children "CommonPrefixes" content).filterMap
    fun inner => (Xml.optional? some "Prefix" inner).join

/-- A report is what its document says. -/
theorem tells_of_of? {content : List Xml.Node} {report : PageReport}
    (h : of? content = some report) : report.Tells content := by
  simp only [of?, Option.bind_eq_bind, Option.bind_eq_some_iff] at h
  obtain ⟨flag, hflag, prefixes, hprefixes, token, htoken, objects, hobjects, hreport⟩ := h
  cases hreport
  refine ⟨?_, htoken, ?_, ?_⟩
  · have hwritten (text : String) (value : Bool) (hvalue : bool? text = some value) :
        text = if value then "true" else "false" := by
      grind [bool?]
    rw [Xml.optional?_some_of_read hwritten hflag]
    cases flag with
    | none => simp
    | some value => cases value <;> simp
  · exact (Xml.mapM_eq_some_iff_forall₂.mp hobjects).imp fun _ _ => describes_of_entryOf?
  · have hread := congrArg (List.filterMap Option.join) (Xml.mapM_eq_some_iff.mp hprefixes)
    rw [List.filterMap_map, List.filterMap_map] at hread
    exact hread.symm

/-- A report that is followed by the page with this token. -/
def LeadsTo (report : PageReport) (token : String) : Prop :=
  report.isTruncated = true ∧ report.nextToken = some token ∧ token ≠ ""

/-- A report that claims to be followed by a page, and does not say how to ask for it. -/
def IsCut (report : PageReport) : Prop :=
  report.isTruncated = true ∧ ∀ token, report.nextToken = some token → token = ""

/-- The objects and the common beginnings of a report. -/
def entries (report : PageReport) : List ObjectEntry :=
  report.objects ++ report.commonPrefixes.map fun key => { key, size := 0, isCommonPrefix := true }

/-- The page that a report brings. -/
def toPage (report : PageReport) (next : Option String) : Listing.Page :=
  { objects := report.objects, commonPrefixes := report.commonPrefixes, next }

/-- Whatever comes next, the records of the page are the entries of the report. -/
theorem records_toPage_perm (report : PageReport) (next : Option String) :
    (report.toPage next).records.Perm report.entries :=
  (report.toPage next).records_perm

/-- A report leads to a page, is cut, or is the last one. -/
theorem leadsTo_or_isCut_or_last (report : PageReport) :
    (∃ token, report.LeadsTo token) ∨ report.IsCut ∨ report.isTruncated = false := by
  cases ht : report.isTruncated with
  | false => exact .inr (.inr rfl)
  | true =>
    by_cases h : ∃ token, report.nextToken = some token ∧ token ≠ ""
    · obtain ⟨token, hnext, hne⟩ := h
      exact .inl ⟨token, ht, hnext, hne⟩
    · refine .inr (.inl ⟨ht, fun token hnext => ?_⟩)
      exact Decidable.byContradiction fun hne => h ⟨token, hnext, hne⟩

theorem page_of_leadsTo {report : PageReport} {token : String} (h : report.LeadsTo token)
    (bucket : String) : report.page bucket = .ok (report.toPage (some token)) := by
  obtain ⟨ht, hnext, hne⟩ := h
  simp [page, ht, hnext, hne, toPage, Option.filter]

/-- What is wrong with a report that is cut. -/
def cutError (bucket : String) : Error :=
  .operation ("Listing of " ++ bucket ++ " is truncated but has no continuation token")

theorem page_of_isCut {report : PageReport} (h : report.IsCut) (bucket : String) :
    report.page bucket = .error (cutError bucket) := by
  obtain ⟨ht, hnext⟩ := h
  cases hn : report.nextToken with
  | none => simp [page, ht, hn, Option.filter, cutError]
  | some token => simp [page, ht, hn, hnext token hn, Option.filter, cutError]

theorem page_of_last {report : PageReport} (h : report.isTruncated = false) (bucket : String) :
    report.page bucket = .ok (report.toPage none) := by
  simp [page, h, toPage]

end Http.Response.PageReport

namespace Client

/-! ## Replies -/

/-- What the store reports to the call with this number, asking with a token. -/
def pageReport (c : Client) (link : Link) (bucket : String) (options : ListOptions)
    (token : Option String) (number : Nat) : Except CallFailure PageReport := do
  let request ← c.pageRequest bucket options token
  (← link.outcome number request).record "ListBucketResult" PageReport.of?

variable {c : Client} {link : Link} {bucket : String} {options : ListOptions}
  {token : Option String} {number : Nat}

/-- A report says what is told by the document of the response to a request for its page. -/
theorem exists_of_pageReport {report : PageReport}
    (h : c.pageReport link bucket options token number = .ok report) :
    ∃ request response content, c.pageRequest bucket options token = .ok request ∧
      link.outcome number request = .ok response ∧
      response.document "ListBucketResult" = .ok content ∧ report.Tells content := by
  obtain ⟨request, hrequest, h⟩ := bind_eq_ok_iff.mp h
  obtain ⟨response, hresponse, h⟩ := bind_eq_ok_iff.mp h
  obtain ⟨content, hcontent, hreport⟩ := Http.Response.record_eq_ok_iff.mp h
  exact ⟨request, response, content, hrequest, hresponse, hcontent,
    PageReport.tells_of_of? hreport⟩

/-- The result of a call for a page, wherever the link stands, is the page of the report. -/
theorem listPage_fst_eq (c : Client) {before : Link} {link : Link} {number : Nat}
    (hbefore : ∀ request, (before.exchange request).1 = link.outcome number request)
    (bucket : String) (options : ListOptions) (token : Option String) :
    (c.listPage bucket options token before).1 =
      ((c.pageReport link bucket options token number).mapError CallFailure.toError).bind
        (·.page bucket) := by
  rw [listPage, Call.perform_fst, pageReport]
  cases c.pageRequest bucket options token with
  | error failure => rfl
  | ok request =>
    simp only [Except.bind, hbefore, bind]
    cases link.outcome number request <;> rfl

section

variable {call : Listing.PageCall}

theorem lister_eq (c : Client) (link : Link) (number : Nat) (call : Listing.PageCall) :
    c.lister link number call = pageReply
      (((c.pageReport link call.bucket call.options call.token number).mapError
        CallFailure.toError).bind (·.page call.bucket)) := by
  rw [lister, c.listPage_fst_eq fun request => rfl]

/-- The lister answers with the page of a report. -/
theorem lister_of_page {report : PageReport} {page : Listing.Page}
    (h : c.pageReport link call.bucket call.options call.token number = .ok report)
    (hpage : report.page call.bucket = .ok page) :
    c.lister link number call = .page page := by
  rw [lister_eq, h]
  exact congrArg pageReply hpage

/-- Where a report brings no page, the lister fails. -/
theorem lister_of_page_error {report : PageReport} {error : Error}
    (h : c.pageReport link call.bucket call.options call.token number = .ok report)
    (hpage : report.page call.bucket = .error error) :
    c.lister link number call = .failed error := by
  rw [lister_eq, h]
  exact congrArg pageReply hpage

/-- Where there is no report, the lister fails. -/
theorem lister_of_failure {failure : CallFailure}
    (h : c.pageReport link call.bucket call.options call.token number = .error failure) :
    c.lister link number call = .failed failure.toError := by
  rw [lister_eq, h]
  rfl

end

end Client

end ObjectStore
