import ObjectStore.Proofs.Client.Pages
import ObjectStore.Proofs.Listing.Undisturbed

/-!
# A listing over a store

Whether a listing is whole is told by the reports of the store. As long as each report leads
to a further page, the listing goes on with the token of the last one. It comes to its end
without an error only behind a report that claims no further page, and then it has brought the
entries of all reports, each once. A report that claims a further page and does not say how to
ask for it brings no entry, but an error, and so does a call that fails.
-/

namespace ObjectStore

open ObjectStore.Http (Link Request)
open ObjectStore.Http.Response (PageReport)
open ObjectStore.Listing (Lister Exchange Item Move PageCall Stream)

/-- A sequence that goes on with a call is not at its end. -/
theorem Listing.Lister.Continues.not_endsWithin {lister : Lister} {first call : PageCall}
    {number : Nat} (h : lister.Continues first number (some call)) :
    ¬ lister.EndsWithin first number := by
  intro he
  have hsucc := h.exchanges_succ
  rw [he.exchanges_eq (Nat.le_succ number)] at hsucc
  exact absurd (List.self_eq_append_right.mp hsucc) (List.cons_ne_nil _ _)

namespace Client

/-! ## Reports one after another -/

section Reports

variable (reports : Nat → Except CallFailure PageReport)

/-- The first `count` reports are there, and each of them leads to a further page. -/
def LeadOn (count : Nat) : Prop :=
  ∀ number < count, ∃ report token, reports number = .ok report ∧ report.LeadsTo token

/-- The entries of the first `count` reports. -/
def entriesOf (count : Nat) : List ObjectEntry :=
  ((List.range count).filterMap fun number => (reports number).toOption).flatMap
    PageReport.entries

/-- The token that is asked with after `count` reports. -/
def tokenAfter : Nat → Option String
  | 0 => none
  | count + 1 => (reports count).toOption.bind PageReport.nextToken

variable {reports} {count : Nat}

theorem leadOn_zero : LeadOn reports 0 :=
  fun number hlt => absurd hlt (Nat.not_lt_zero number)

theorem LeadOn.mono {fewer : Nat} (h : LeadOn reports count) (hle : fewer ≤ count) :
    LeadOn reports fewer :=
  fun number hlt => h number (hlt.trans_le hle)

/-- There is one place at most where reports stop leading on. -/
theorem LeadOn.le_of_not_succ {other : Nat} (h : LeadOn reports count)
    (hnot : ¬ LeadOn reports (other + 1)) : count ≤ other :=
  Nat.le_of_not_lt fun hlt => hnot (h.mono hlt)

theorem leadOn_succ_iff : LeadOn reports (count + 1) ↔
    LeadOn reports count ∧ ∃ report token, reports count = .ok report ∧ report.LeadsTo token :=
  Nat.forall_lt_succ_right

theorem entriesOf_succ_of_report {report : PageReport} (h : reports count = .ok report) :
    entriesOf reports (count + 1) = entriesOf reports count ++ report.entries := by
  simp [entriesOf, List.range_succ, h, Except.toOption]

theorem entriesOf_succ_of_failure {failure : CallFailure} (h : reports count = .error failure) :
    entriesOf reports (count + 1) = entriesOf reports count := by
  simp [entriesOf, List.range_succ, h, Except.toOption]

/-- Items that are the entries as records, each once in some order, and then the error, if any. -/
def Bring (items : List Item) (entries : List ObjectEntry) (error? : Option Error) : Prop :=
  ∃ records : List ObjectEntry, records.Perm entries ∧
    items = records.map .ok ++ error?.toList.map .error

end Reports

/-! ## The sequence that the reports lay down -/

section Sequence

/-- The reports to the calls of a listing, each of which asks with the token of the last one. -/
def reports (c : Client) (link : Link) (bucket : String) (options : ListOptions) :
    Nat → Except CallFailure PageReport
  | 0 => c.pageReport link bucket options none 0
  | number + 1 => c.pageReport link bucket options
      ((c.reports link bucket options number).toOption.bind PageReport.nextToken) (number + 1)

variable {c : Client} {link : Link} {bucket : String} {options : ListOptions} {count : Nat}

theorem reports_eq (c : Client) (link : Link) (bucket : String) (options : ListOptions)
    (number : Nat) :
    c.reports link bucket options number = c.pageReport link bucket options
      (tokenAfter (c.reports link bucket options) number) number := by
  cases number <;> rfl

/-- Where a listing of a bucket stands after `count` calls. -/
structure Reaches (c : Client) (link : Link) (bucket : String) (options : ListOptions)
    (count : Nat) (next : Option PageCall) (entries : List ObjectEntry) (error? : Option Error) :
    Prop where
  /-- What comes next. -/
  continues : (c.lister link).Continues { bucket, options } count next
  /-- What the calls bring. -/
  bring : Bring ((c.lister link).items { bucket, options } count) entries error?

variable {entries : List ObjectEntry} {token : Option String}

/-- A page adds its records, and leads on with the token that it has. -/
theorem Reaches.page (h : Reaches c link bucket options count
      (some { bucket, options, token }) entries none)
    {report : PageReport}
    (hreport : c.pageReport link bucket options token count = .ok report)
    {next : Option String} (hpage : report.page bucket = .ok (report.toPage next)) :
    Reaches c link bucket options (count + 1)
      (⟨{ bucket, options, token }, .page (report.toPage next)⟩ : Exchange).next?
      (entries ++ report.entries) none := by
  have hreply : c.lister link count { bucket, options, token } =
      .page (report.toPage next) := lister_of_page hreport hpage
  obtain ⟨records, hperm, hitems⟩ := h.bring
  have hcontinues := h.continues.succ
  rw [hreply] at hcontinues
  refine ⟨hcontinues, records ++ (report.toPage next).records,
    hperm.append (report.records_toPage_perm next), ?_⟩
  rw [h.continues.items_succ, hitems, hreply, List.map_append]
  simp [Exchange.items, Exchange.records, Exchange.error?]

/-- A call without a page adds its error, and is the last one. -/
theorem Reaches.failed (h : Reaches c link bucket options count
      (some { bucket, options, token }) entries none) {error : Error}
    (hreply : c.lister link count { bucket, options, token } = .failed error) :
    Reaches c link bucket options (count + 1) none entries (some error) := by
  obtain ⟨records, hperm, hitems⟩ := h.bring
  have hcontinues := h.continues.succ
  rw [hreply] at hcontinues
  refine ⟨hcontinues, records, hperm, ?_⟩
  rw [h.continues.items_succ, hitems, hreply]
  simp [Exchange.items, Exchange.records, Exchange.error?]

/-- As long as the reports lead on, the listing goes on with the token of the last one. -/
theorem reaches_of_leadOn (h : LeadOn (c.reports link bucket options) count) :
    Reaches c link bucket options count
      (some { bucket, options, token := tokenAfter (c.reports link bucket options) count })
      (entriesOf (c.reports link bucket options) count) none := by
  induction count with
  | zero => exact ⟨Lister.continues_zero _ _, [], .nil, rfl⟩
  | succ count ih =>
    obtain ⟨hleads, report, token, hreport, htoken⟩ := leadOn_succ_iff.mp h
    have hpage := (ih hleads).page ((reports_eq c link bucket options count).symm.trans hreport)
      (PageReport.page_of_leadsTo htoken bucket)
    rw [entriesOf_succ_of_report hreport, tokenAfter, hreport, Except.toOption, Option.bind_some,
      htoken.2.1]
    simpa [Exchange.next?, PageReport.toPage, htoken.2.2] using hpage

/-- What the first report that does not lead on makes of a listing. -/
theorem reaches_end (h : LeadOn (c.reports link bucket options) count) :
    (∀ report, c.reports link bucket options count = .ok report → report.isTruncated = false →
      Reaches c link bucket options (count + 1) none
        (entriesOf (c.reports link bucket options) (count + 1)) none) ∧
    (∀ report, c.reports link bucket options count = .ok report → report.IsCut →
      Reaches c link bucket options (count + 1) none
        (entriesOf (c.reports link bucket options) count)
        (some (PageReport.cutError bucket))) ∧
    (∀ failure, c.reports link bucket options count = .error failure →
      Reaches c link bucket options (count + 1) none
        (entriesOf (c.reports link bucket options) count) (some failure.toError)) := by
  have hreaches := reaches_of_leadOn h
  have heq := reports_eq c link bucket options count
  refine ⟨?_, ?_, ?_⟩
  · intro report hreport hlast
    rw [entriesOf_succ_of_report hreport]
    exact hreaches.page (heq.symm.trans hreport) (PageReport.page_of_last hlast bucket)
  · intro report hreport hcut
    exact hreaches.failed
      (lister_of_page_error (heq.symm.trans hreport) (PageReport.page_of_isCut hcut bucket))
  · intro failure hfailure
    exact hreaches.failed (lister_of_failure (heq.symm.trans hfailure))

theorem Bring.length_eq {items : List Item} {error? : Option Error}
    (h : Bring items entries error?) : items.length = entries.length + error?.toList.length := by
  obtain ⟨records, hperm, rfl⟩ := h
  rw [List.length_append, List.length_map, List.length_map, hperm.length_eq]

/-- Reports that stop leading on bring a listing to its end. -/
theorem endsWithin_of_not_leadOn (h : LeadOn (c.reports link bucket options) count)
    (hnot : ¬ LeadOn (c.reports link bucket options) (count + 1)) :
    (c.lister link).EndsWithin { bucket, options } (count + 1) ∧
      ((c.lister link).items { bucket, options } (count + 1)).length ≤
        (entriesOf (c.reports link bucket options) (count + 1)).length + 1 := by
  obtain ⟨hwhole, hcut, hfail⟩ := reaches_end h
  cases hreport : c.reports link bucket options count with
  | error failure =>
    have hreaches := hfail failure hreport
    refine ⟨hreaches.continues.endsWithin, ?_⟩
    rw [hreaches.bring.length_eq, entriesOf_succ_of_failure hreport]
    exact Nat.le_refl _
  | ok report =>
    rcases report.leadsTo_or_isCut_or_last with ⟨token, hleads⟩ | hc | hlast
    · exact absurd (leadOn_succ_iff.mpr ⟨h, report, token, hreport, hleads⟩) hnot
    · have hreaches := hcut report hreport hc
      refine ⟨hreaches.continues.endsWithin, ?_⟩
      rw [hreaches.bring.length_eq, entriesOf_succ_of_report hreport, List.length_append]
      simp
    · have hreaches := hwhole report hreport hlast
      refine ⟨hreaches.continues.endsWithin, ?_⟩
      rw [hreaches.bring.length_eq]
      simp

end Sequence

/-! ## Runs -/

section Runs

variable {c : Client} {link : Link} {bucket : String} {options : ListOptions}

/-- A page with a token that leads somewhere comes from a report that leads there. -/
theorem leadsTo_of_lister {number : Nat} {call : PageCall} {page : Listing.Page} {token : String}
    (h : c.lister link number call = .page page) (hnext : page.next = some token) :
    ∃ report, c.pageReport link call.bucket call.options call.token number = .ok report ∧
      report.LeadsTo token := by
  cases hreport : c.pageReport link call.bucket call.options call.token number with
  | error failure =>
    rw [lister_of_failure hreport] at h
    cases h
  | ok report =>
    refine ⟨report, rfl, ?_⟩
    rcases report.leadsTo_or_isCut_or_last with ⟨found, hleads⟩ | hcut | hlast
    · rw [lister_of_page hreport (PageReport.page_of_leadsTo hleads _)] at h
      cases h
      cases hnext
      exact hleads
    · rw [lister_of_page_error hreport (PageReport.page_of_isCut hcut _)] at h
      cases h
    · rw [lister_of_page hreport (PageReport.page_of_last hlast _)] at h
      cases h
      cases hnext

/-- The calls of a listing follow reports that lead on, each with the token of the last one. -/
theorem eq_of_requests_getElem? {s : Stream}
    (h : s.Follows (c.lister link) { bucket, options }) {number : Nat} {call : PageCall}
    (hc : s.requests[number]? = some call) :
    LeadOn (c.reports link bucket options) number ∧
      call = { bucket, options, token := tokenAfter (c.reports link bucket options) number } := by
  induction number generalizing call with
  | zero => exact ⟨leadOn_zero, h.head_requests hc⟩
  | succ number ih =>
    obtain ⟨hlt, _⟩ := List.getElem?_eq_some_iff.mp hc
    have hprevious := List.getElem?_eq_getElem (Nat.lt_of_succ_lt hlt)
    obtain ⟨hleads, heq⟩ := ih hprevious
    obtain ⟨page, token, hpage, hnext, _, rfl⟩ := h.next_request hprevious hc
    obtain ⟨report, hreport, htoken⟩ := leadsTo_of_lister hpage hnext
    rw [heq] at hreport ⊢
    have hfound : c.reports link bucket options number = .ok report :=
      (reports_eq c link bucket options number).trans hreport
    refine ⟨leadOn_succ_iff.mpr ⟨hleads, report, token, hfound, htoken⟩, ?_⟩
    rw [tokenAfter, hfound, Except.toOption, Option.bind_some, htoken.2.1]

/-- The calls of a listing are calls for pages of its bucket. -/
theorem bucket_of_mem_requests {s : Stream}
    (h : s.Follows (c.lister link) { bucket, options }) {call : PageCall}
    (hc : call ∈ s.requests) : call.bucket = bucket := by
  obtain ⟨number, hnumber⟩ := List.mem_iff_getElem?.mp hc
  rw [(eq_of_requests_getElem? h hnumber).2]

/-- A listing that ends has asked until a report did not lead on. -/
theorem exists_of_endsWithin {s : Stream}
    (h : s.Follows (c.lister link) { bucket, options })
    (he : (c.lister link).EndsWithin { bucket, options } s.requests.length) :
    ∃ count, s.requests.length = count + 1 ∧ LeadOn (c.reports link bucket options) count ∧
      ¬ LeadOn (c.reports link bucket options) (count + 1) := by
  have hnot : ¬ LeadOn (c.reports link bucket options) s.requests.length := by
    intro hleads
    exact (reaches_of_leadOn hleads).continues.not_endsWithin he
  cases hlength : s.requests.length with
  | zero =>
    rw [hlength] at hnot
    exact absurd leadOn_zero hnot
  | succ count =>
    rw [hlength] at hnot
    have hlast : s.requests[count]? = some s.requests[count] := by simp [hlength]
    exact ⟨count, rfl, (eq_of_requests_getElem? h hlast).1, hnot⟩

/-! ## What is sent -/

/-- Each call of a listing is a call of the client, at the link after the calls before it. -/
theorem lister_eq_listPage {s : Stream} (h : s.Follows (c.lister link) { bucket, options })
    {number : Nat} {call : PageCall} (hc : s.requests[number]? = some call) :
    c.lister link number call = pageReply
      (c.listPage call.bucket call.options call.token
        (c.afterPages (s.requests.take number) link)).1 := by
  obtain ⟨hlt, _⟩ := List.getElem?_eq_some_iff.mp hc
  have hbucket : call.bucket = bucket := bucket_of_mem_requests h (List.mem_of_getElem? hc)
  have hlength : (s.requests.take number).length = number := by
    rw [List.length_take, Nat.min_eq_left hlt.le]
  have hnamed : ∀ earlier ∈ s.requests.take number,
      (c.pageRequest earlier.bucket earlier.options earlier.token).map (fun _ => ()) =
        (c.pageRequest call.bucket call.options call.token).map (fun _ => ()) := by
    intro earlier hm
    rw [map_pageRequest, map_pageRequest, hbucket,
      bucket_of_mem_requests h (List.mem_of_mem_take hm)]
  have hresult := Call.perform_foldl_fst
    (fun call : PageCall => c.pageRequest call.bucket call.options call.token)
    (fun call => (·.page call.bucket)) link hnamed
  rw [hlength] at hresult
  exact congrArg pageReply hresult.symm

/-- The requests of a listing are sent one after the other, as far as the store gets them. -/
theorem exists_sent_afterPages {s : Stream}
    (h : s.Follows (c.lister link) { bucket, options }) :
    ∃ sent : List Request, (c.afterPages s.requests link).sent = link.sent ++ sent ∧
      (requireName bucket = .ok () → sent.length = min s.requests.length link.room) ∧
      (requireName bucket ≠ .ok () → sent = []) ∧
      ∀ (number : Nat) request, sent[number]? = some request →
        let token := tokenAfter (c.reports link bucket options) number
        c.pageRequest bucket options token = .ok request ∧
          c.Carries request bucket options token := by
  have hname : ∀ call ∈ s.requests,
      (c.pageRequest call.bucket call.options call.token).map (fun _ => ()) =
        requireName bucket := by
    intro call hm
    rw [map_pageRequest, bucket_of_mem_requests h hm]
  obtain ⟨sent, hsent, hnamed, hunnamed, hrequests⟩ := Call.exists_sent_foldl_perform
    (fun call : PageCall => c.pageRequest call.bucket call.options call.token)
    (fun call => (·.page call.bucket)) link hname
  refine ⟨sent, hsent, hnamed, hunnamed, fun number request hrequest => ?_⟩
  obtain ⟨call, hcall, hrequest⟩ := hrequests number request hrequest
  rw [(eq_of_requests_getElem? h hcall).2] at hrequest
  exact ⟨hrequest, carries_of_pageRequest hrequest⟩

theorem Bring.error_mem {items : List Item} {entries : List ObjectEntry} {error : Error}
    (h : Bring items entries (some error)) : .error error ∈ items := by
  obtain ⟨records, _, rfl⟩ := h
  simp

/--
No listing is cut short without a word. The calls of an undisturbed listing over a link are calls
of the client for pages, each with the token of the report before it; all reports but the last
lead on. If the bucket has a name a request is sent for each call, as far as the store gets it,
and the requests carry the bucket and the options and these tokens, in their order. A report says
what the response to its request says. If the listing ends without an error, then its last
report claims no further page, and the items are the entries of all reports, each once. A report
that claims a further page without a usable token is the last one; none of its entries is
published, and the listing ends with the error that says so. As soon as a report does not lead
on, the listing ends.
-/
theorem listing_of_reports (c : Client) (link : Link) (bucket : String) (options : ListOptions)
    (moves : List Move) (hm : ∀ m ∈ moves, m.isCancelling = false) :
    let reports := c.reports link bucket options
    let items := ((Stream.start bucket options).run (c.lister link) moves).1
    let last := ((Stream.start bucket options).run (c.lister link) moves).2
    (∀ number report, reports number = .ok report → ∃ request response content,
      c.pageRequest bucket options (tokenAfter reports number) = .ok request ∧
      link.outcome number request = .ok response ∧
      response.document "ListBucketResult" = .ok content ∧ report.Tells content) ∧
    (∀ number call, last.requests[number]? = some call →
      call = { bucket, options, token := tokenAfter reports number } ∧
      LeadOn reports number ∧
      c.lister link number call = pageReply (c.listPage bucket options call.token
        (c.afterPages (last.requests.take number) link)).1) ∧
    (∃ sent : List Request, (c.afterPages last.requests link).sent = link.sent ++ sent ∧
      (requireName bucket = .ok () → sent.length = min last.requests.length link.room) ∧
      (requireName bucket ≠ .ok () → sent = []) ∧
      ∀ (number : Nat) request, sent[number]? = some request →
        c.pageRequest bucket options (tokenAfter reports number) = .ok request ∧
          c.Carries request bucket options (tokenAfter reports number)) ∧
    (last.read.1 = .ended → (∀ error, .error error ∉ items) →
      ∃ count report, last.requests.length = count + 1 ∧ LeadOn reports count ∧
        reports count = .ok report ∧ report.isTruncated = false ∧
        Bring items (entriesOf reports (count + 1)) none) ∧
    (∀ number report, number < last.requests.length → reports number = .ok report →
      report.IsCut →
      number + 1 = last.requests.length ∧
      ∃ all, Bring all (entriesOf reports number) (some (PageReport.cutError bucket)) ∧
        last.published <+: all ∧ (last.read.1 = .ended → items = all)) ∧
    (∀ count, LeadOn reports count → ¬ LeadOn reports (count + 1) →
      3 * (count + 1) + (entriesOf reports (count + 1)).length + 1 <
        moves.countP Move.isProducing →
      ∀ more, (∀ m ∈ more, m.isCancelling = false) →
        (entriesOf reports (count + 1)).length + 1 ≤ more.count .read →
        let final := ((Stream.start bucket options).run (c.lister link) (moves ++ more)).2
        final.read.1 = .ended ∧ final.requests.length = count + 1) := by
  intro reports items last
  have hlast : last.Follows (c.lister link) { bucket, options } :=
    (Stream.follows_start (c.lister link) bucket options false).run moves
  have hend (hended : last.read.1 = .ended) :=
    Stream.handed_of_ended (c.lister link) bucket options hm hended
  refine ⟨?_, ?_, exists_sent_afterPages hlast, ?_, ?_, ?_⟩
  · intro number report hreport
    exact exists_of_pageReport ((reports_eq c link bucket options number).symm.trans hreport)
  · intro number call hcall
    have hlister := lister_eq_listPage hlast hcall
    obtain ⟨hleads, rfl⟩ := eq_of_requests_getElem? hlast hcall
    exact ⟨rfl, hleads, hlister⟩
  · intro hended hclean
    obtain ⟨hends, hitems⟩ := hend hended
    obtain ⟨count, hlength, hleads, hnot⟩ := exists_of_endsWithin hlast hends
    obtain ⟨hwhole, hcut, hfail⟩ := reaches_end hleads
    rw [hlength] at hitems
    cases hreport : reports count with
    | error failure =>
      have hbring := (hfail failure hreport).bring
      rw [← hitems] at hbring
      exact absurd hbring.error_mem (hclean _)
    | ok report =>
      rcases report.leadsTo_or_isCut_or_last with ⟨token, hto⟩ | hc | hdone
      · exact absurd (leadOn_succ_iff.mpr ⟨hleads, report, token, hreport, hto⟩) hnot
      · have hbring := (hcut report hreport hc).bring
        rw [← hitems] at hbring
        exact absurd hbring.error_mem (hclean _)
      · have hbring := (hwhole report hreport hdone).bring
        rw [← hitems] at hbring
        exact ⟨count, report, hlength, hleads, hreport, hdone, hbring⟩
  · intro number report hlt hreport hc
    obtain ⟨hleads, _⟩ := eq_of_requests_getElem? hlast (List.getElem?_eq_getElem hlt)
    have hnot : ¬ LeadOn reports (number + 1) := by
      intro h
      obtain ⟨_, found, token, hfound, hto⟩ := leadOn_succ_iff.mp h
      cases hreport.symm.trans hfound
      exact hto.2.2 (hc.2 token hto.2.1)
    have hlength : number + 1 = last.requests.length := by
      rcases Nat.lt_or_eq_of_le (Nat.succ_le_of_lt hlt) with hlt' | heq
      · exact absurd (eq_of_requests_getElem? hlast (List.getElem?_eq_getElem hlt')).1 hnot
      · exact heq
    refine ⟨hlength, _, ((reaches_end hleads).2.1 report hreport hc).bring, ?_, ?_⟩
    · rw [hlength]
      exact hlast.published_isPrefix
    · intro hended
      rw [hlength]
      exact (hend hended).2
  · intro count hleads hnot hlt more hmore hr
    obtain ⟨hends, hlength⟩ := endsWithin_of_not_leadOn hleads hnot
    have hmoves : 3 * (count + 1) +
        ((c.lister link).items { bucket, options } (count + 1)).length <
          moves.countP Move.isProducing := by
      refine lt_of_le_of_lt ?_ hlt
      rw [Nat.add_assoc]
      exact Nat.add_le_add_left hlength _
    obtain ⟨_, hended, _⟩ := Stream.handed_of_moves (c.lister link) bucket options hm hmore
      hends hmoves (hlength.trans hr)
    have hall : ∀ m ∈ moves ++ more, m.isCancelling = false := by
      intro m h
      exact (List.mem_append.mp h).elim (hm m) (hmore m)
    have hfollows := (Stream.follows_start (c.lister link) bucket options false).run
      (moves ++ more)
    have hdone := ((Stream.read_fst_eq_ended_iff _).mp hended).2
    obtain ⟨found, hfound, hleads', hnot'⟩ := exists_of_endsWithin hfollows
      (Stream.undisturbed_complete (c.lister link) bucket options hall hdone).1
    have heq := Nat.le_antisymm (hleads'.le_of_not_succ hnot) (hleads.le_of_not_succ hnot')
    exact ⟨hended, hfound.trans (congrArg (· + 1) heq)⟩

/-- Behind a page that leads on comes one that claims a further page, but has no token for it. -/
theorem listing_of_reports_cut :
    let response (document : String) : Http.Reply :=
      .response { status := 200, fields := ∅, body := Text.utf8 document }
    let link : Link := { replies := [
      response ("<ListBucketResult><Contents><Key>a</Key></Contents>" ++
        "<IsTruncated>true</IsTruncated><NextContinuationToken>t</NextContinuationToken>" ++
        "</ListBucketResult>"),
      response "<ListBucketResult><IsTruncated>true</IsTruncated></ListBucketResult>"] }
    let moves : List Move := List.replicate 9 .step
    let more : List Move := [.read, .read]
    let run := (Stream.start "bucket" { keyPrefix := "" }).run (lister {} link) (moves ++ more)
    (∀ m ∈ moves, m.isCancelling = false) ∧ (∀ m ∈ more, m.isCancelling = false) ∧
    run.2.read.1 = .ended ∧
    run.1 = [.ok { key := "a", size := 0 }, .error (PageReport.cutError "bucket")] ∧
    (afterPages {} run.2.requests link).sent.map Request.target =
      ["/bucket/?list-type=2&delimiter=%2F&max-keys=1000&prefix=",
        "/bucket/?list-type=2&delimiter=%2F&max-keys=1000&prefix=&continuation-token=t"] := by
  intro response link moves more run
  have hm : ∀ m ∈ moves, m.isCancelling = false := by decide
  have hmore : ∀ m ∈ more, m.isCancelling = false := by decide
  have hall : ∀ m ∈ moves ++ more, m.isCancelling = false := by decide
  let options : ListOptions := { keyPrefix := "" }
  let told := reports {} link "bucket" options
  have hfirst : told 0 =
      .ok { isTruncated := true, nextToken := some "t", objects := [{ key := "a", size := 0 }]
            commonPrefixes := [] } := by decide +kernel
  have hsecond : told 1 =
      .ok { isTruncated := true, nextToken := none, objects := [], commonPrefixes := [] } := by
    decide +kernel
  have hone : LeadOn told 1 :=
    leadOn_succ_iff.mpr ⟨leadOn_zero, _, "t", hfirst, rfl, rfl, by decide⟩
  have htwo : ¬ LeadOn told 2 := by
    intro h
    obtain ⟨_, report, token, hreport, hleads⟩ := leadOn_succ_iff.mp h
    cases hsecond.symm.trans hreport
    cases hleads.2.1
  have hentries : entriesOf told 1 = [{ key := "a", size := 0 }] := by
    rw [entriesOf_succ_of_report hfirst]
    rfl
  have hentries' : entriesOf told 2 = [{ key := "a", size := 0 }] := by
    rw [entriesOf_succ_of_report hsecond, hentries]
    rfl
  obtain ⟨_, _, _, _, _, hprogress⟩ := listing_of_reports {} link "bucket" options moves hm
  have hend := hprogress 1 hone htwo
  rw [hentries'] at hend
  obtain ⟨hended, hlength⟩ := hend (by decide) more hmore (by decide)
  obtain ⟨_, hcalls, _, _, hcut, _⟩ :=
    listing_of_reports {} link "bucket" options (moves ++ more) hall
  obtain ⟨_, all, ⟨records, hperm, hrecords⟩, _, hitems⟩ :=
    hcut 1 _ (hlength ▸ Nat.lt_succ_self 1) hsecond ⟨rfl, fun token h => by cases h⟩
  rw [hentries, List.perm_singleton] at hperm
  have htoken : tokenAfter told 1 = some "t" := by
    rw [tokenAfter, hfirst]
    rfl
  have hrequests : run.2.requests =
      [{ bucket := "bucket", options }, { bucket := "bucket", options, token := some "t" }] := by
    refine List.ext_getElem hlength fun number hlt hlt' => ?_
    have hcall := (hcalls number _ (List.getElem?_eq_getElem hlt)).1
    rcases number with _ | _ | number
    · exact hcall
    · exact hcall.trans (congrArg (PageCall.mk "bucket" options) htoken)
    · exact absurd hlt' (by simp)
  refine ⟨hm, hmore, hended, ?_, ?_⟩
  · rw [hitems hended, hrecords, hperm]
    rfl
  · rw [hrequests]
    decide +kernel

end Runs

end Client

end ObjectStore
