import ObjectStore.Proofs.Client.Exchanges
import ObjectStore.Proofs.WriteOptions.Tags

/-!
# What an upload sends

An upload is sent only if its tags are within the limits of the store, and then with the headers
of its options put on a request that has none of its own. The header of the tags and those of the
encryption are visible, so that they always arrive, but for the name of a key in a key service.
-/

namespace ObjectStore.Client

open Http (Fields Link Request)
open WriteOptions (AreAllowed)

variable {options : WriteOptions}

/-- Tags beyond the limits are an error of the caller, and the link stays as it is. -/
theorem putObject_of_not_valid (c : Client) (bucket key : String) (body : List UInt8) (link : Link)
    (h : options.validate ≠ .ok ()) :
    ∃ message,
      c.putObject bucket key body options link = (.error (.invalidArgument message), link) := by
  cases hvalidate : options.validate with
  | ok _ => exact absurd hvalidate h
  | error e =>
    obtain ⟨message, rfl⟩ := WriteOptions.exists_of_validate_eq_error hvalidate
    refine ⟨message, ?_⟩
    rw [putObject, hvalidate]

/-- An upload within the limits sends its request if there is one and the store gets it. -/
theorem sent_putObject (c : Client) (bucket key : String) (body : List UInt8)
    (options : WriteOptions) (link : Link) :
    let put := c.putObject bucket key body options link
    (put.2.sent ≠ link.sent ↔ options.validate = .ok () ∧ requireName bucket = .ok () ∧
      requireName key = .ok () ∧ link.next?.isSome = true) ∧
    (put.2.sent ≠ link.sent → ∃ request, put.2.sent = link.sent ++ [request] ∧
      request.fields = (∅ : Fields).project options.header) := by
  intro put
  cases hvalidate : options.validate with
  | error e =>
    obtain ⟨message, hput⟩ : ∃ message, put = (.error (.invalidArgument message), link) :=
      c.putObject_of_not_valid bucket key body link (by simp [hvalidate])
    simp [hput]
  | ok _ =>
    have hput : put = Call.perform (c.uploadRequest bucket key body options)
        (Call.reading (·.receipt)) link := by
      simp only [put, putObject, hvalidate]
    obtain ⟨hsent, hrequest⟩ := c.sent_of_namedTarget bucket key
      [Query.encodePair ("x-id", "PutObject")] (fun target => { method := .put, target, body })
      options.header ∅ (Call.reading (·.receipt)) link
    rw [← uploadRequest_eq, ← hput] at hsent hrequest
    refine ⟨by simpa using hsent, ?_⟩
    intro h
    obtain ⟨target, hrequest⟩ := hrequest h
    exact ⟨_, hrequest, rfl⟩

/-! ## Tags -/

/-- The header of the tags arrives. -/
theorem getAll_project_header_tagging (options : WriteOptions) :
    ((∅ : Fields).project options.header).getAll HeaderName.tagging =
      if options.tags.isEmpty then [] else [options.tagQuery.encode] := by
  have hget := options.get?_header_tagging
  split
  · rename_i h
    rw [if_pos h] at hget
    rw [Fields.getAll_project _ _ (by decide +kernel), hget]
    rfl
  · rename_i h
    rw [if_neg h] at hget
    exact Fields.getAll_project_of_isAllVisible ∅ (by decide) (by decide +kernel) hget
      options.tagQuery.isAllVisible_encode

/--
The tags of an upload. They have a header if and only if there are any, and its text reads back as
the tags, in ascending order of the bytes of their keys. The check lets them pass if and only if
they are at most ten, each with a key of 1 to 128 characters and a value of at most 256. A request
is sent if and only if they pass, provided that there is one to be sent, for a bucket and a key with
names that say something, and that the store gets it. What is sent has the text of tags within the
limits, or no tags; if they do not pass, the error is one of the caller, and nothing is sent.
-/
theorem tags_of_upload (options : WriteOptions) :
    let tags := options.tags.entries
    (HeaderName.tagging ∈ options.header.toList.map Prod.fst ↔ tags ≠ []) ∧
    (∀ text, (HeaderName.tagging, text) ∈ options.header.toList →
      Query.decode? text = some tags) ∧
    (tags.Pairwise fun a b => Text.utf8 a.1 < Text.utf8 b.1) ∧
    (options.validate = .ok () ↔ AreAllowed tags) ∧
    ∀ (c : Client) bucket key body link,
      let put := c.putObject bucket key body options link
      (put.2.sent ≠ link.sent ↔ options.validate = .ok () ∧ requireName bucket = .ok () ∧
        requireName key = .ok () ∧ link.next?.isSome = true) ∧
      (put.2.sent ≠ link.sent → AreAllowed tags ∧
        ∃ request, put.2.sent = link.sent ++ [request] ∧
          (tags = [] → request.fields.getAll HeaderName.tagging = []) ∧
          (tags ≠ [] → ∃ text, request.fields.getAll HeaderName.tagging = [text] ∧
            Query.decode? text = some tags)) ∧
      (options.validate ≠ .ok () →
        ∃ message, put = (.error (.invalidArgument message), link)) := by
  intro tags
  have hempty : options.tags.isEmpty = true ↔ tags = [] := List.isEmpty_iff
  have hget := options.get?_header_tagging
  refine ⟨?_, ?_, options.tags.ascending.imp Text.utf8_lt_utf8, options.validate_eq_ok_iff, ?_⟩
  · have hname : HeaderName.canonical HeaderName.tagging = HeaderName.tagging := by decide +kernel
    simp only [List.mem_map, Prod.exists, exists_and_right, exists_eq_right,
      Headers.mem_toList_iff, hname, true_and, hget, hempty]
    by_cases htags : tags = [] <;> simp [htags]
  · intro text hm
    rw [Headers.mem_toList_iff, hget] at hm
    obtain ⟨_, htext⟩ := hm
    split at htext
    · cases htext
    · cases htext
      exact options.decode?_encode_tagQuery
  · intro c bucket key body link put
    obtain ⟨hsent, hrequest⟩ := c.sent_putObject bucket key body options link
    refine ⟨hsent, ?_, c.putObject_of_not_valid bucket key body link⟩
    intro h
    obtain ⟨request, hrequest, hfields⟩ := hrequest h
    refine ⟨options.validate_eq_ok_iff.mp (hsent.mp h).1, request, hrequest, ?_, ?_⟩
    · intro hnone
      rw [hfields, getAll_project_header_tagging, if_pos (hempty.mpr hnone)]
    · intro hsome
      rw [hfields, getAll_project_header_tagging, if_neg (hempty.not.mpr hsome)]
      exact ⟨_, rfl, options.decode?_encode_tagQuery⟩

/-- Separators and letters beyond ASCII arrive; a key without characters is refused. -/
theorem tags_of_upload_separators :
    let tags : SortedMap String := ⟨[("a&b", "=%+"), ("größe", "")], by decide +kernel⟩
    let refused : SortedMap String := ⟨[("", "1")], by decide +kernel⟩
    let link : Link := { replies := [.hangup] }
    (∃ request text, (putObject {} "bucket" "key" [] { tags } link).2.sent = [request] ∧
      request.fields.getAll HeaderName.tagging = [text] ∧
      Query.decode? text = some [("a&b", "=%+"), ("größe", "")]) ∧
    ∃ message, putObject {} "bucket" "key" [] { tags := refused } link =
      (.error (.invalidArgument message), link) := by
  intro tags refused link
  obtain ⟨_, _, _, hallowed, hput⟩ := tags_of_upload { tags }
  obtain ⟨_, _, _, hrefused, hnone⟩ := tags_of_upload { tags := refused }
  constructor
  · obtain ⟨hsends, hrequest, _⟩ := hput {} "bucket" "key" [] link
    have hvalid : ({ tags } : WriteOptions).validate = .ok () :=
      hallowed.mpr ⟨by decide, by decide +kernel, by decide +kernel⟩
    have hsent := hsends.mpr ⟨hvalid, by decide +kernel, by decide +kernel, rfl⟩
    obtain ⟨_, request, hsent, _, htext⟩ := hrequest hsent
    obtain ⟨text, htext, hread⟩ := htext (List.cons_ne_nil _ _)
    exact ⟨request, text, hsent, htext, hread⟩
  · refine (hnone {} "bucket" "key" [] link).2.2 ?_
    rw [ne_eq, hrefused]
    intro h
    exact absurd (h.key_length ("", "1") List.mem_cons_self).1 (by decide)

/-! ## Encryption -/

/--
What an encryption writes on headers, and what of it an upload sends. Headers that the choice does
not own are as before; those that it owns have values that do not depend on the headers, and
writing them a second time changes nothing. But for the name of a key in a key service the values
are visible, so that they arrive on every request, and on every upload with this choice. From the
headers of a key of the caller its 32 bytes and their digest of 16 bytes can be read, so that
another key has another header. Bytes make a key if and only if there are 32 of them, and the key
has these bytes.
-/
theorem encryption_of_upload (choice : Encryption) :
    (∀ (h : Headers) name, (∀ own ∈ choice.owned, ¬ HeaderName.Same name own) →
      (choice.contribute h).get? name = h.get? name) ∧
    (∀ name ∈ choice.owned, ∃ value, (name, value) ∈ choice.headers ∧
      (∀ (h : Headers) spelling, HeaderName.Same spelling name →
        (choice.contribute h).get? spelling = some value) ∧
      (name ≠ HeaderName.kmsKeyId → Text.isAllVisible value = true ∧
        (∀ (request : Request) h query,
          (request.project (choice.contribute h) query).fields.getAll name = [value]) ∧
        ∀ (c : Client) bucket key body (options : WriteOptions) link,
          options.encryption = some choice →
          let put := c.putObject bucket key body options link
          put.2.sent ≠ link.sent → ∃ request, put.2.sent = link.sent ++ [request] ∧
            request.fields.getAll name = [value])) ∧
    (∀ h : Headers, choice.contribute (choice.contribute h) = choice.contribute h) ∧
    (∀ key : CustomerKey, choice = .customerKey key → ∀ h : Headers, ∃ text digest,
      (choice.contribute h).get? HeaderName.customerKey = some text ∧
      Text.Base64.decode? text = some key.bytes ∧
      (choice.contribute h).get? HeaderName.customerKeyMd5 = some digest ∧
      Text.Base64.decode? digest = some (Digest.Md5.digest key.bytes) ∧
      (Digest.Md5.digest key.bytes).length = 16 ∧
      ∀ (other : CustomerKey) (h' : Headers),
        ((Encryption.customerKey other).contribute h').get? HeaderName.customerKey = some text →
        other = key) ∧
    ∀ bytes, ((∃ key, CustomerKey.ofBytes bytes = .ok key) ↔ bytes.length = 32) ∧
      ∀ key, CustomerKey.ofBytes bytes = .ok key → key.bytes = bytes := by
  refine ⟨?_, ?_, choice.contribute_contribute, ?_, ?_⟩
  · intro h name hname
    exact Encryption.get?_contribute_of_not_owned h hname
  · intro name hname
    obtain ⟨value, hm⟩ := Encryption.exists_mem_headers hname
    obtain ⟨_, htoken, hempty⟩ :=
      Encryption.canonical_of_mem_names name (Encryption.mem_names_of_mem_owned hname)
    refine ⟨value, hm, fun h spelling hsame => Encryption.get?_contribute_of_mem hm hsame h, ?_⟩
    intro hkms
    have hvisible := Encryption.isAllVisible_of_mem_headers hm hkms
    refine ⟨hvisible, ?_, ?_⟩
    · intro request h query
      exact request.fields.getAll_project_of_isAllVisible hempty htoken
        (Encryption.get?_contribute_of_mem hm (.inl rfl) h) hvisible
    · intro c bucket key body options link hchoice put hsent
      obtain ⟨request, hrequest, hfields⟩ :=
        (c.sent_putObject bucket key body options link).2 hsent
      refine ⟨request, hrequest, ?_⟩
      rw [hfields]
      exact Fields.getAll_project_of_isAllVisible ∅ hempty htoken
        (WriteOptions.get?_header_of_mem_headers hchoice hm) hvisible
  · rintro key rfl h
    have hkey (key : CustomerKey) (h : Headers) : ((Encryption.customerKey key).contribute h).get?
        HeaderName.customerKey = some key.base64 :=
      Encryption.get?_contribute_of_mem (by simp [Encryption.headers]) (.inl rfl) h
    have hdigest : ((Encryption.customerKey key).contribute h).get?
        HeaderName.customerKeyMd5 = some key.md5Base64 :=
      Encryption.get?_contribute_of_mem (by simp [Encryption.headers]) (.inl rfl) h
    refine ⟨_, _, hkey key h, Text.Base64.decode?_encode _, hdigest,
      Text.Base64.decode?_encode _, Digest.Md5.length_digest _, ?_⟩
    intro other h' hsame
    exact CustomerKey.base64_inj (Option.some.inj ((hkey other h').symm.trans hsame))
  · intro bytes
    refine ⟨?_, fun key => (CustomerKey.ofBytes_eq_ok_iff bytes key).mp⟩
    constructor
    · rintro ⟨key, hkey⟩
      rw [← (CustomerKey.ofBytes_eq_ok_iff bytes key).mp hkey, key.length_bytes]
    · intro hlength
      exact ⟨⟨bytes, hlength⟩, (CustomerKey.ofBytes_eq_ok_iff _ _).mpr rfl⟩

/-- A key of 32 ones, written over other headers and sent with an upload. -/
theorem encryption_of_upload_ones :
    let key : CustomerKey := ⟨List.replicate 32 1, rfl⟩
    let choice : Encryption := .customerKey key
    let h := (∅ : Headers).setAll [("x-amz-server-side-encryption-customer-key", "old"),
      ("accept", "*/*")]
    let link : Link := { replies := [.hangup] }
    (choice.contribute h).get? "Accept" = some "*/*" ∧
    (choice.contribute h).get? "X-AMZ-Server-Side-Encryption-Customer-Key" =
      some "AQEBAQEBAQEBAQEBAQEBAQEBAQEBAQEBAQEBAQEBAQE=" ∧
    (∃ request, (putObject {} "bucket" "key" [] { encryption := choice } link).2.sent =
      [request] ∧
      request.fields.getAll HeaderName.customerKeyMd5 = ["4Funlf7OsLF0HL+vKU+fkg=="]) ∧
    ∀ key, CustomerKey.ofBytes (List.replicate 31 1) ≠ .ok key := by
  intro key choice h link
  obtain ⟨hkept, howned, _, _, hbytes⟩ := encryption_of_upload choice
  have haccept : h.get? "Accept" = some "*/*" := by decide +kernel
  refine ⟨(hkept h "Accept" (by decide +kernel)).trans haccept, ?_, ?_, ?_⟩
  · obtain ⟨text, _, htext, _⟩ := howned HeaderName.customerKey (by decide)
    have hempty : (choice.contribute ∅).get? HeaderName.customerKey =
        some "AQEBAQEBAQEBAQEBAQEBAQEBAQEBAQEBAQEBAQEBAQE=" := by decide +kernel
    rw [htext h _ (by decide +kernel), ← htext ∅ HeaderName.customerKey (.inl rfl), hempty]
  · obtain ⟨digest, _, hdigest, hsent⟩ := howned HeaderName.customerKeyMd5 (by decide)
    have hempty : (choice.contribute ∅).get? HeaderName.customerKeyMd5 =
        some "4Funlf7OsLF0HL+vKU+fkg==" := by decide +kernel
    rw [hdigest ∅ _ (.inl rfl), Option.some.injEq] at hempty
    have hsends := (sent_putObject {} "bucket" "key" [] { encryption := choice } link).1.mpr
      ⟨rfl, by decide +kernel, by decide +kernel, rfl⟩
    obtain ⟨request, hrequest, hvalues⟩ := (hsent (by decide)).2.2 {} "bucket" "key" []
      { encryption := choice } link rfl hsends
    exact ⟨request, hrequest, hempty ▸ hvalues⟩
  · intro other hother
    exact absurd ((hbytes _).1.mp ⟨other, hother⟩) (by decide)

end ObjectStore.Client
