import ObjectStore.Encryption
import ObjectStore.Proofs.Headers.Sequences
import ObjectStore.Proofs.Http.Visible

/-!
# What an encryption writes

Each choice of an encryption owns headers, one to three of them. It gives each of them a value that
does not depend on what is there, and leaves all others alone. A key of the caller can be read from
its header, and its digest from another one; but for the name of a key in a key service,
all values are visible.
-/

namespace ObjectStore

namespace Encryption

variable {choice : Encryption} {name value : String}

/-- The headers that a choice owns. -/
def owned : Encryption → List String
  | customerKey _ =>
    [HeaderName.customerAlgorithm, HeaderName.customerKey, HeaderName.customerKeyMd5]
  | storeKeys => [HeaderName.encryption]
  | keyService keyId =>
    HeaderName.encryption :: (if keyId.isSome then [HeaderName.kmsKeyId] else [])

/-- The headers that encryptions own. -/
def names : List String :=
  [HeaderName.encryption, HeaderName.kmsKeyId, HeaderName.customerAlgorithm,
    HeaderName.customerKey, HeaderName.customerKeyMd5]

theorem map_fst_headers (choice : Encryption) : choice.headers.map Prod.fst = choice.owned := by
  rcases choice with key | _ | _ | keyId <;> rfl

theorem owned_sublist_names (choice : Encryption) : choice.owned.Sublist names := by
  rcases choice with key | _ | _ | keyId
  · exact List.sublist_append_right [HeaderName.encryption, HeaderName.kmsKeyId] _
  · exact List.sublist_append_left [HeaderName.encryption] _
  · exact List.sublist_append_left [HeaderName.encryption] _
  · exact List.sublist_append_left [HeaderName.encryption, HeaderName.kmsKeyId] _

/-- Names of encryptions are names of headers, each in canonical spelling. -/
theorem canonical_of_mem_names : ∀ name ∈ names,
    HeaderName.canonical name = name ∧ HeaderName.isToken name = true ∧ name ≠ "" := by
  decide +kernel

theorem mem_names_of_mem_owned (hm : name ∈ choice.owned) : name ∈ names :=
  choice.owned_sublist_names.subset hm

theorem mem_owned_of_mem_headers (hm : (name, value) ∈ choice.headers) : name ∈ choice.owned := by
  rw [← map_fst_headers]
  exact List.mem_map_of_mem hm

theorem exists_mem_headers (hm : name ∈ choice.owned) :
    ∃ value, (name, value) ∈ choice.headers := by
  rw [← map_fst_headers] at hm
  obtain ⟨field, hfield, rfl⟩ := List.mem_map.mp hm
  exact ⟨field.2, hfield⟩

/-- The fields of a choice are about different headers. -/
theorem nodup_canonical_headers (choice : Encryption) :
    (choice.headers.map fun field => HeaderName.canonical field.1).Nodup := by
  have hcanonical : choice.headers.map (fun field => HeaderName.canonical field.1) =
      choice.headers.map Prod.fst := by
    refine List.map_congr_left fun field hm => ?_
    exact (canonical_of_mem_names _ (mem_names_of_mem_owned (mem_owned_of_mem_headers hm))).1
  rw [hcanonical, map_fst_headers]
  exact choice.owned_sublist_names.nodup (by decide)

/-! ## What is written -/

/-- A header that a choice owns has the value of the choice, in every spelling of its name. -/
theorem lastField?_headers {spelling : String} (hm : (name, value) ∈ choice.headers)
    (hsame : HeaderName.Same spelling name) :
    Headers.lastField? choice.headers spelling = some value := by
  rw [Headers.lastField?_congr (HeaderName.canonical_eq_canonical_iff.mpr hsame)]
  exact Headers.lastField?_of_mem choice.nodup_canonical_headers hm

theorem get?_contribute_of_mem {spelling : String} (hm : (name, value) ∈ choice.headers)
    (hsame : HeaderName.Same spelling name) (h : Headers) :
    (choice.contribute h).get? spelling = some value := by
  rw [contribute, Headers.get?_setAll_eq, lastField?_headers hm hsame, Option.some_or]

/-- A header that a choice does not own is as before. -/
theorem get?_contribute_of_not_owned (h : Headers)
    (hname : ∀ owned ∈ choice.owned, ¬ HeaderName.Same name owned) :
    (choice.contribute h).get? name = h.get? name := by
  have hnone : Headers.lastField? choice.headers name = none := by
    rw [Headers.lastField?_eq_none_iff]
    intro field hm he
    exact hname field.1 (mem_owned_of_mem_headers hm)
      (HeaderName.canonical_eq_canonical_iff.mp he.symm)
  rw [contribute, Headers.get?_setAll_eq, hnone, Option.none_or]

theorem contribute_contribute (choice : Encryption) (h : Headers) :
    choice.contribute (choice.contribute h) = choice.contribute h :=
  h.setAll_setAll choice.headers

/-! ## The values -/

/-- But for the name of a key in a key service, what is written is visible. -/
theorem isAllVisible_of_mem_headers (hm : (name, value) ∈ choice.headers)
    (hname : name ≠ HeaderName.kmsKeyId) : Text.isAllVisible value = true := by
  rcases choice with key | _ | _ | keyId
  · simp only [headers, List.mem_cons, Prod.mk.injEq, List.not_mem_nil, or_false] at hm
    rcases hm with ⟨_, rfl⟩ | ⟨_, rfl⟩ | ⟨_, rfl⟩
    · decide
    · exact Text.Base64.isAllVisible_encode key.bytes
    · exact Text.Base64.isAllVisible_encode (Digest.Md5.digest key.bytes)
  · simp only [headers, List.mem_singleton, Prod.mk.injEq] at hm
    rw [hm.2]
    decide
  · simp only [headers, List.mem_singleton, Prod.mk.injEq] at hm
    rw [hm.2]
    decide
  · simp only [headers, List.mem_cons, Prod.mk.injEq, List.not_mem_nil, or_false] at hm
    rcases hm with ⟨_, rfl⟩ | ⟨rfl, _⟩
    · decide
    · exact absurd rfl hname

end Encryption

/-! ## Keys of the caller -/

namespace CustomerKey

/-- Different keys of the caller are written differently. -/
theorem base64_inj {key key' : CustomerKey} (h : key.base64 = key'.base64) : key = key' := by
  have hbytes := congrArg Text.Base64.decode? h
  rw [base64, base64, Text.Base64.decode?_encode, Text.Base64.decode?_encode,
    Option.some.injEq] at hbytes
  cases key
  cases key'
  simpa using hbytes

/-- A key is made of the bytes that are given, if they are as many as a key has. -/
theorem ofBytes_eq_ok_iff (bytes : List UInt8) (key : CustomerKey) :
    ofBytes bytes = .ok key ↔ key.bytes = bytes := by
  constructor
  · intro h
    rw [ofBytes] at h
    split at h
    · rw [← Except.ok.inj h]
    · cases h
  · rintro rfl
    rw [ofBytes, dif_pos key.length_bytes]

end CustomerKey

end ObjectStore
