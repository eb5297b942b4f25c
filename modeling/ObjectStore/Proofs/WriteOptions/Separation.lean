import ObjectStore.Proofs.Encryption.Contribution
import ObjectStore.WriteOptions

/-!
# Metadata is kept apart

The headers of an upload are those of its options and those of its metadata. Whatever keys the
metadata has, its headers are told from all others by how their names begin, so that the two
never meet. Several keys may make one name; the greatest of them gives the value.
-/

namespace ObjectStore

namespace HeaderName

variable {name : String}

/-- Whether a name begins like those of metadata, in whatever case. -/
def isMetadata (name : String) : Bool :=
  (metadataStart.toList.map Char.toLower).isPrefixOf (name.toList.map Char.toLower)

theorem isMetadata_canonical (name : String) : isMetadata (canonical name) = isMetadata name := by
  cases h : isToken name with
  | true =>
    rw [canonical_of_isToken h, isMetadata, String.toList_ofList, map_toLower_capitalize true h,
      isMetadata]
  | false => rw [canonical_of_not_isToken h]

end HeaderName

namespace WriteOptions

open HeaderName (canonical isMetadata)
open Headers (lastField?)

variable {o : WriteOptions} {name value : String}

/-! ## Where the headers come from -/

/-- The headers about the content, and the one of the storage class. -/
def contentFields (o : WriteOptions) : List (String × String) :=
  (HeaderName.contentType, o.contentType.getD defaultContentType)
    :: o.contentEncoding.toList.map (HeaderName.contentEncoding, ·)
    ++ o.contentDisposition.toList.map (HeaderName.contentDisposition, ·)
    ++ o.cacheControl.toList.map (HeaderName.cacheControl, ·)
    ++ o.storageClass.toList.map (HeaderName.storageClass, ·)

/-- The headers of the metadata. -/
def metadataFields (o : WriteOptions) : List (String × String) :=
  o.metadata.entries.map fun entry => (metadataName entry.1, entry.2)

/-- The headers of the tags and of the encryption. -/
def storeFields (o : WriteOptions) : List (String × String) :=
  (if o.tags.isEmpty then [] else [(HeaderName.tagging, o.tagQuery.encode)])
    ++ (o.encryption.map Encryption.headers).getD []

theorem fields_eq (o : WriteOptions) :
    o.fields = o.contentFields ++ o.metadataFields ++ o.storeFields :=
  List.append_assoc ..

/-- The names of headers that do not come from metadata. -/
def optionNames : List String :=
  [HeaderName.contentType, HeaderName.contentEncoding, HeaderName.contentDisposition,
    HeaderName.cacheControl, HeaderName.storageClass, HeaderName.tagging] ++ Encryption.names

/-- No name of an option begins like one of metadata, and each is spelled canonically. -/
theorem isMetadata_of_mem_optionNames : ∀ name ∈ optionNames,
    canonical name = name ∧ isMetadata name = false := by
  decide +kernel

theorem isMetadata_metadataName (key : String) : isMetadata (metadataName key) = true := by
  rw [metadataName]
  split
  · assumption
  · rw [isMetadata, String.toList_append, List.map_append, List.isPrefixOf_iff_prefix]
    exact List.prefix_append _ _

/-- The name of a header that an option has under a name of its own. -/
theorem exists_optional_iff {given : Option String} {header : String}
    (hheader : header ∈ optionNames) :
    (∃ field ∈ given.toList.map (header, ·), canonical field.1 = name) ↔
      given.isSome = true ∧ name = header := by
  have hspelling := (isMetadata_of_mem_optionNames header hheader).1
  cases given with
  | none => simp
  | some value => simp [hspelling, eq_comm]

theorem exists_contentFields_iff : (∃ field ∈ o.contentFields, canonical field.1 = name) ↔
    name = HeaderName.contentType ∨
    (o.contentEncoding.isSome = true ∧ name = HeaderName.contentEncoding) ∨
    (o.contentDisposition.isSome = true ∧ name = HeaderName.contentDisposition) ∨
    (o.cacheControl.isSome = true ∧ name = HeaderName.cacheControl) ∨
    (o.storageClass.isSome = true ∧ name = HeaderName.storageClass) := by
  have htype : canonical HeaderName.contentType = name ↔ name = HeaderName.contentType := by
    rw [(isMetadata_of_mem_optionNames _ (by simp [optionNames])).1, eq_comm]
  simp only [contentFields, List.cons_append, List.exists_mem_cons_iff, List.mem_append,
    or_and_right, exists_or, htype, or_assoc]
  rw [exists_optional_iff (by simp [optionNames]), exists_optional_iff (by simp [optionNames]),
    exists_optional_iff (by simp [optionNames]), exists_optional_iff (by simp [optionNames])]

theorem exists_storeFields_iff : (∃ field ∈ o.storeFields, canonical field.1 = name) ↔
    (o.tags.isEmpty = false ∧ name = HeaderName.tagging) ∨
    ∃ choice, o.encryption = some choice ∧ name ∈ choice.owned := by
  have htagging : canonical HeaderName.tagging = HeaderName.tagging :=
    (isMetadata_of_mem_optionNames _ (by simp [optionNames])).1
  have howned (choice : Encryption) :
      (∃ field ∈ choice.headers, canonical field.1 = name) ↔ name ∈ choice.owned := by
    rw [← choice.map_fst_headers, List.mem_map]
    refine exists_congr fun field => and_congr_right fun hm => ?_
    rw [(Encryption.canonical_of_mem_names _
      (Encryption.mem_names_of_mem_owned (Encryption.mem_owned_of_mem_headers hm))).1]
  simp only [storeFields, List.mem_append, or_and_right, exists_or]
  refine or_congr ?_ ?_
  · cases o.tags.isEmpty with
    | true => simp
    | false => simp [htagging, eq_comm]
  · cases o.encryption with
    | none => simp
    | some choice => simpa using howned choice

theorem exists_metadataFields_iff : (∃ field ∈ o.metadataFields, canonical field.1 = name) ↔
    ∃ entry ∈ o.metadata.entries, name = canonical (metadataName entry.1) := by
  constructor
  · rintro ⟨_, hm, rfl⟩
    obtain ⟨entry, hentry, rfl⟩ := List.mem_map.mp hm
    exact ⟨entry, hentry, rfl⟩
  · rintro ⟨entry, hentry, rfl⟩
    exact ⟨_, List.mem_map_of_mem hentry, rfl⟩

/-- A header that has another source than metadata has no name of metadata. -/
theorem isMetadata_of_exists (h : ∃ field ∈ o.contentFields ++ o.storeFields,
    canonical field.1 = name) : isMetadata name = false := by
  have hm : name ∈ optionNames := by
    simp only [List.mem_append, or_and_right, exists_or, exists_contentFields_iff,
      exists_storeFields_iff] at h
    rcases h with (rfl | ⟨_, rfl⟩ | ⟨_, rfl⟩ | ⟨_, rfl⟩ | ⟨_, rfl⟩) | ⟨_, rfl⟩ | ⟨choice, _, hm⟩
    -- Only the headers of encryptions are not listed one by one.
    case inr.inr => exact List.mem_append_right _ (Encryption.mem_names_of_mem_owned hm)
    all_goals simp [optionNames]
  exact (isMetadata_of_mem_optionNames name hm).2

/-! ## The values -/

theorem get?_header (o : WriteOptions) (name : String) :
    o.header.get? name = (lastField? o.storeFields name).or
      ((lastField? o.metadataFields name).or (lastField? o.contentFields name)) := by
  rw [← Headers.lastField?_append, ← Headers.lastField?_append, ← fields_eq]
  exact (Headers.get?_setAll_eq ∅ o.fields name).trans Option.or_none

/-- The headers of the encryption are set last. -/
theorem get?_header_of_mem_headers {choice : Encryption} (h : o.encryption = some choice)
    (hm : (name, value) ∈ choice.headers) : o.header.get? name = some value := by
  have hlast : lastField? o.storeFields name = some value := by
    rw [storeFields, h, Headers.lastField?_append, Option.map_some, Option.getD_some,
      Encryption.lastField?_headers hm (.inl rfl), Option.some_or]
  rw [get?_header, hlast, Option.some_or]

/-- A header of metadata has the value of the last piece of metadata with its name. -/
theorem get?_header_of_isMetadata (h : isMetadata name = true) :
    o.header.get? name = lastField? o.metadataFields name := by
  have hnone : lastField? (o.contentFields ++ o.storeFields) name = none := by
    rw [Headers.lastField?_eq_none_iff]
    intro field hm he
    have hother := isMetadata_of_exists ⟨field, hm, he⟩
    rw [HeaderName.isMetadata_canonical, h] at hother
    cases hother
  rw [Headers.lastField?_append, Option.or_eq_none_iff] at hnone
  rw [get?_header, hnone.1, hnone.2, Option.none_or, Option.or_none]

/-- Other headers do not come from metadata. -/
theorem get?_header_of_not_isMetadata (h : isMetadata name = false) :
    o.header.get? name = lastField? (o.contentFields ++ o.storeFields) name := by
  have hnone : lastField? o.metadataFields name = none := by
    rw [Headers.lastField?_eq_none_iff, metadataFields, List.forall_mem_map]
    intro entry _ he
    have hentry := isMetadata_metadataName entry.1
    rw [← HeaderName.isMetadata_canonical, he, HeaderName.isMetadata_canonical, h] at hentry
    cases hentry
  rw [get?_header, hnone, Option.none_or, Headers.lastField?_append]

/-- Of the pieces of metadata with one name the one with the greatest key gives the value. -/
theorem lastField?_metadataFields_eq_some_iff : lastField? o.metadataFields name = some value ↔
    ∃ key, (key, value) ∈ o.metadata.entries ∧ canonical (metadataName key) = canonical name ∧
      ∀ other ∈ o.metadata.entries, canonical (metadataName other.1) = canonical name →
        other = (key, value) ∨ Text.utf8 other.1 < Text.utf8 key := by
  have hlast : lastField? o.metadataFields name =
      (o.metadata.entries.findRev? fun entry =>
        canonical name == canonical (metadataName entry.1)).map Prod.snd := by
    rw [lastField?, metadataFields, List.findRev?_eq_find?_reverse, ← List.map_reverse,
      List.find?_map, List.findRev?_eq_find?_reverse, Option.map_map]
    rfl
  have hasymm (a b : String × String) (hab : a.1 < b.1) : ¬ b.1 < a.1 :=
    String.lt_asymm hab
  rw [hlast, Option.map_eq_some_iff]
  simp only [findRev?_eq_some_iff_of_pairwise hasymm o.metadata.ascending,
    beq_iff_eq, Text.utf8_lt_utf8_iff, eq_comm (a := canonical name)]
  constructor
  · rintro ⟨⟨key, _⟩, hentry, rfl⟩
    exact ⟨key, hentry⟩
  · rintro ⟨key, hentry⟩
    exact ⟨(key, value), hentry, rfl⟩

/--
The headers of an upload, whatever keys its metadata has. They are the one of the content's type,
those of the options that are given, the one of the tags if there are any, those of the encryption
that was chosen, and one for each name that a key of the metadata makes. A name that does not begin
like those of metadata, in whatever case, is none of the latter, and whether it is there and with
which value does not depend on the metadata. A piece of metadata that shares its name with no other
one is there; of those that share a name the one whose key has the greatest bytes is.
-/
theorem header_of_upload (o : WriteOptions) :
    (∀ name, name ∈ o.header.toList.map Prod.fst ↔
      name = HeaderName.contentType ∨
      (o.contentEncoding.isSome = true ∧ name = HeaderName.contentEncoding) ∨
      (o.contentDisposition.isSome = true ∧ name = HeaderName.contentDisposition) ∨
      (o.cacheControl.isSome = true ∧ name = HeaderName.cacheControl) ∨
      (o.storageClass.isSome = true ∧ name = HeaderName.storageClass) ∨
      (o.tags.isEmpty = false ∧ name = HeaderName.tagging) ∨
      (∃ choice, o.encryption = some choice ∧ name ∈ choice.owned) ∨
      ∃ entry ∈ o.metadata.entries, name = canonical (metadataName entry.1)) ∧
    (∀ key, isMetadata (canonical (metadataName key)) = true) ∧
    (∀ metadata name value, isMetadata name = false →
      ((name, value) ∈ { o with metadata := metadata }.header.toList ↔
        (name, value) ∈ o.header.toList)) ∧
    (∀ key value, (key, value) ∈ o.metadata.entries →
      (∀ other ∈ o.metadata.entries,
        canonical (metadataName other.1) = canonical (metadataName key) → other = (key, value)) →
      (canonical (metadataName key), value) ∈ o.header.toList) ∧
    ∀ name value, isMetadata name = true → ((name, value) ∈ o.header.toList ↔
      ∃ key, (key, value) ∈ o.metadata.entries ∧ canonical (metadataName key) = name ∧
        ∀ other ∈ o.metadata.entries, canonical (metadataName other.1) = name →
          other = (key, value) ∨ Text.utf8 other.1 < Text.utf8 key) := by
  have hmetadata (key : String) : isMetadata (canonical (metadataName key)) = true := by
    rw [HeaderName.isMetadata_canonical, isMetadata_metadataName]
  refine ⟨?_, hmetadata, ?_, ?_, ?_⟩
  · intro name
    rw [header, Headers.mem_names_setAll, fields_eq]
    simp only [List.mem_append, or_and_right, exists_or, exists_contentFields_iff,
      exists_storeFields_iff, exists_metadataFields_iff]
    rw [or_right_comm]
    simp only [or_assoc]
  · intro metadata name value hname
    rw [Headers.mem_toList_iff, Headers.mem_toList_iff, get?_header_of_not_isMetadata hname,
      get?_header_of_not_isMetadata hname]
    rfl
  · intro key value hm halone
    rw [Headers.mem_toList_iff, get?_header_of_isMetadata (hmetadata key),
      lastField?_metadataFields_eq_some_iff, HeaderName.canonical_canonical]
    exact ⟨rfl, key, hm, rfl, fun other ho he => .inl (halone other ho he)⟩
  · intro name value hname
    rw [Headers.mem_toList_iff, get?_header_of_isMetadata hname,
      lastField?_metadataFields_eq_some_iff]
    constructor
    · rintro ⟨hspelling, hlast⟩
      rwa [hspelling] at hlast
    · rintro ⟨key, hm, rfl, hgreatest⟩
      have hspelling := HeaderName.canonical_canonical (metadataName key)
      rw [hspelling]
      exact ⟨rfl, key, hm, rfl, hgreatest⟩

/-- Two keys make one name, one key is that of another header, and one makes no name of a header. -/
theorem header_of_upload_shared_name :
    let metadata : SortedMap String :=
      ⟨[("Color", "red"), ("X-AMZ-META-color", "blue"), ("content-type", "a"), ("größe", "1")],
        by decide +kernel⟩
    let o : WriteOptions := { cacheControl := some "no-cache", metadata }
    isMetadata "Content-Type" = false ∧ isMetadata "X-Amz-Meta-Color" = true ∧
    (("Content-Type", "application/octet-stream") ∈ o.header.toList ↔
      ("Content-Type", "application/octet-stream") ∈
        { o with metadata := ∅ }.header.toList) ∧
    HeaderName.cacheControl ∈ o.header.toList.map Prod.fst ∧
    HeaderName.tagging ∉ o.header.toList.map Prod.fst ∧
    ("X-Amz-Meta-Color", "blue") ∈ o.header.toList ∧
    ("X-Amz-Meta-größe", "1") ∈ o.header.toList := by
  intro metadata o
  obtain ⟨hnames, _, hkept, halone, hshared⟩ := header_of_upload o
  have htype : isMetadata "Content-Type" = false := by decide +kernel
  have hcolor : isMetadata "X-Amz-Meta-Color" = true := by decide +kernel
  refine ⟨htype, hcolor, (hkept ∅ _ _ htype).symm, ?_, ?_, ?_, ?_⟩
  · rw [hnames]
    exact .inr (.inr (.inr (.inl ⟨rfl, rfl⟩)))
  · rw [hnames]
    decide +kernel
  · rw [hshared _ _ hcolor]
    exact ⟨"X-AMZ-META-color", by decide +kernel, by decide +kernel, by decide +kernel⟩
  · exact halone "größe" "1" (by decide +kernel) (by decide +kernel)

end WriteOptions

end ObjectStore
