import ObjectStore.Proofs.Client.Documents
import ObjectStore.Proofs.Query.RoundTrip
import ObjectStore.Proofs.WriteOptions.Separation

/-!
# Tags of an upload

The tags travel as the text of a query, one pair for each tag in the order of the keys, and are
read back from there. The check before an upload lets a set of tags pass exactly if it is within
the limits of the store, which count characters and not bytes.
-/

namespace ObjectStore

/-! ## The query of the tags -/

/-- An entry beyond all others goes to the end. -/
theorem SortedMap.insertEntry_of_forall_lt {β : Type} {k : String} {es : List (String × β)} (v : β)
    (h : ∀ e ∈ es, e.1 < k) : insertEntry k v es = es ++ [(k, v)] := by
  induction es with
  | nil => rfl
  | cons e es ih =>
    rw [List.forall_mem_cons] at h
    rw [insertEntry, if_neg (String.lt_asymm h.1), if_pos h.1, ih h.2, List.cons_append]

/-- Keys that are set in ascending order are listed as they were set. -/
theorem Query.toList_setAll {tags : List (String × String)} (q : Query)
    (htags : tags.Pairwise fun a b => a.1 < b.1)
    (hq : ∀ tag ∈ tags, ∀ entry ∈ q.toList, entry.1 < tag.1) :
    (tags.foldl (fun q tag => q.set tag.1 tag.2) q).toList =
      q.toList ++ tags.map fun tag => (tag.1, [tag.2]) := by
  induction tags generalizing q with
  | nil => exact (List.append_nil _).symm
  | cons tag tags ih =>
    rw [List.pairwise_cons] at htags
    rw [List.forall_mem_cons] at hq
    have hset : (q.set tag.1 tag.2).toList = q.toList ++ [(tag.1, [tag.2])] :=
      SortedMap.insertEntry_of_forall_lt [tag.2] hq.1
    have hlater : ∀ later ∈ tags, ∀ entry ∈ (q.set tag.1 tag.2).toList, entry.1 < later.1 := by
      intro later hl entry he
      rw [hset, List.mem_append, List.mem_singleton] at he
      rcases he with he | rfl
      · exact hq.2 later hl entry he
      · exact htags.1 later hl
    rw [List.foldl_cons, ih _ htags.2 hlater, hset, List.map_cons, List.append_assoc,
      List.singleton_append]

namespace WriteOptions

open HeaderName (canonical isMetadata)
open Headers (lastField?)

variable {o : WriteOptions}

/-- The pairs of the query are the tags. -/
theorem pairs_tagQuery (o : WriteOptions) : o.tagQuery.pairs = o.tags.entries := by
  have hlist : o.tagQuery.toList = o.tags.entries.map fun tag => (tag.1, [tag.2]) :=
    Query.toList_setAll ∅ o.tags.ascending fun _ _ _ he => absurd he List.not_mem_nil
  rw [Query.pairs, hlist, List.flatMap_map]
  simp

theorem decode?_encode_tagQuery (o : WriteOptions) :
    Query.decode? o.tagQuery.encode = some o.tags.entries := by
  rw [Query.decode?_encode, pairs_tagQuery]

/-! ## The header of the tags -/

/-- The header of the tags is there if there are tags, and holds their text. -/
theorem get?_header_tagging (o : WriteOptions) : o.header.get? HeaderName.tagging =
    if o.tags.isEmpty then none else some o.tagQuery.encode := by
  have hname : canonical HeaderName.tagging = HeaderName.tagging ∧
      isMetadata HeaderName.tagging = false :=
    isMetadata_of_mem_optionNames _ (by simp [optionNames])
  have hcontent : lastField? o.contentFields HeaderName.tagging = none := by
    rw [Headers.lastField?_eq_none_iff]
    intro field hm he
    have hother := exists_contentFields_iff.mp ⟨field, hm, he.trans hname.1⟩
    rcases hother with h | ⟨_, h⟩ | ⟨_, h⟩ | ⟨_, h⟩ | ⟨_, h⟩ <;> exact absurd h (by decide)
  have hencryption : lastField? ((o.encryption.map Encryption.headers).getD [])
      HeaderName.tagging = none := by
    cases o.encryption with
    | none => rfl
    | some choice =>
      rw [Headers.lastField?_eq_none_iff]
      intro field hm he
      have hmem := Encryption.mem_names_of_mem_owned (Encryption.mem_owned_of_mem_headers hm)
      rw [(Encryption.canonical_of_mem_names _ hmem).1, hname.1] at he
      exact absurd (he ▸ hmem) (by decide)
  rw [get?_header_of_not_isMetadata hname.2, storeFields, Headers.lastField?_append,
    Headers.lastField?_append, hcontent, hencryption, Option.none_or, Option.or_none]
  split
  · rfl
  · exact Headers.lastField?_of_mem (List.nodup_singleton _) (List.mem_singleton_self _)

/-! ## The limits -/

/-- Tags that are few enough and, counted in characters, short enough for the store. -/
structure AreAllowed (tags : List (String × String)) : Prop where
  /-- There are at most ten tags. -/
  length_le : tags.length ≤ 10
  /-- Every key has 1 to 128 characters. -/
  key_length : ∀ tag ∈ tags, 1 ≤ tag.1.length ∧ tag.1.length ≤ 128
  /-- Every value has at most 256 characters. -/
  value_length : ∀ tag ∈ tags, tag.2.length ≤ 256

theorem validateTag_eq_ok_iff (tag : String × String) : validateTag tag = .ok () ↔
    (1 ≤ tag.1.length ∧ tag.1.length ≤ 128) ∧ tag.2.length ≤ 256 := by
  have hempty : tag.1.isEmpty = true ↔ tag.1.length = 0 := by
    rw [String.isEmpty_iff, String.length_eq_zero_iff]
  have hkey : maxTagKeyLength = 128 := rfl
  have hvalue : maxTagValueLength = 256 := rfl
  rw [validateTag]
  simp only [Bool.or_eq_true, decide_eq_true_eq, hempty]
  split
  · refine iff_of_false (by simp) ?_
    omega
  · split
    · refine iff_of_false (by simp) ?_
      omega
    · refine iff_of_true rfl ?_
      omega

/-- A check of each member of a row succeeds where each of them does. -/
theorem forM_eq_ok_iff {α : Type} {check : α → Except Error Unit} {members : List α} :
    members.forM check = .ok () ↔ ∀ member ∈ members, check member = .ok () := by
  induction members with
  | nil => simp [pure, Except.pure]
  | cons member rest ih =>
    rw [List.forM, bind_eq_ok_iff, List.forall_mem_cons, ← ih]
    constructor
    · rintro ⟨⟨⟩, hmember, hrest⟩
      exact ⟨hmember, hrest⟩
    · rintro ⟨hmember, hrest⟩
      exact ⟨(), hmember, hrest⟩

/-- A check of each member of a row fails with the failure of a member. -/
theorem exists_of_forM_eq_error {α : Type} {check : α → Except Error Unit} {members : List α}
    {e : Error} (h : members.forM check = .error e) :
    ∃ member ∈ members, check member = .error e := by
  induction members with
  | nil => cases h
  | cons member rest ih =>
    rw [List.forM, bind_eq_error_iff] at h
    rcases h with h | ⟨_, _, h⟩
    · exact ⟨member, List.mem_cons_self, h⟩
    · obtain ⟨other, hm, hother⟩ := ih h
      exact ⟨other, List.mem_cons_of_mem member hm, hother⟩

/-- The check lets tags pass if they are within the limits, and no others. -/
theorem validate_eq_ok_iff (o : WriteOptions) :
    o.validate = .ok () ↔ AreAllowed o.tags.entries := by
  rw [validate]
  split
  · rename_i h
    refine iff_of_false (by simp) ?_
    intro hallowed
    exact absurd hallowed.length_le (Nat.not_le.mpr h)
  · rename_i h
    rw [forM_eq_ok_iff]
    simp only [validateTag_eq_ok_iff]
    constructor
    · intro htags
      exact ⟨Nat.not_lt.mp h, fun tag hm => (htags tag hm).1, fun tag hm => (htags tag hm).2⟩
    · intro hallowed tag hm
      exact ⟨hallowed.key_length tag hm, hallowed.value_length tag hm⟩

/-- Whatever limit is broken, the failure is one of the caller. -/
theorem exists_of_validate_eq_error {e : Error} (h : o.validate = .error e) :
    ∃ message, e = .invalidArgument message := by
  rw [validate] at h
  split at h
  · exact ⟨_, (Except.error.inj h).symm⟩
  · obtain ⟨tag, _, htag⟩ := exists_of_forM_eq_error h
    rw [validateTag] at htag
    split at htag
    · exact ⟨_, (Except.error.inj htag).symm⟩
    · split at htag
      · exact ⟨_, (Except.error.inj htag).symm⟩
      · cases htag

end WriteOptions

end ObjectStore
