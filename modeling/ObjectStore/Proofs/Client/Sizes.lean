import ObjectStore.Proofs.Client.Pages
import ObjectStore.Proofs.Config.Validity
import ObjectStore.Proofs.Removal.Runs

/-!
# How much is asked for in one call

The size of a page and the size of a batch are settings that may be any number. What is asked for
in one call is the number brought into the range of what a call may ask for, and since a valid
configuration has only numbers of this range, what is asked for is then what was configured.
-/

namespace ObjectStore

/-- The numbers that are left as they are are those that a call may ask for. -/
theorem clampToCall_eq_self_iff (n : Nat) :
    clampToCall n = n ↔ 1 ≤ n ∧ n ≤ maxKeysPerCall := by
  rw [clampToCall, maxKeysPerCall]
  omega

namespace ListOptions

theorem clampSize_natCast (n : Nat) : clampSize n = clampToCall n := by
  rw [clampSize, clampToCall, maxKeysPerCall]
  omega

theorem clampSize_clampSize (n : Int) : clampSize (clampSize n) = clampSize n := by
  rw [clampSize, clampSize, maxKeysPerCall]
  omega

/-- The configured size is brought into the range of a call, also where it is beyond 31 bits. -/
theorem pageSize_ofTransfer (keyPrefix : String) (t : Transfer) :
    (ofTransfer keyPrefix t).pageSize = clampToCall t.listPageSize := by
  rw [ofTransfer, pageSize, withMaxKeys, clampSize_clampSize]
  split
  · exact clampSize_natCast _
  · next h =>
    rw [clampSize_natCast, clampToCall, clampToCall, maxKeysPerCall]
    omega

end ListOptions

theorem RemoveOptions.effectiveBatchSize_ofTransfer (t : Transfer) :
    (ofTransfer t).effectiveBatchSize = clampToCall t.deleteBatchSize := rfl

/-- A valid configuration has the sizes that are asked for. -/
theorem Config.IsValid.clampToCall_eq {c : Config} (h : c.IsValid) :
    clampToCall (c.transfer.getD {}).listPageSize = (c.transfer.getD {}).listPageSize ∧
    clampToCall (c.transfer.getD {}).deleteBatchSize = (c.transfer.getD {}).deleteBatchSize := by
  rw [clampToCall_eq_self_iff, clampToCall_eq_self_iff]
  cases ht : c.transfer with
  | none => decide
  | some t => exact ⟨h.listPageSize t ht, h.deleteBatchSize t ht⟩

/-- Settings of the calls pass if time is given and they have the sizes that are asked for. -/
theorem Transfer.validate_eq_ok_iff_clampToCall (t : Transfer) : t.validate = .ok () ↔
    clampToCall t.listPageSize = t.listPageSize ∧
    clampToCall t.deleteBatchSize = t.deleteBatchSize ∧ 0 < t.timeout := by
  rw [validate_eq_ok_iff, clampToCall_eq_self_iff, clampToCall_eq_self_iff]

/--
Calls for pages ask for pages of this size. A call for a page of a bucket that has a name sends one
request, whatever the token, if the store gets it, and the request says so.
-/
def Client.AsksForPagesOf (c : Client) (options : ListOptions) (size : Nat) : Prop :=
  ∀ bucket token link, Client.requireName bucket = .ok () → link.next?.isSome = true →
    ∃ request path text params,
      (c.listPage bucket options token link).2.sent = link.sent ++ [request] ∧
      request.target = path ++ "?" ++ text ∧ Query.decode? text = some params ∧
      params.lookup "max-keys" = some (toString size)

theorem Client.asksForPagesOf_pageSize (c : Client) {options : ListOptions} {size : Nat}
    (h : options.pageSize = size) : c.AsksForPagesOf options size := by
  intro bucket token link hname hnext
  have hrequest := c.pageRequest_eq bucket options token
  rw [hname] at hrequest
  obtain ⟨_, segment, text, params, htarget, _, hparams, hasks⟩ := carries_of_pageRequest hrequest
  refine ⟨_, _, text, params, ?_, htarget, hparams, ?_⟩
  · rw [listPage, Call.sent_perform, if_pos hnext, hrequest]
    rfl
  · rw [hasks.maxKeys, h]
    rfl

namespace Removal

/--
A removal works in batches of this size: none has more objects, and only the last one may have
fewer. Where every call reaches the store, all objects are handed to the deleter in this way.
-/
def WorksInBatchesOf (options : RemoveOptions) (size : Nat) : Prop :=
  ∀ (deleter : Deleter) (ids : List ObjectId),
    let batches := (Consumer.run deleter options ids).batches
    (∀ batch ∈ batches, batch.length ≤ size) ∧
    (∀ batch ∈ batches.dropLast, batch.length = size) ∧
    ((∀ number batch words, deleter number batch ≠ .crashed words) →
      (∀ number batch detail, deleter number batch ≠ .failed (.transport detail)) →
      batches.flatten = ids)

/-- The last member of a first part is the last one of the whole, or there are more. -/
theorem dropLast_subset_of_isPrefix {α : Type} {part whole : List α} (h : part <+: whole) :
    part.dropLast ⊆ whole.dropLast := by
  obtain ⟨rest, rfl⟩ := h
  by_cases hrest : rest = []
  · rw [hrest, List.append_nil]
    exact List.Subset.refl _
  · rw [List.dropLast_append_of_ne_nil hrest]
    exact List.Subset.trans (List.dropLast_subset part) (List.subset_append_left _ _)

theorem worksInBatchesOf_effectiveBatchSize (options : RemoveOptions) :
    WorksInBatchesOf options options.effectiveBatchSize := by
  intro deleter ids batches
  have hpos := Consumer.effectiveBatchSize_pos options
  have hbatches : batches = (attempts deleter options ids).map Attempt.batch :=
    Consumer.batches_run deleter options ids
  have hissued : batches <+: pieces options.effectiveBatchSize ids := by
    rw [hbatches]
    exact attemptsFrom_batches_isPrefix deleter 0 _
  refine ⟨?_, ?_, ?_⟩
  · intro batch hm
    exact length_le_of_mem_pieces hpos (hissued.subset hm)
  · intro batch hm
    exact length_eq_of_mem_dropLast_pieces hpos (dropLast_subset_of_isPrefix hissued hm)
  · intro hcrash hreach
    rw [hbatches, attempts, attemptsFrom_batches_eq, flatten_pieces]
    intro number batch _
    cases hanswer : deleter number batch with
    | failures => rfl
    | failed error =>
      refine Bool.eq_false_iff.mpr fun ht => ?_
      obtain ⟨detail, rfl⟩ := Error.isTransport_iff.mp ht
      exact hreach number batch detail hanswer
    | crashed words => exact absurd hanswer (hcrash number batch words)

end Removal

open Removal (WorksInBatchesOf)

/--
The sizes of pages and of batches. Pages are asked for, and batches made, in the configured size
brought between 1 and 1000, however large it is, and no size of a page given in another way leads
out of this range. A configuration passes the rules exactly if it is valid, and settings of the
calls pass exactly if time is given and neither size is changed. A client of a configuration that
passes therefore asks for pages, and removes batches, of the sizes that are configured, or of those
that stand for a section that is missing.
-/
theorem sizes_of_config (c : Client) (keyPrefix : String) :
    (∀ t : Transfer,
      c.AsksForPagesOf (.ofTransfer keyPrefix t) (max 1 (min t.listPageSize 1000)) ∧
      WorksInBatchesOf (.ofTransfer t) (max 1 (min t.deleteBatchSize 1000)) ∧
      (t.validate = .ok () ↔ max 1 (min t.listPageSize 1000) = t.listPageSize ∧
        max 1 (min t.deleteBatchSize 1000) = t.deleteBatchSize ∧ 0 < t.timeout)) ∧
    (∀ options : ListOptions, ∃ size, 1 ≤ size ∧ size ≤ 1000 ∧ c.AsksForPagesOf options size) ∧
    ∀ config : Config, (config.validate = .ok () ↔ config.IsValid) ∧
      (config.validate = .ok () → ∃ client, Client.ofConfig config = .ok client ∧
        client.AsksForPagesOf (client.listOptions keyPrefix)
          (config.transfer.getD {}).listPageSize ∧
        WorksInBatchesOf client.removeOptions (config.transfer.getD {}).deleteBatchSize ∧
        client.transfer = config.transfer.getD {}) := by
  refine ⟨?_, ?_, ?_⟩
  · intro t
    exact ⟨c.asksForPagesOf_pageSize (ListOptions.pageSize_ofTransfer keyPrefix t),
      Removal.worksInBatchesOf_effectiveBatchSize (.ofTransfer t),
      t.validate_eq_ok_iff_clampToCall⟩
  · intro options
    obtain ⟨size, hsize⟩ := Int.eq_ofNat_of_zero_le
      (Int.le_trans (by decide) options.one_le_pageSize)
    have hone := options.one_le_pageSize
    have hmax : options.pageSize ≤ 1000 := options.pageSize_le
    rw [hsize] at hone hmax
    exact ⟨size, Int.ofNat_le.mp hone, Int.ofNat_le.mp hmax, c.asksForPagesOf_pageSize hsize⟩
  · intro config
    refine ⟨config.validate_eq_ok_iff, ?_⟩
    intro h
    obtain ⟨hlist, hdelete⟩ := (config.validate_eq_ok_iff.mp h).clampToCall_eq
    let client : Client :=
      { basePath := pathOfUrl config.endpoint.url, transfer := config.transfer.getD {} }
    refine ⟨client, ?_, ?_, ?_, rfl⟩
    · rw [Client.ofConfig, h]
      rfl
    · apply client.asksForPagesOf_pageSize
      exact (ListOptions.pageSize_ofTransfer keyPrefix _).trans (congrArg _ hlist)
    · have hbatches := Removal.worksInBatchesOf_effectiveBatchSize client.removeOptions
      rwa [Client.removeOptions, RemoveOptions.effectiveBatchSize_ofTransfer, hdelete] at hbatches

/-- A size beyond 31 bits and a size of zero are not passed, and sizes at the limits are kept. -/
theorem sizes_of_config_limits :
    let outside : Transfer := { listPageSize := 4294967296, deleteBatchSize := 0 }
    let config : Config :=
      { endpoint := { url := "http://localhost" }, transfer := some { listPageSize := 1 } }
    let client : Client := {}
    client.AsksForPagesOf (.ofTransfer "a/" outside) 1000 ∧
    WorksInBatchesOf (.ofTransfer outside) 1 ∧ outside.validate ≠ .ok () ∧
    config.validate = .ok () ∧ ∃ client, Client.ofConfig config = .ok client ∧
      client.AsksForPagesOf (client.listOptions "a/") 1 ∧
      WorksInBatchesOf client.removeOptions 1000 := by
  intro outside config client
  obtain ⟨htransfer, _, hconfig⟩ := sizes_of_config client "a/"
  obtain ⟨hpages, hbatches, hvalid⟩ := htransfer outside
  have hrefused : outside.validate ≠ .ok () := by
    intro h
    exact absurd (hvalid.mp h).1 (by decide)
  have haccepted : config.validate = .ok () := by decide
  obtain ⟨made, hmade, hmadePages, hmadeBatches, _⟩ := (hconfig config).2 haccepted
  exact ⟨hpages, hbatches, hrefused, haccepted, made, hmade, hmadePages, hmadeBatches⟩

end ObjectStore
