import ObjectStore.Config
import ObjectStore.Proofs.Client.Documents

/-!
# Valid configurations

What the rules for a configuration come to when they are taken together: the configurations that
pass are those that satisfy all of them, whichever is looked at first.
-/

namespace ObjectStore

theorem beginsWith_iff (start s : String) :
    beginsWith start s = true ↔ ∃ rest, s = start ++ rest := by
  rw [beginsWith, List.isPrefixOf_iff_prefix]
  constructor
  · rintro ⟨rest, h⟩
    refine ⟨String.ofList rest, ?_⟩
    apply String.toList_inj.mp
    rw [String.toList_append, String.toList_ofList, h]
  · rintro ⟨rest, rfl⟩
    rw [String.toList_append]
    exact List.prefix_append _ _

/-- A fault is a failure, so that a rule passes exactly where it sees none. -/
theorem ite_invalid_eq_ok_iff (p : Prop) [Decidable p] (detail : String) :
    (if p then .ok () else invalid detail) = .ok () ↔ p := by
  split <;> simp [invalid, *]

/-- Of two rules in turn both have to pass. -/
theorem then_eq_ok_iff {first second : Except Error Unit} :
    (first >>= fun _ => second) = .ok () ↔ first = .ok () ∧ second = .ok () := by
  rw [bind_eq_ok_iff]
  constructor
  · rintro ⟨⟨⟩, hfirst, hsecond⟩
    exact ⟨hfirst, hsecond⟩
  · rintro ⟨hfirst, hsecond⟩
    exact ⟨(), hfirst, hsecond⟩

theorem Transfer.validateSize_eq_ok_iff (name : String) (n : Nat) :
    validateSize name n = .ok () ↔ 1 ≤ n ∧ n ≤ maxKeysPerCall :=
  ite_invalid_eq_ok_iff _ _

/-- Settings of the calls pass if both sizes are ones that a call may ask for, and time is given. -/
theorem Transfer.validate_eq_ok_iff (t : Transfer) : t.validate = .ok () ↔
    (1 ≤ t.listPageSize ∧ t.listPageSize ≤ maxKeysPerCall) ∧
    (1 ≤ t.deleteBatchSize ∧ t.deleteBatchSize ≤ maxKeysPerCall) ∧ 0 < t.timeout := by
  have htimeout : (if t.timeout = 0 then invalid "timeout must be greater than 0" else .ok ()) =
      .ok () ↔ 0 < t.timeout := by
    rw [Nat.pos_iff_ne_zero, ← ite_invalid_eq_ok_iff (t.timeout ≠ 0), ite_not]
  rw [validate, then_eq_ok_iff, then_eq_ok_iff, validateSize_eq_ok_iff, validateSize_eq_ok_iff,
    htimeout]

theorem LogSettings.validate_eq_ok_iff (l : LogSettings) :
    l.validate = .ok () ↔ l.format = "pretty" ∨ l.format = "compact" :=
  ite_invalid_eq_ok_iff _ _

/-- An endpoint passes if its URL has a scheme that is spoken, and its key is whole or not there. -/
theorem Endpoint.validate_eq_ok_iff (e : Endpoint) : e.validate = .ok () ↔
    ((∃ rest, e.url = "http://" ++ rest) ∨ ∃ rest, e.url = "https://" ++ rest) ∧
    e.accessKeyId.isSome = e.secretAccessKey.isSome := by
  rw [← beginsWith_iff, ← beginsWith_iff, validate]
  by_cases hurl : beginsWith "http://" e.url = true ∨ beginsWith "https://" e.url = true
  · have hscheme : ¬((!beginsWith "http://" e.url && !beginsWith "https://" e.url) = true) := by
      rcases hurl with h | h <;> simp [h]
    rw [if_neg hscheme]
    by_cases hkey : e.accessKeyId.isSome = e.secretAccessKey.isSome <;> simp [hurl, hkey]
  · have hscheme : (!beginsWith "http://" e.url && !beginsWith "https://" e.url) = true := by
      simpa [not_or] using hurl
    rw [if_pos hscheme]
    simp [invalid, hurl]

namespace Config

/-- A configuration that the library can work with. -/
structure IsValid (c : Config) : Prop where
  /-- The URL of the store has one of two schemes. -/
  scheme : (∃ rest, c.endpoint.url = "http://" ++ rest) ∨
    ∃ rest, c.endpoint.url = "https://" ++ rest
  /-- The key and its identifier are both there, or neither is. -/
  credentials : c.endpoint.accessKeyId.isSome = c.endpoint.secretAccessKey.isSome
  /-- A page has as many entries as a call may ask for. -/
  listPageSize : ∀ t ∈ c.transfer, 1 ≤ t.listPageSize ∧ t.listPageSize ≤ 1000
  /-- A batch has as many objects as a call may remove. -/
  deleteBatchSize : ∀ t ∈ c.transfer, 1 ≤ t.deleteBatchSize ∧ t.deleteBatchSize ≤ 1000
  /-- Calls are given some time. -/
  timeout : ∀ t ∈ c.transfer, 0 < t.timeout
  /-- The layout of the log is a known one. -/
  format : ∀ l ∈ c.logging, l.format = "pretty" ∨ l.format = "compact"

theorem forM_eq_ok_iff {α : Type} {check : α → Except Error Unit} {member? : Option α} :
    member?.forM check = .ok () ↔ ∀ member ∈ member?, check member = .ok () := by
  cases member? with
  | none => simp [pure, Except.pure]
  | some member => simp

/-- The rules let a configuration pass if it satisfies them all. -/
theorem validate_eq_ok_iff (c : Config) : c.validate = .ok () ↔ c.IsValid := by
  have hmax : maxKeysPerCall = 1000 := rfl
  rw [validate, then_eq_ok_iff, then_eq_ok_iff, forM_eq_ok_iff, forM_eq_ok_iff]
  simp only [Endpoint.validate_eq_ok_iff, Transfer.validate_eq_ok_iff,
    LogSettings.validate_eq_ok_iff, hmax]
  constructor
  · rintro ⟨⟨hscheme, hkey⟩, htransfer, hlogging⟩
    exact ⟨hscheme, hkey, fun t ht => (htransfer t ht).1, fun t ht => (htransfer t ht).2.1,
      fun t ht => (htransfer t ht).2.2, hlogging⟩
  · intro h
    exact ⟨⟨h.scheme, h.credentials⟩,
      fun t ht => ⟨h.listPageSize t ht, h.deleteBatchSize t ht, h.timeout t ht⟩, h.format⟩

end Config

end ObjectStore
