import Mathlib.Algebra.Order.BigOperators.Group.List
import Mathlib.Algebra.Order.Ring.Nat
import ObjectStore.Proofs.Removal.Runs

/-!
# What a removal counts

Each call adds to the number of removed objects or to the number of failures. Together they grow
by the number of objects in the batch, unless the store reports more failures than it was given
objects; then they grow by the number of failures. A run that ends well has made its calls for
all of its objects, so that its two numbers cover each object, and only such a surplus makes
them more.
-/

namespace ObjectStore.Removal

variable {a : Attempt} {attempts : List Attempt}

/-! ## One call -/

namespace Attempt

/-- How much a call adds to the removed objects and the failures together. -/
def accounted (a : Attempt) : Nat :=
  match a.answer with
  | .failures failures => max a.batch.length failures.length
  | .failed _ => a.batch.length
  | .crashed _ => 0

theorem deleted_add_length_reported (a : Attempt) :
    a.deleted + a.reported.length = a.accounted := by
  rcases a with ⟨batch, failures | error | words⟩
  · exact Nat.sub_add_eq_max ..
  · rw [deleted, reported, accounted, List.length_map, Nat.zero_add]
  · rfl

/-- A call after which the run goes on leaves none of its objects out. -/
theorem length_le_accounted (h : a.isLast = false) : a.batch.length ≤ a.accounted := by
  rcases a with ⟨batch, failures | error | words⟩
  · exact Nat.le_max_left ..
  · exact Nat.le_refl _
  · cases h

/-- It counts none of them twice unless it reports more failures than there are objects. -/
theorem accounted_eq_length_iff (h : a.isLast = false) :
    a.accounted = a.batch.length ↔
      ∀ failures, a.answer = .failures failures → failures.length ≤ a.batch.length := by
  rcases a with ⟨batch, failures | error | words⟩
  · simp [accounted]
  · simp [accounted]
  · cases h

end Attempt

/-! ## All calls of a run -/

theorem deletedCount_add_length_reported (attempts : List Attempt) :
    deletedCount attempts + (reported attempts).length =
      (attempts.map Attempt.accounted).sum := by
  induction attempts with
  | nil => rfl
  | cons a attempts ih =>
    rw [List.map_cons, List.sum_cons, ← ih, ← a.deleted_add_length_reported, deletedCount, reported,
      reported, List.flatMap_cons, List.length_append]
    omega

/-- The objects of a run are those of its batches. -/
theorem length_flatten_batches (attempts : List Attempt) :
    (attempts.map Attempt.batch).flatten.length =
      (attempts.map fun a => a.batch.length).sum := by
  rw [List.length_flatten, List.map_map]
  rfl

/-- Calls that do not end the run leave no object out. -/
theorem length_flatten_batches_le (h : ∀ a ∈ attempts, a.isLast = false) :
    (attempts.map Attempt.batch).flatten.length ≤ (attempts.map Attempt.accounted).sum := by
  rw [length_flatten_batches]
  exact List.sum_le_sum fun a ha => Attempt.length_le_accounted (h a ha)

/-- They count each object once unless one of them counts more than its objects. -/
theorem sum_accounted_eq_iff (h : ∀ a ∈ attempts, a.isLast = false) :
    (attempts.map Attempt.accounted).sum = (attempts.map Attempt.batch).flatten.length ↔
      ∀ a ∈ attempts, a.accounted = a.batch.length := by
  rw [length_flatten_batches]
  constructor
  · intro heq a ha
    by_contra hne
    have hle : ∀ b ∈ attempts, b.batch.length ≤ b.accounted :=
      fun b hb => Attempt.length_le_accounted (h b hb)
    have hlt : a.batch.length < a.accounted := lt_of_le_of_ne (hle a ha) (Ne.symm hne)
    exact (List.sum_lt_sum _ _ hle ⟨a, ha, hlt⟩).ne' heq
  · intro heq
    exact congrArg List.sum (List.map_congr_left heq)

namespace Consumer

variable {options : RemoveOptions}

/-- A run that ends well has no call that ends it, and sums its calls up. -/
theorem concluded_of_verdict?_eq_ok {done : Summary}
    (h : ((start options).concluded attempts).verdict? = some (.ok done)) :
    (∀ a ∈ attempts, a.isLast = false) ∧
      done = ⟨attempts.length, deletedCount attempts, (reported attempts).length⟩ := by
  cases hf : attempts.findSome? Attempt.ending? with
  | none =>
    constructor
    · intro a ha
      rw [Attempt.isLast_eq_isSome_ending?, List.findSome?_eq_none_iff.mp hf a ha]
      rfl
    · simp only [verdict?, concluded, hf, Option.getD_none, Option.some.injEq, Except.ok.injEq] at h
      rw [← h]
      simp [summary, start]
  | some progress =>
    obtain ⟨a, _, ha⟩ := List.exists_of_findSome?_eq_some hf
    rcases Attempt.eq_of_ending? ha with ⟨error, rfl⟩ | ⟨words, rfl⟩ <;>
      simp [verdict?, concluded, hf] at h

/--
The numbers of a removal that ends well. As many failures have failed as are published. The
removed objects and the failures together are what the calls account for: a call that failed as a
whole for each object of its batch, any other one for its objects or for the failures reported,
whichever are more. They are not fewer than the objects of the run, each of which is in exactly
one batch, and are as many if and only if no call reports more failures than it has objects.
-/
theorem run_accounts (deleter : Deleter) (options : RemoveOptions) (ids : List ObjectId)
    (summary : Summary) (hok : (run deleter options ids).verdict? = some (.ok summary)) :
    let c := run deleter options ids
    let calls := issued deleter c.batches
    let published := calls.flatMap Attempt.reported
    (c.batches.flatten = ids ∧ summary.batches = c.batches.length) ∧
    (c.readAll.1 = published.map .failure ++ [.ended] ∧ summary.failed = published.length) ∧
    summary.deleted + summary.failed = (calls.map Attempt.accounted).sum ∧
    ids.length ≤ summary.deleted + summary.failed ∧
    (summary.deleted + summary.failed = ids.length ↔
      ∀ a ∈ calls, ∀ failures, a.answer = .failures failures →
        failures.length ≤ a.batch.length) := by
  intro c calls published
  rw [run_eq_concluded] at hok
  obtain ⟨hlast, hdone⟩ := concluded_of_verdict?_eq_ok hok
  have hcalls : calls = attempts deleter options ids := issued_batches_run deleter options ids
  have hbatches : c.batches = (attempts deleter options ids).map Attempt.batch :=
    batches_run deleter options ids
  have hflatten : ((attempts deleter options ids).map Attempt.batch).flatten = ids := by
    rw [attempts, attemptsFrom_batches_of_not_isLast hlast, flatten_pieces]
  have hpublished : published = reported (attempts deleter options ids) :=
    congrArg reported hcalls
  have hsum : summary.deleted + summary.failed =
      ((attempts deleter options ids).map Attempt.accounted).sum := by
    rw [hdone]
    exact deletedCount_add_length_reported _
  rw [hpublished, hcalls, hbatches, hsum]
  refine ⟨⟨hflatten, ?_⟩, ⟨readAll_run deleter options ids, ?_⟩, rfl, ?_, ?_⟩
  · rw [hdone, List.length_map]
  · rw [hdone]
  · calc ids.length
      _ = ((attempts deleter options ids).map Attempt.batch).flatten.length := by rw [hflatten]
      _ ≤ _ := length_flatten_batches_le hlast
  · rw [← congrArg List.length hflatten, sum_accounted_eq_iff hlast]
    exact forall₂_congr fun a ha => Attempt.accounted_eq_length_iff (hlast a ha)

/-- A refused object, a rejected batch, and one failure too many. -/
theorem run_accounts_surplus :
    let surplus : List Failure := ["e", "f", "f"].map fun key => ⟨key, none, "locked"⟩
    let deleter := scripted [none, some (.failed (.operation "denied")), some (.failures surplus)]
      [("b", "locked")]
    let ids : List ObjectId := ["a", "b", "c", "d", "e", "f", "g"].map fun key => { key }
    let c := run deleter { batchSize := 2 } ids
    c.verdict? = some (.ok ⟨4, 2, 6⟩) ∧
    ((issued deleter c.batches).map Attempt.accounted).sum = 8 ∧ ids.length = 7 ∧
    ∃ a ∈ issued deleter c.batches, ∃ failures, a.answer = .failures failures ∧
      a.batch.length < failures.length := by
  intro surplus deleter ids c
  have hok : c.verdict? = some (.ok ⟨4, 2, 6⟩) := by decide +kernel
  obtain ⟨_, _, hsum, _, hiff⟩ := run_accounts deleter { batchSize := 2 } ids ⟨4, 2, 6⟩ hok
  have hmore : ¬(2 + 6 = ids.length) := by decide
  rw [hiff] at hmore
  refine ⟨hok, hsum.symm, rfl, ?_⟩
  simpa using hmore

end Consumer

end ObjectStore.Removal
