import ObjectStore.Proofs.Client.Batches
import ObjectStore.Proofs.Removal.Runs

/-!
# A removal over a store

What a removal sends are the requests for its batches, one after the other. It stops early only
where the store was not reached, and then right after the call that did not reach it. Any other
failure, whatever its status, is one of the objects of its batch, and the next batch is attempted
all the same.
-/

namespace ObjectStore.Client

open ObjectStore.Http (Link Request)
open ObjectStore.Removal (Attempt Consumer attempts reported)

section

variable {c : Client} {bucket : String} {options : RemoveOptions} {link : Link}
  {ids : List ObjectId}

/-- A call ends the run where the store was not reached. -/
theorem isLast_deleter_iff {number : Nat} {batch : List ObjectId} :
    (⟨batch, c.deleter bucket options link number batch⟩ : Attempt).isLast = true ↔
      IsUnreached (c.batchOutcome bucket options link number batch) := by
  rw [deleter_eq]
  exact isLast_batchAnswer_iff

theorem isLast_deleter_eq_false {number : Nat} {batch : List ObjectId}
    (h : ¬ IsUnreached (c.batchOutcome bucket options link number batch)) :
    (⟨batch, c.deleter bucket options link number batch⟩ : Attempt).isLast = false :=
  Bool.eq_false_iff.mpr fun hl => h (isLast_deleter_iff.mp hl)

/-- A client does not break down. -/
theorem deleter_ne_crashed (number : Nat) (batch : List ObjectId) (words : String) :
    c.deleter bucket options link number batch ≠ .crashed words := by
  rw [deleter_eq]
  cases c.batchOutcome bucket options link number batch <;> simp [batchAnswer, Except.mapError]

/-- A removal fails where one of its calls did not reach the store. -/
theorem exists_verdict_error_iff :
    let calls := attempts (c.deleter bucket options link) options ids
    (∃ error, Removal.verdict calls = .error error) ↔
      ∃ number batch, (calls.map Attempt.batch)[number]? = some batch ∧
        IsUnreached (c.batchOutcome bucket options link number batch) := by
  intro calls
  have hlast {number : Nat} {a : Attempt} (h : calls[number]? = some a) :
      a.isLast = true ↔ IsUnreached (c.batchOutcome bucket options link number a.batch) := by
    have hanswer := Removal.answer_of_attemptsFrom h
    rw [Nat.zero_add] at hanswer
    rw [← isLast_deleter_iff, ← hanswer]
  have hverdict : (∃ error, Removal.verdict calls = .error error) ↔
      ∃ a ∈ calls, a.isLast = true := Removal.exists_verdict_eq_error_iff deleter_ne_crashed
  rw [hverdict]
  constructor
  · rintro ⟨a, ha, hl⟩
    obtain ⟨number, hnumber⟩ := List.mem_iff_getElem?.mp ha
    refine ⟨number, a.batch, ?_, (hlast hnumber).mp hl⟩
    rw [List.getElem?_map, hnumber, Option.map_some]
  · rintro ⟨number, batch, hbatch, hunreached⟩
    rw [List.getElem?_map] at hbatch
    obtain ⟨a, ha, rfl⟩ := Option.map_eq_some_iff.mp hbatch
    exact ⟨a, List.mem_of_getElem? ha, (hlast ha).mpr hunreached⟩

/-- What a removal reports, call after call. -/
theorem reported_attempts :
    reported (attempts (c.deleter bucket options link) options ids) =
      (((attempts (c.deleter bucket options link) options ids).map Attempt.batch).mapIdx
        fun number batch =>
          reportOf batch (c.batchOutcome bucket options link number batch)).flatten := by
  conv_lhs => rw [attempts, Removal.attemptsFrom_eq_issued, ← attempts]
  rw [reported, List.flatMap_def, Removal.issued]
  refine congrArg List.flatten (List.ext_getElem? fun number => ?_)
  rw [List.getElem?_map, List.getElem?_mapIdx, List.getElem?_mapIdx, Option.map_map]
  simp only [Function.comp_def, deleter_eq, reported_batchAnswer]

end

end ObjectStore.Client
