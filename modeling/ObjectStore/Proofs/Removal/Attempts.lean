import Mathlib.Data.List.Infix
import ObjectStore.Removal.Batches

/-!
# Which calls a removal makes

The calls of a removal are those for its first batches. Only the last call can be one that
ends the run, and if there are batches without a call then it is.
-/

namespace ObjectStore.Removal

variable {deleter : Deleter} {number i : Nat} {batches : List (List ObjectId)} {a : Attempt}

/-- The calls made for some batches, each with its answer. -/
def issued (deleter : Deleter) (batches : List (List ObjectId)) : List Attempt :=
  batches.mapIdx fun number batch => ⟨batch, deleter number batch⟩

/-- A call that ends the run with an error is one that did not reach the store. -/
theorem Attempt.error?_eq_some_iff {error : Error} :
    a.error? = some error ↔
      ∃ detail, error = .transport detail ∧ a.answer = .failed (.transport detail) := by
  rcases a with ⟨batch, failures | failure | words⟩
  case failed =>
    simp only [Attempt.error?, Option.ite_none_right_eq_some, Option.some.injEq,
      Answer.failed.injEq, Error.isTransport_iff]
    constructor
    · rintro ⟨⟨detail, rfl⟩, rfl⟩
      exact ⟨detail, rfl, rfl⟩
    · rintro ⟨detail, rfl, rfl⟩
      exact ⟨⟨detail, rfl⟩, rfl⟩
  all_goals simp [Attempt.error?]

/-- Where the deleter does not break down, only an unreached store ends the run. -/
theorem Attempt.isLast_iff (hd : ∀ words, a.answer ≠ .crashed words) :
    a.isLast = true ↔ ∃ error, a.error? = some error := by
  rcases a with ⟨batch, failures | failure | words⟩
  · simp [Attempt.isLast, Attempt.error?]
  · cases ht : failure.isTransport <;> simp [Attempt.isLast, Attempt.error?, ht]
  · exact absurd rfl (hd words)

/-- The batches of the calls are the first ones. -/
theorem attemptsFrom_batches_isPrefix (deleter : Deleter) (number : Nat)
    (batches : List (List ObjectId)) :
    (attemptsFrom deleter number batches).map Attempt.batch <+: batches := by
  induction batches generalizing number with
  | nil => exact List.nil_prefix
  | cons batch rest ih =>
    rw [attemptsFrom, List.map_cons]
    refine List.cons_prefix_cons.mpr ⟨rfl, ?_⟩
    split
    · exact List.nil_prefix
    · exact ih (number + 1)

/-- Each call is made for the batch of its number. -/
theorem getElem?_batch_of_attemptsFrom (h : (attemptsFrom deleter number batches)[i]? = some a) :
    batches[i]? = some a.batch := by
  obtain ⟨rest, hrest⟩ := attemptsFrom_batches_isPrefix deleter number batches
  obtain ⟨hlt, _⟩ := List.getElem?_eq_some_iff.mp h
  rw [← hrest, List.getElem?_append_left (by rwa [List.length_map]), List.getElem?_map, h,
    Option.map_some]

/-- Each call is answered by its number and its batch. -/
theorem answer_of_attemptsFrom (h : (attemptsFrom deleter number batches)[i]? = some a) :
    a.answer = deleter (number + i) a.batch := by
  induction batches generalizing number i with
  | nil => cases h
  | cons batch rest ih =>
    rw [attemptsFrom] at h
    cases i with
    | zero =>
      rw [List.getElem?_cons_zero, Option.some.injEq] at h
      rw [← h, Nat.add_zero]
    | succ i =>
      rw [List.getElem?_cons_succ] at h
      split at h
      · cases h
      · rw [← Nat.succ_add_eq_add_succ]
        exact ih h

/-- A call that ends the run is the last one. -/
theorem eq_length_of_isLast (h : (attemptsFrom deleter number batches)[i]? = some a)
    (hl : a.isLast = true) : i + 1 = (attemptsFrom deleter number batches).length := by
  induction batches generalizing number i with
  | nil => cases h
  | cons batch rest ih =>
    rw [attemptsFrom] at h ⊢
    rw [List.length_cons]
    cases i with
    | zero =>
      rw [List.getElem?_cons_zero, Option.some.injEq] at h
      rw [← h] at hl
      rw [if_pos hl, List.length_nil]
    | succ i =>
      rw [List.getElem?_cons_succ] at h
      split at h
      · cases h
      · next hn =>
        rw [if_neg hn]
        exact congrArg (· + 1) (ih h)

/-- Unless all batches have their calls, the last call ends the run. -/
theorem attemptsFrom_complete (deleter : Deleter) (number : Nat)
    (batches : List (List ObjectId)) :
    (attemptsFrom deleter number batches).map Attempt.batch = batches ∨
      ∃ a, (attemptsFrom deleter number batches).getLast? = some a ∧ a.isLast = true := by
  induction batches generalizing number with
  | nil => exact Or.inl rfl
  | cons batch rest ih =>
    rw [attemptsFrom]
    split
    · next hl => exact Or.inr ⟨_, rfl, hl⟩
    · rcases ih (number + 1) with hall | ⟨a, ha, hl⟩
      · left
        rw [List.map_cons, hall]
      · right
        refine ⟨a, ?_, hl⟩
        rw [List.getLast?_cons, ha]
        rfl

/-- The calls of a run are made for their batches. -/
theorem attemptsFrom_eq_issued (deleter : Deleter) (batches : List (List ObjectId)) :
    attemptsFrom deleter 0 batches =
      issued deleter ((attemptsFrom deleter 0 batches).map Attempt.batch) := by
  apply List.ext_getElem?
  intro i
  rw [issued, List.getElem?_mapIdx, List.getElem?_map]
  cases h : (attemptsFrom deleter 0 batches)[i]? with
  | none => rfl
  | some a =>
    have ha := answer_of_attemptsFrom h
    rw [Nat.zero_add] at ha
    rw [Option.map_some, Option.map_some, ← ha]

/-- Where the deleter does not break down, a run that ends early ends with an unreached store. -/
theorem attemptsFrom_complete_of_not_crashed
    (hd : ∀ number batch words, deleter number batch ≠ .crashed words)
    (batches : List (List ObjectId)) :
    (attemptsFrom deleter number batches).map Attempt.batch = batches ∨
      ∃ a error, (attemptsFrom deleter number batches).getLast? = some a ∧
        a.error? = some error := by
  rcases attemptsFrom_complete deleter number batches with hall | ⟨a, ha, hl⟩
  · exact Or.inl hall
  · right
    have hanswer : ∀ words, a.answer ≠ .crashed words := by
      intro words
      rw [List.getLast?_eq_getElem?] at ha
      rw [answer_of_attemptsFrom ha]
      exact hd _ _ words
    obtain ⟨error, he⟩ := (Attempt.isLast_iff hanswer).mp hl
    exact ⟨a, error, ha, he⟩

/-- A run none of whose calls ends it has made a call for each of its batches. -/
theorem attemptsFrom_batches_of_not_isLast
    (h : ∀ a ∈ attemptsFrom deleter number batches, a.isLast = false) :
    (attemptsFrom deleter number batches).map Attempt.batch = batches := by
  refine (attemptsFrom_complete deleter number batches).resolve_right ?_
  rintro ⟨a, ha, hl⟩
  rw [h a (List.mem_of_getLast? ha)] at hl
  cases hl

/-- A run whose batches do not end it makes a call for each of them. -/
theorem attemptsFrom_batches_eq (h : ∀ i batch, batches[i]? = some batch →
      (⟨batch, deleter i batch⟩ : Attempt).isLast = false) :
    (attemptsFrom deleter 0 batches).map Attempt.batch = batches := by
  refine attemptsFrom_batches_of_not_isLast fun a ha => ?_
  obtain ⟨i, hi⟩ := List.mem_iff_getElem?.mp ha
  have hanswer := answer_of_attemptsFrom hi
  rw [Nat.zero_add] at hanswer
  have hbatch := h i a.batch (getElem?_batch_of_attemptsFrom hi)
  rwa [← hanswer] at hbatch

/-- A run whose first call to end it is known makes the calls up to this one. -/
theorem attemptsFrom_batches_eq_take {last : Nat}
    (hbefore : ∀ i < last, ∀ batch, batches[i]? = some batch →
      (⟨batch, deleter (number + i) batch⟩ : Attempt).isLast = false)
    (hlast : ∃ batch, batches[last]? = some batch ∧
      (⟨batch, deleter (number + last) batch⟩ : Attempt).isLast = true) :
    (attemptsFrom deleter number batches).map Attempt.batch = batches.take (last + 1) := by
  induction batches generalizing number last with
  | nil =>
    obtain ⟨_, hnone, _⟩ := hlast
    cases hnone
  | cons batch rest ih =>
    rw [attemptsFrom, List.map_cons, List.take_succ_cons]
    refine congrArg (batch :: ·) ?_
    cases last with
    | zero =>
      obtain ⟨_, hhead, hfirst⟩ := hlast
      cases hhead
      rw [Nat.add_zero] at hfirst
      rw [if_pos hfirst, List.map_nil, List.take_zero]
    | succ last =>
      have hfirst : (⟨batch, deleter number batch⟩ : Attempt).isLast = false :=
        hbefore 0 (Nat.succ_pos last) batch rfl
      rw [if_neg (Bool.eq_false_iff.mp hfirst)]
      refine ih ?_ ?_
      · intro i hi other hother
        rw [Nat.succ_add_eq_add_succ]
        exact hbefore (i + 1) (Nat.succ_lt_succ hi) other hother
      · obtain ⟨other, hother, hends⟩ := hlast
        rw [Nat.succ_add_eq_add_succ]
        exact ⟨other, hother, hends⟩

/-- A call that does not reach the store ends the run. -/
theorem Attempt.isLast_of_error? {error : Error} (h : a.error? = some error) :
    a.isLast = true := by
  obtain ⟨detail, _, ha⟩ := Attempt.error?_eq_some_iff.mp h
  rw [Attempt.isLast, ha]
  rfl

/-- A run fails with the error of the call that did not reach the store. -/
theorem verdict_eq_error_iff {error : Error} :
    verdict (attemptsFrom deleter number batches) = .error error ↔
      ∃ a ∈ attemptsFrom deleter number batches, a.error? = some error := by
  have hfind : verdict (attemptsFrom deleter number batches) = .error error ↔
      (attemptsFrom deleter number batches).findSome? Attempt.error? = some error := by
    unfold verdict
    cases (attemptsFrom deleter number batches).findSome? Attempt.error? <;> simp
  rw [hfind]
  constructor
  · exact List.exists_of_findSome?_eq_some
  · rintro ⟨a, ha, he⟩
    cases hf : (attemptsFrom deleter number batches).findSome? Attempt.error? with
    | none => exact absurd (List.findSome?_eq_none_iff.mp hf a ha) (by simp [he])
    | some other =>
      -- Both calls are the last one.
      obtain ⟨b, hb, hother⟩ := List.exists_of_findSome?_eq_some hf
      obtain ⟨i, hi⟩ := List.mem_iff_getElem?.mp ha
      obtain ⟨j, hj⟩ := List.mem_iff_getElem?.mp hb
      have hia := eq_length_of_isLast hi (Attempt.isLast_of_error? he)
      have hjb := eq_length_of_isLast hj (Attempt.isLast_of_error? hother)
      have hij : i = j := Nat.succ.inj (hia.trans hjb.symm)
      rw [hij, hj, Option.some.injEq] at hi
      rw [← hother, hi, he]

/-- A run fails if one of its calls ends it, unless the deleter breaks down. -/
theorem exists_verdict_eq_error_iff
    (hd : ∀ number batch words, deleter number batch ≠ .crashed words) :
    (∃ error, verdict (attemptsFrom deleter number batches) = .error error) ↔
      ∃ a ∈ attemptsFrom deleter number batches, a.isLast = true := by
  simp only [verdict_eq_error_iff]
  rw [exists_comm]
  refine exists_congr fun a => ?_
  rw [exists_and_left]
  refine and_congr_right fun ha => (Attempt.isLast_iff fun words => ?_).symm
  obtain ⟨i, hi⟩ := List.mem_iff_getElem?.mp ha
  rw [answer_of_attemptsFrom hi]
  exact hd _ _ words

/-- A run whose calls all reach the store ends well. -/
theorem verdict_eq_ok {attempts : List Attempt} (h : ∀ a ∈ attempts, a.error? = none) :
    verdict attempts =
      .ok ⟨attempts.length, deletedCount attempts, (reported attempts).length⟩ := by
  rw [verdict, List.findSome?_eq_none_iff.mpr h]

end ObjectStore.Removal
