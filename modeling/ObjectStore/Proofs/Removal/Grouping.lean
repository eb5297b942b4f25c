import ObjectStore.Proofs.Removal.Accounting

/-!
# How a removal groups its objects

Where the store decides on each object by itself, the size of the batches does not show: the same
objects are submitted and the same failures reported, in the same order, and the same numbers
come out. Only the number of calls depends on it.
-/

namespace ObjectStore.Removal

/-- The failures of the objects that there is a cause against. -/
def refused (cause? : ObjectId → Option String) (ids : List ObjectId) : List Failure :=
  ids.filterMap fun id => (cause? id).map (Failure.of id)

/-- A deleter that decides on each object by itself. -/
def judging (cause? : ObjectId → Option String) : Deleter :=
  fun _ batch => .failures (refused cause? batch)

theorem length_refused_le (cause? : ObjectId → Option String) (ids : List ObjectId) :
    (refused cause? ids).length ≤ ids.length :=
  List.length_filterMap_le _ _

/-- What is refused of all objects is what is refused of each batch. -/
theorem refused_flatten (cause? : ObjectId → Option String) (batches : List (List ObjectId)) :
    refused cause? batches.flatten = batches.flatMap (refused cause?) :=
  List.filterMap_flatten

/-- No call of such a deleter ends a run. -/
theorem attemptsFrom_judging (cause? : ObjectId → Option String) (number : Nat)
    (batches : List (List ObjectId)) :
    attemptsFrom (judging cause?) number batches =
      batches.map fun batch => ⟨batch, .failures (refused cause? batch)⟩ := by
  induction batches generalizing number with
  | nil => rfl
  | cons batch rest ih =>
    have hgoing : (⟨batch, judging cause? number batch⟩ : Attempt).isLast = false := rfl
    rw [attemptsFrom, hgoing, if_neg Bool.false_ne_true, ih, List.map_cons, judging]

theorem attempts_judging (cause? : ObjectId → Option String) (options : RemoveOptions)
    (ids : List ObjectId) :
    attempts (judging cause?) options ids = (pieces options.effectiveBatchSize ids).map
      fun batch => ⟨batch, .failures (refused cause? batch)⟩ :=
  attemptsFrom_judging cause? 0 _

/-- A run reports what is refused of its objects. -/
theorem reported_judging (cause? : ObjectId → Option String) (options : RemoveOptions)
    (ids : List ObjectId) :
    reported (attempts (judging cause?) options ids) = refused cause? ids :=
  calc reported (attempts (judging cause?) options ids)
    _ = (pieces options.effectiveBatchSize ids).flatMap (refused cause?) := by
        rw [attempts_judging, reported, List.flatMap_map]
        rfl
    _ = refused cause? (pieces options.effectiveBatchSize ids).flatten :=
        (refused_flatten cause? _).symm
    _ = refused cause? ids := by rw [flatten_pieces]

/-- It removes the others. -/
theorem deletedCount_judging (cause? : ObjectId → Option String) (options : RemoveOptions)
    (ids : List ObjectId) :
    deletedCount (attempts (judging cause?) options ids) + (refused cause? ids).length =
      ids.length := by
  have haccounted (batch : List ObjectId) :
      (⟨batch, .failures (refused cause? batch)⟩ : Attempt).accounted = batch.length :=
    Nat.max_eq_left (length_refused_le cause? batch)
  rw [← reported_judging cause? options ids, deletedCount_add_length_reported, attempts_judging,
    List.map_map, Function.comp_def, funext haccounted, ← List.length_flatten, flatten_pieces]

/-- Its calls are made for all pieces of the objects. -/
theorem batches_judging (cause? : ObjectId → Option String) (options : RemoveOptions)
    (ids : List ObjectId) :
    (attempts (judging cause?) options ids).map Attempt.batch =
      pieces options.effectiveBatchSize ids := by
  rw [attempts_judging, List.map_map]
  exact List.map_id _

namespace Consumer

variable {cause? : ObjectId → Option String} {options : RemoveOptions} {ids : List ObjectId}

theorem run_batches_judging :
    (run (judging cause?) options ids).batches = pieces options.effectiveBatchSize ids := by
  rw [batches_run, batches_judging]

/-- A run whose deleter decides on each object by itself ends well. -/
theorem verdict?_judging :
    (run (judging cause?) options ids).verdict? = some (.ok
      ⟨(pieces options.effectiveBatchSize ids).length, ids.length - (refused cause? ids).length,
        (refused cause? ids).length⟩) := by
  have hstands : ∀ number batch words, judging cause? number batch ≠ .crashed words := by
    intro number batch words h
    cases h
  have hreach : ∀ a ∈ attempts (judging cause?) options ids, a.error? = none := by
    intro a ha
    rw [attempts_judging] at ha
    obtain ⟨batch, _, rfl⟩ := List.mem_map.mp ha
    rfl
  have hdeleted := deletedCount_judging cause? options ids
  rw [verdict?_run options ids hstands, verdict_eq_ok hreach, reported_judging,
    ← batches_judging, List.length_map, ← hdeleted, Nat.add_sub_cancel]

/--
The size of the batches does not show. Where the store decides on each object by itself, from its
key and its version, two runs over the same objects submit the same objects and report the same
failures, both in the order of the objects, and end well with the same numbers of removed objects
and of failures. The numbers of their calls are those of the objects divided by the sizes in use,
rounded up.
-/
theorem run_regrouped (cause? : ObjectId → Option String) (options : RemoveOptions)
    (first second : Nat) (ids : List ObjectId) :
    let size := fun requested : Nat => max 1 (min requested 1000)
    let calls := fun requested : Nat => (ids.length + (size requested - 1)) / size requested
    let c := run (judging cause?) { options with batchSize := first } ids
    let d := run (judging cause?) { options with batchSize := second } ids
    (c.readAll.1 = (refused cause? ids).map .failure ++ [.ended] ∧ d.readAll.1 = c.readAll.1) ∧
    (c.batches.flatten = ids ∧ d.batches.flatten = c.batches.flatten) ∧
    (c.batches.length = calls first ∧ d.batches.length = calls second) ∧
    ∃ deleted failed, deleted + failed = ids.length ∧ failed = (refused cause? ids).length ∧
      c.verdict? = some (.ok ⟨calls first, deleted, failed⟩) ∧
      d.verdict? = some (.ok ⟨calls second, deleted, failed⟩) := by
  intro size calls c d
  have hcalls (requested : Nat) :
      (pieces ({ options with batchSize := requested } : RemoveOptions).effectiveBatchSize
        ids).length = calls requested :=
    length_pieces (effectiveBatchSize_pos _) ids
  have hfailed := length_refused_le cause? ids
  refine ⟨⟨?_, ?_⟩, ⟨?_, ?_⟩, ⟨?_, ?_⟩, _, _, Nat.sub_add_cancel hfailed, rfl, ?_, ?_⟩
  · rw [readAll_run, reported_judging]
  · rw [readAll_run, readAll_run, reported_judging, reported_judging]
  · rw [run_batches_judging, flatten_pieces]
  · rw [run_batches_judging, run_batches_judging, flatten_pieces, flatten_pieces]
  · rw [run_batches_judging, hcalls]
  · rw [run_batches_judging, hcalls]
  · rw [verdict?_judging, hcalls]
  · rw [verdict?_judging, hcalls]

end Consumer

end ObjectStore.Removal
