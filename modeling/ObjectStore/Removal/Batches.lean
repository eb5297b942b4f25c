import ObjectStore.Pieces
import ObjectStore.Removal.Consumer

/-!
# What a removal comes to

A removal of given objects cuts them into batches, makes one call for each batch,
and ends early if a call does not reach the store. Which calls are made, what is
reported and how the run ends are therefore laid down by the objects, the size of
the batches and the deleter, whenever the objects come in.
-/

namespace ObjectStore.Removal

/-- A batch, and the answer to the call for it. -/
structure Attempt where
  /-- The objects. -/
  batch : List ObjectId
  /-- The answer. -/
  answer : Answer
  deriving DecidableEq, Repr

namespace Attempt

/-- Whether no call is made after this one. -/
def isLast (a : Attempt) : Bool :=
  match a.answer with
  | .failures _ => false
  | .failed error => error.isTransport
  | .crashed _ => true

/-- The failures that are reported, in order: as answered, or each object if the call failed. -/
def reported (a : Attempt) : List Failure :=
  match a.answer with
  | .failures failures => failures
  | .failed error => a.batch.map (Failure.of · error.message)
  | .crashed _ => []

/-- The error that the run ends with, if it ends with this call. -/
def error? (a : Attempt) : Option Error :=
  match a.answer with
  | .failed error => if error.isTransport then some error else none
  | _ => none

/-- The number of objects that count as removed. -/
def deleted (a : Attempt) : Nat :=
  match a.answer with
  | .failures failures => a.batch.length - failures.length
  | _ => 0

end Attempt

/-- The calls for batches, from the call with a number on, up to the one that ends the run. -/
def attemptsFrom (deleter : Deleter) (number : Nat) : List (List ObjectId) → List Attempt
  | [] => []
  | batch :: rest =>
    let attempt : Attempt := ⟨batch, deleter number batch⟩
    attempt :: if attempt.isLast then [] else attemptsFrom deleter (number + 1) rest

/-- The calls of a removal. -/
def attempts (deleter : Deleter) (options : RemoveOptions) (ids : List ObjectId) : List Attempt :=
  attemptsFrom deleter 0 (pieces options.effectiveBatchSize ids)

/-- The failures that a removal reports. -/
def reported (attempts : List Attempt) : List Failure := attempts.flatMap Attempt.reported

/-- The number of objects that a removal removes. -/
def deletedCount : List Attempt → Nat
  | [] => 0
  | attempt :: rest => attempt.deleted + deletedCount rest

/-- How a removal ends, given its calls. -/
def verdict (attempts : List Attempt) : Except Error Summary :=
  match attempts.findSome? Attempt.error? with
  | some error => .error error
  | none =>
    .ok ⟨attempts.length, deletedCount attempts, (reported attempts).length⟩

end ObjectStore.Removal
