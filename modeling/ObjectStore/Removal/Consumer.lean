import ObjectStore.Error
import ObjectStore.Removal.Failure
import ObjectStore.Removal.Options
import ObjectStore.Text.Quoted

/-!
# Removing objects batch by batch

A consumer takes in objects one by one and holds them back until they fill a batch,
or until there are no more. Each batch is removed by one call, and nothing is taken in
until it is answered. A call that fails as a whole fails each object of its batch; if
the store was out of reach the run stops there, otherwise the next batch is attempted.
Failures are published for a reader, who may be gone without any effect on the run.
-/

namespace ObjectStore.Removal

/-- What a deleter answers to one call. -/
inductive Answer where
  /-- The call was carried out, except for these failures. -/
  | failures (failures : List Failure)
  /-- The call failed as a whole. -/
  | failed (error : Error)
  /-- The deleter broke down, with these last words. -/
  | crashed (words : String)
  deriving DecidableEq, Repr

/-- The answers of a deleter: to each call, by its number from 0 and the batch. -/
abbrev Deleter := Nat → List ObjectId → Answer

/-- How far a run has come. -/
inductive Progress where
  /-- More objects may come. -/
  | running
  /-- Waiting for the answer to the call for a batch, which may be known to be the last one. -/
  | waiting (batch : List ObjectId) (isLast : Bool)
  /-- All objects are dealt with. -/
  | done
  /-- A call did not reach the store. -/
  | stopped (error : Error)
  /-- Broken down together with the deleter. -/
  | died (words : String)
  deriving DecidableEq, Repr

/-- The state of a run. -/
structure Consumer where
  /-- How many objects go into one call. -/
  batchSize : Nat
  /-- The objects held back. -/
  held : List ObjectId := []
  /-- The batches of the calls made so far, in order. -/
  batches : List (List ObjectId) := []
  /-- The failures published and not yet read. -/
  unread : List Failure := []
  /-- Whether there is a reader. -/
  watched : Bool := true
  /-- The number of objects removed. -/
  deleted : Nat := 0
  /-- The number of failures reported. -/
  failed : Nat := 0
  /-- How far the run has come. -/
  progress : Progress := .running
  deriving Repr

namespace Consumer

/-- A run that has not taken in any object. -/
def start (options : RemoveOptions) : Consumer := { batchSize := options.effectiveBatchSize }

/-- Publish failures; with nobody to read them they are lost. -/
def publish (c : Consumer) (failures : List Failure) : Consumer :=
  if c.watched then { c with unread := c.unread ++ failures } else c

/-- Take in the answer to the call for a batch. -/
def receive (c : Consumer) (batch : List ObjectId) : Answer → Consumer
  | .failures failures =>
    { c.publish failures with
      deleted := c.deleted + (batch.length - failures.length)
      failed := c.failed + failures.length }
  | .failed error =>
    { c.publish (batch.map (Failure.of · error.message)) with
      failed := c.failed + batch.length
      progress := if error.isTransport then .stopped error else c.progress }
  | .crashed words => { c with progress := .died words }

/-- Make the call for the objects held back. -/
def submit (c : Consumer) (isLast : Bool) : Consumer :=
  { c with held := [], batches := c.batches ++ [c.held], progress := .waiting c.held isLast }

/-- Take in an object; a full batch is submitted at once. -/
def take (c : Consumer) (id : ObjectId) : Consumer :=
  if c.progress = .running then
    let c := { c with held := c.held ++ [id] }
    if c.held.length < c.batchSize then c else c.submit false
  else c

/-- There are no more objects: what is held back is submitted. -/
def close (c : Consumer) : Consumer :=
  if c.progress = .running then
    if c.held.isEmpty then { c with progress := .done } else c.submit true
  else c

/-- The call that the run waits for is answered. -/
def answer (deleter : Deleter) (c : Consumer) : Consumer :=
  match c.progress with
  | .waiting batch isLast =>
    let c := { c with progress := if isLast then .done else .running }
    c.receive batch (deleter (c.batches.length - 1) batch)
  | _ => c

/-- Take in an object; a full batch is removed at once. -/
def accept (deleter : Deleter) (c : Consumer) (id : ObjectId) : Consumer :=
  (c.take id).answer deleter

/-- There are no more objects: what is held back is removed. -/
def exhaust (deleter : Deleter) (c : Consumer) : Consumer := c.close.answer deleter

/-- The run of a removal of given objects. -/
def run (deleter : Deleter) (options : RemoveOptions) (ids : List ObjectId) : Consumer :=
  (ids.foldl (accept deleter) (start options)).exhaust deleter

/-- Whether the run has ended. -/
def hasEnded (c : Consumer) : Bool :=
  match c.progress with
  | .running => false
  | .waiting _ _ => false
  | _ => true

/-- What the run has done so far. -/
def summary (c : Consumer) : Summary := ⟨c.batches.length, c.deleted, c.failed⟩

/-- How a run ended, `none` if it has not. -/
def verdict? (c : Consumer) : Option (Except Error Summary) :=
  match c.progress with
  | .running => none
  | .waiting _ _ => none
  | .done => some (.ok c.summary)
  | .stopped error => some (.error error)
  | .died words => some <| .error <| .other <|
      "Removal task failed: task # panicked with message " ++ Text.Quoted.quote words

/-- What a reader finds. -/
inductive Reading where
  /-- A failure. -/
  | failure (failure : Failure)
  /-- Nothing yet. -/
  | pending
  /-- Nothing any more. -/
  | ended
  deriving Repr

/-- The reader takes the next failure. -/
def read (c : Consumer) : Reading × Consumer :=
  match c.unread with
  | failure :: rest => (.failure failure, { c with unread := rest })
  | [] => (if c.hasEnded then .ended else .pending, c)

/-- The reader takes all there is, up to and including the first reading that is no failure. -/
def readAll (c : Consumer) : List Reading × Consumer :=
  let c' := { c with unread := [] }
  (c.unread.map .failure ++ [c'.read.1], c')

/-- The reader leaves. -/
def unwatch (c : Consumer) : Consumer := { c with watched := false, unread := [] }

end Consumer

end ObjectStore.Removal
