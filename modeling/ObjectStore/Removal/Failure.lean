import ObjectStore.Object

/-!
# What a removal reports

A removal reports each object that could not be removed, with its cause, and at
the end how much was done.
-/

namespace ObjectStore.Removal

/-- An object that was not removed. -/
structure Failure where
  /-- The key. -/
  key : String
  /-- The version. -/
  versionId : Option String
  /-- Why it was not removed. -/
  cause : String
  deriving DecidableEq, Repr

namespace Failure

/-- The report that an object was not removed. -/
def of (id : ObjectId) (cause : String) : Failure := ⟨id.key, id.versionId, cause⟩

/-- The message of a report. -/
def message (f : Failure) : String := "Failed to remove " ++ f.key ++ ": " ++ f.cause

end Failure

/-- What a run has done. -/
structure Summary where
  /-- The number of calls. -/
  batches : Nat
  /-- The number of objects removed. -/
  deleted : Nat
  /-- The number of failures reported. -/
  failed : Nat
  deriving DecidableEq, Repr

end ObjectStore.Removal
