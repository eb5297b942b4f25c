import ObjectStore.Transfer

/-!
# Options of a removal

How many objects go into one call, and whether locks are overridden. The number is
kept as it was given; what a run works with lies in the range of what one call may
ask for.
-/

namespace ObjectStore

/-- How to remove objects. -/
structure RemoveOptions where
  /-- How many objects are to go into one call, as it was given. -/
  batchSize : Nat := maxKeysPerCall
  /-- Whether locks that may be lifted by right are overridden. -/
  bypassGovernance : Bool := false
  deriving DecidableEq, Repr

namespace RemoveOptions

/-- A removal with the configured batch size. -/
def ofTransfer (t : Transfer) : RemoveOptions := { batchSize := t.deleteBatchSize }

/-- How many objects go into one call. -/
def effectiveBatchSize (o : RemoveOptions) : Nat := clampToCall o.batchSize

end RemoveOptions

end ObjectStore
