/-!
# Transfer settings

How much is asked of the store in one call, and how long and how often a call is
tried. One call lists or removes at most a thousand objects.
-/

namespace ObjectStore

/-- The largest number of objects that one call lists or removes. -/
def maxKeysPerCall : Nat := 1000

/-- A number brought into the range of what one call may ask for. -/
def clampToCall (n : Nat) : Nat := max 1 (min n maxKeysPerCall)

/-- Settings of the calls to the store. -/
structure Transfer where
  /-- How many entries a page of a listing is to have. -/
  listPageSize : Nat := maxKeysPerCall
  /-- How many objects one call is to remove. -/
  deleteBatchSize : Nat := maxKeysPerCall
  /-- How many seconds a call may take. -/
  timeout : Nat := 30
  /-- How often a call is tried again. -/
  maxRetries : UInt32 := 3
  deriving DecidableEq, Repr, Inhabited

end ObjectStore
