import ObjectStore.Transfer

/-!
# Options of a listing

What a listing covers and how large its pages are. Whatever number is given for
the size of a page, the size that is asked for is one that a call may ask for.
-/

namespace ObjectStore

/-- What to list. -/
structure ListOptions where
  /-- What the listed keys begin with. -/
  keyPrefix : String
  /-- How many entries a page is to have, as it was given. -/
  maxKeys : Int := maxKeysPerCall
  /-- Whether keys are listed whole, instead of up to the next slash. -/
  recursive : Bool := false
  /-- The key after which the listing starts. -/
  startAfter : Option String := none
  deriving DecidableEq, Repr

namespace ListOptions

/-- A number brought into the range of what one call may ask for. -/
def clampSize (n : Int) : Int := max 1 (min n maxKeysPerCall)

/-- Ask for pages of this size. -/
def withMaxKeys (o : ListOptions) (n : Int) : ListOptions := { o with maxKeys := clampSize n }

/-- The size of the pages that is asked for. -/
def pageSize (o : ListOptions) : Int := clampSize o.maxKeys

/-- A listing with the configured page size; a size beyond 31 bits counts as the largest allowed. -/
def ofTransfer (keyPrefix : String) (t : Transfer) : ListOptions :=
  ({ keyPrefix } : ListOptions).withMaxKeys
    (if t.listPageSize < 2147483648 then t.listPageSize else maxKeysPerCall)

end ListOptions

end ObjectStore
