import ObjectStore.Object

/-!
# Pages of a listing

The store answers a listing page by page. A page names objects and common
beginnings of keys apart, each in key order; its records are both, interleaved by
key. A page that is not the last one has a token for the page after it.
-/

namespace ObjectStore.Listing

/-- Objects and common beginnings of keys by ascending key, an object first where the keys are equal. -/
def interleave : List ObjectEntry → List ObjectEntry → List ObjectEntry
  | [], [] => []
  | o :: os, [] => o :: interleave os []
  | [], p :: ps => p :: interleave [] ps
  | o :: os, p :: ps =>
    if o.key ≤ p.key then o :: interleave os (p :: ps) else p :: interleave (o :: os) ps

/-- One page, as the store answers it. -/
structure Page where
  /-- The objects. -/
  objects : List ObjectEntry := []
  /-- The common beginnings of keys. -/
  commonPrefixes : List String := []
  /-- What to ask with for the next page. -/
  next : Option String := none
  deriving DecidableEq, Repr

namespace Page

/-- The records of a page. Without common beginnings they are the objects as they stand. -/
def records (page : Page) : List ObjectEntry :=
  if page.commonPrefixes.isEmpty then page.objects
  else interleave page.objects (page.commonPrefixes.map .commonPrefix)

/-- The token to go on with; an empty token leads nowhere. -/
def continuation (page : Page) : Option String := page.next.filter (!·.isEmpty)

end Page

end ObjectStore.Listing
