import ObjectStore.Listing.Page

/-!
# Interleaving round by round

The records of a page come about in rounds. A round looks at the first object and at the first
common beginning of keys that are left, and moves one of the two to the records. Where nothing is
left there is no further round.
-/

namespace ObjectStore.Listing

/-- What is left of a page, and the records that have come about. -/
structure Interleaving where
  /-- The objects that are left. -/
  objects : List ObjectEntry
  /-- The common beginnings of keys that are left. -/
  commonPrefixes : List ObjectEntry
  /-- The records so far. -/
  records : List ObjectEntry := []
  deriving DecidableEq, Repr

namespace Interleaving

/-- A page before the first round. -/
def start (page : Page) : Interleaving :=
  { objects := page.objects, commonPrefixes := page.commonPrefixes.map .commonPrefix }

/-- Whether the next round moves an object, if there is a next round. -/
def movesObject? (i : Interleaving) : Option Bool :=
  match i.objects.head?, i.commonPrefixes.head? with
  | some o, some p => some (o.key ≤ p.key)
  | some _, none => some true
  | none, some _ => some false
  | none, none => none

/-- Move the first object, or else the first common beginning, to the records. -/
def move (i : Interleaving) (isObject : Bool) : Interleaving :=
  if isObject then
    { i with objects := i.objects.tail, records := i.records ++ i.objects.head?.toList }
  else
    { i with
      commonPrefixes := i.commonPrefixes.tail
      records := i.records ++ i.commonPrefixes.head?.toList }

/-- One round, if there is one. -/
def step (i : Interleaving) : Option Interleaving := i.movesObject?.map i.move

/-- A number of rounds, if there are so many. -/
def after : Nat → Interleaving → Option Interleaving
  | 0, i => some i
  | n + 1, i => i.step.bind (after n)

/-- How many objects and common beginnings are left. -/
def size (i : Interleaving) : Nat := i.objects.length + i.commonPrefixes.length

/-- What is to come of an interleaving: the records so far, then all that is left. -/
def outlook (i : Interleaving) : List ObjectEntry :=
  i.records ++ interleave i.objects i.commonPrefixes

end Interleaving

end ObjectStore.Listing
