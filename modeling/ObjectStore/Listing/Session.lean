import ObjectStore.Listing.Stream

/-!
# Listings against a script

A script lays down what the lister answers, and permits say how many calls it may
answer. The producer runs as far as the permits let it after each move of the
reader. A script is finite and a call beyond its end fails, so that even without
limit the producer comes to an end.
-/

namespace ObjectStore.Listing

/-- The answers of a script, and failure beyond its end. -/
def scripted (script : List Reply) : Lister :=
  fun n _ => script.getD n (.failed (.other "script exhausted"))

/-- Let calls be answered while there are permits; the permits that are left, and the stream. -/
def settle (lister : Lister) : Nat → Stream → Nat × Stream
  | 0, s => (0, s)
  | permits + 1, s =>
    if s.producer.isFetching then settle lister permits (s.advance lister) else (permits + 1, s)

/-- A listing against a script. -/
structure Session where
  /-- The answers of the lister. -/
  script : List Reply
  /-- How many more calls may be answered, `none` for any number. -/
  permits : Option Nat
  /-- The listing. -/
  stream : Stream
  deriving Repr

namespace Session

/-- Let the producer run until it ends or lacks a permit. -/
def settle (s : Session) : Session :=
  let lister := scripted s.script
  match s.permits with
  | some n =>
    let (left, stream) := Listing.settle lister n s.stream
    { s with permits := some left, stream }
  | none => { s with stream := (Listing.settle lister (s.script.length + 1) s.stream).2 }

/-- A listing that has just begun. -/
def start (script : List Reply) (permits : Option Nat) (callerCancelled : Bool)
    (bucket : String := "") (options : ListOptions := { keyPrefix := "" }) : Session :=
  let stream := Stream.start bucket options callerCancelled
  ({ script, permits, stream := stream.advance (scripted script) } : Session).settle

/-- Let `n` more calls be answered. -/
def grant (s : Session) (n : Nat) : Session := { s with permits := s.permits.map (· + n) }

/-- Let any number of calls be answered. -/
def grantAll (s : Session) : Session := { s with permits := none }

/-- Apply a move of the reader or of the caller. -/
def modify (s : Session) (move : Stream → Stream) : Session := { s with stream := move s.stream }

/-- Read one item. -/
def read (s : Session) : Reading × Session :=
  let (reading, stream) := s.stream.read
  (reading, { s with stream })

/-- Read all there is, up to and including the first reading that is no item. -/
def readAll (s : Session) : List Reading × Session :=
  let s' := s.modify fun stream => { stream with unread := [] }
  (s.stream.unread.map .item ++ [s'.read.1], s')

/-- Cancel the stream, let go of it, and wait for the producer to end. -/
def close (s : Session) : Except Error Unit × Session :=
  let s := (s.grantAll.modify .close).settle
  (s.stream.verdict, s)

/-- At most `limit` records off the front of what is published, `none` if that takes more of it. -/
def collect : Nat → List Item → Option (Except Error (List ObjectEntry))
  | 0, _ => some (.ok [])
  | _ + 1, [] => none
  | _ + 1, .error error :: _ => some (.error error)
  | limit + 1, .ok entry :: rest => (collect limit rest).map (·.map (entry :: ·))

/-- The records of items, up to the first that is none. -/
def entries : List Item → List ObjectEntry
  | .ok entry :: rest => entry :: entries rest
  | _ => []

/-- Take at most `limit` records, then close; waiting for a record, let the producer run to its end. -/
def take (limit : Nat) (s : Session) : Except Error (List ObjectEntry) × Session :=
  let s := s.grantAll
  let (taken, s) :=
    match collect limit s.stream.unread with
    | some taken => (taken, s)
    | none =>
      let s := s.settle
      ((collect limit s.stream.unread).getD (.ok (entries s.stream.unread)), s)
  let (closed, s) := s.close
  (closed.bind fun _ => taken, s)

/-- The objects that a listing yields for removal: no common beginnings, and nothing after an error. -/
def removable (items : List Item) : List ObjectId :=
  ((entries items).filter (!·.isCommonPrefix)).map ObjectEntry.id

/-- Read everything for removal and let go of the stream. -/
def takeRemovable (s : Session) : List ObjectId × Session :=
  let s := s.grantAll.settle
  (removable s.stream.unread, s.modify .drop)

end Session

end ObjectStore.Listing
