import ObjectStore.Listing.Session
import ObjectStore.Removal.Pipeline

/-!
# Removal runs

A run gets its objects from a channel that its owner fills, or from a listing.
After each move of the owner everything that can run runs: first the producer of
the listing, then the consumer, which takes in all there is. A consumer that has
ended lets go of its input, and a listing that is let go of is cancelled.
-/

namespace ObjectStore.Removal

/-- A channel of objects. -/
structure Channel where
  /-- The objects sent and not yet taken in. -/
  queue : List ObjectId := []
  /-- Whether nothing more can be sent. -/
  closed : Bool := false
  deriving Repr

/-- Where a run gets its objects from. -/
inductive Source where
  /-- A channel. -/
  | channel (channel : Channel)
  /-- The objects of a listing. -/
  | listing (session : Listing.Session)
  deriving Repr

/-- A run together with its input and its deleter. -/
structure Session where
  /-- Where the objects come from. -/
  source : Source
  /-- The answers to the calls. -/
  deleter : Deleter
  /-- The state of the run. -/
  consumer : Consumer

namespace Session

/-- Take in all objects of a channel, and its end if it is closed. -/
def drainChannel (deleter : Deleter) (channel : Channel) (c : Consumer) : Channel × Consumer :=
  let c := channel.queue.foldl (Consumer.accept deleter) c
  let c := if channel.closed then c.exhaust deleter else c
  ({ queue := [], closed := channel.closed || c.hasEnded }, c)

/-- Take in all that a listing has published, and its end if it has ended. -/
def drainListing (deleter : Deleter) (s : Listing.Session) (c : Consumer) : Listing.Session × Consumer :=
  let p := ({ stream := s.stream, consumer := c } : Pipeline).consumeAll deleter
  ({ s with stream := p.stream }, p.consumer)

/-- Let everything run that can run. -/
def settle (s : Session) : Session :=
  match s.source with
  | .channel channel =>
    let (channel, consumer) := drainChannel s.deleter channel s.consumer
    { s with source := .channel channel, consumer }
  | .listing session =>
    let (session, consumer) := drainListing s.deleter session.settle s.consumer
    { s with source := .listing session, consumer }

/-- A run that has just begun. -/
def start (source : Source) (deleter : Deleter) (options : RemoveOptions) : Session :=
  ({ source, deleter, consumer := .start options } : Session).settle

/-- Send objects through the channel; how many were accepted. -/
def push (s : Session) (ids : List ObjectId) : Nat × Session :=
  match s.source with
  | .channel channel =>
    if channel.closed then (0, s)
    else
      let channel := { channel with queue := channel.queue ++ ids }
      (ids.length, ({ s with source := .channel channel } : Session).settle)
  | .listing _ => (0, s)

/-- Close the channel. -/
def closeInput (s : Session) : Session :=
  match s.source with
  | .channel channel => ({ s with source := .channel { channel with closed := true } } : Session).settle
  | .listing _ => s

/-- Apply a move to the listing. -/
def modifyListing (s : Session) (move : Listing.Session → Listing.Session) : Session :=
  match s.source with
  | .channel _ => s
  | .listing session => ({ s with source := .listing (move session) } : Session).settle

/-- End the input and wait for the run to end. -/
def finish (s : Session) : Option (Except Error Summary) × Session :=
  let s := s.closeInput.modifyListing .grantAll
  (s.consumer.verdict?, { s with consumer := s.consumer.unwatch })

/-- The tokens with which the listing asked for its pages. -/
def listingCalls? (s : Session) : Option (List (Option String)) :=
  match s.source with
  | .channel _ => none
  | .listing session => some session.stream.calls

end Session

/-- The answer of a store that refuses the objects of some keys, each with the first cause given. -/
def refusals (refused : List (String × String)) (batch : List ObjectId) : Answer :=
  .failures (batch.filterMap fun id => (refused.lookup id.key).map (Failure.of id))

/-- Answers by the number of the call, and refusals where none is laid down. -/
def scripted (script : List (Option Answer)) (refused : List (String × String)) : Deleter :=
  fun n batch => (script.getD n none).getD (refusals refused batch)

end ObjectStore.Removal
