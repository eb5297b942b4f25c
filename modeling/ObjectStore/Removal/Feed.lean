import ObjectStore.Removal.Session

/-!
# A removal that is fed

The owner of a channel sends objects through it, and closes it in the end. The consumer
takes in one object at a time and waits for one answer at a time; the reader of the
failures reads them, or leaves. Each of the three goes on when it likes, so that an
interleaving is a sequence of moves. A consumer that has ended lets go of the channel,
and with it of what is still in it; nothing more is accepted then.
-/

namespace ObjectStore.Removal

/-- A channel, and the removal that it feeds. -/
structure Feed where
  /-- The channel. -/
  channel : Channel := {}
  /-- The objects that the channel accepted so far, in order. -/
  accepted : List ObjectId := []
  /-- The removal. -/
  consumer : Consumer
  deriving Repr

/-- A move of the owner of the channel, of the removal, or of the reader of the failures. -/
inductive Feed.Move where
  /-- The owner sends an object. -/
  | push (id : ObjectId)
  /-- The owner closes the channel. -/
  | close
  /-- The consumer takes in what comes next, if there is anything. -/
  | consume
  /-- The call that the consumer waits for is answered. -/
  | answer
  /-- The reader of the failures takes the next one. -/
  | read
  /-- The reader of the failures leaves. -/
  | unwatch
  deriving DecidableEq, Repr

namespace Feed

namespace Move

/-- Whether the owner of the channel moves. -/
def isFeeding : Move → Bool
  | push _ => true
  | close => true
  | _ => false

/-- Whether the reader of the failures moves. -/
def isReading : Move → Bool
  | read => true
  | unwatch => true
  | _ => false

end Move

/-- A removal that has not been fed. -/
def start (options : RemoveOptions) : Feed := { consumer := .start options }

/-- The feed with what has become of the consumer, who lets go of the channel at its end. -/
def handOver (f : Feed) (consumer : Consumer) : Feed :=
  if consumer.hasEnded then { f with channel := { queue := [], closed := true }, consumer }
  else { f with consumer }

/-- The owner sends an object, which a closed channel does not accept. -/
def push (f : Feed) (id : ObjectId) : Feed :=
  if f.channel.closed then f
  else { f with
    channel := { f.channel with queue := f.channel.queue ++ [id] }
    accepted := f.accepted ++ [id] }

/-- The owner closes the channel. -/
def close (f : Feed) : Feed := { f with channel := { f.channel with closed := true } }

/-- The consumer takes in the next object, or the end; it waits if there is neither. -/
def consume (f : Feed) : Feed :=
  if f.consumer.progress = .running then
    match f.channel.queue with
    | id :: rest =>
      { f with channel := { f.channel with queue := rest } }.handOver (f.consumer.take id)
    | [] => if f.channel.closed then f.handOver f.consumer.close else f
  else f

/-- The call that the consumer waits for is answered. -/
def answer (deleter : Deleter) (f : Feed) : Feed := f.handOver (f.consumer.answer deleter)

/-- The reader of the failures takes the next one. -/
def read (f : Feed) : Feed := { f with consumer := f.consumer.read.2 }

/-- The reader of the failures leaves. -/
def unwatch (f : Feed) : Feed := { f with consumer := f.consumer.unwatch }

/-- The feed after a move. -/
def move (deleter : Deleter) (f : Feed) : Move → Feed
  | .push id => f.push id
  | .close => f.close
  | .consume => f.consume
  | .answer => f.answer deleter
  | .read => f.read
  | .unwatch => f.unwatch

/-- The feed after a sequence of moves. -/
def run (deleter : Deleter) (f : Feed) (moves : List Move) : Feed :=
  moves.foldl (move deleter) f

/-- The consumer waits for the owner of the channel: it has taken in all there is. -/
def isParked (f : Feed) : Bool :=
  f.consumer.progress = .running && f.channel.queue.isEmpty && !f.channel.closed

/-- The consumer has nothing to do: it waits for the owner of the channel, or has ended. -/
def isAtRest (f : Feed) : Bool := f.isParked || f.consumer.hasEnded

/-- Turns of the consumer one after another, each with its answer. -/
def turns (count : Nat) : List Move := (List.replicate count [.consume, .answer]).flatten

end Feed

end ObjectStore.Removal
