import ObjectStore.Listing.Stream
import ObjectStore.Removal.Consumer

/-!
# From a listing to its removal

The consumer of a removal reads the stream of a listing: it takes in the objects,
passes over common beginnings of keys, and takes an error for the end of the
objects. A consumer that has ended lets go of the stream, which cancels the listing
but not its caller. The two sides run on their own, so that an interleaving is again
a sequence of moves.
-/

namespace ObjectStore.Removal

/-- A listing, and the removal that reads it. -/
structure Pipeline where
  /-- The listing. -/
  stream : Listing.Stream
  /-- The removal. -/
  consumer : Consumer
  deriving Repr

/-- A move of the listing, of the removal, of the caller, or of the reader of the failures. -/
inductive Pipeline.Move where
  /-- The producer of the listing makes one step. -/
  | step
  /-- The producer of the listing moves on to its next wait. -/
  | produce
  /-- The consumer takes in what comes next, if there is anything. -/
  | consume
  /-- The call that the consumer waits for is answered. -/
  | answer
  /-- The caller asks everything that it started to stop. -/
  | cancelCaller
  /-- The reader of the failures takes the next one. -/
  | read
  /-- The reader of the failures leaves. -/
  | unwatch
  deriving DecidableEq, Repr

namespace Pipeline

/-- A pipeline in which neither side has begun. -/
def start (bucket : String) (listing : ListOptions) (removal : RemoveOptions) : Pipeline :=
  { stream := .start bucket listing, consumer := .start removal }

/-- The pipeline with what has become of the consumer, who lets go of the stream at its end. -/
def handOver (p : Pipeline) (consumer : Consumer) : Pipeline :=
  { stream := if consumer.hasEnded then p.stream.drop else p.stream, consumer }

/-- Take in an item, which is an error if it is the last one. -/
def accept (c : Consumer) : Listing.Item → Consumer
  | .ok entry => if entry.isCommonPrefix then c else c.take entry.id
  | .error _ => c.close

/-- The consumer takes in the next item, or the end; it waits if there is neither. -/
def consume (p : Pipeline) : Pipeline :=
  if p.consumer.progress = .running then
    match p.stream.read with
    | (.item item, stream) => { p with stream }.handOver (accept p.consumer item)
    | (.pending, _) => p
    | (.ended, _) => p.handOver p.consumer.close
  else p

/-- The call that the consumer waits for is answered. -/
def answer (deleter : Deleter) (p : Pipeline) : Pipeline := p.handOver (p.consumer.answer deleter)

/-- Let the consumer take in `count` items, or all there are, with each call answered at once. -/
def consumeMany (deleter : Deleter) : Nat → Pipeline → Pipeline
  | 0, p => p
  | count + 1, p => consumeMany deleter count (p.consume.answer deleter)

/-- Let the consumer take in all that is published, and its end. -/
def consumeAll (deleter : Deleter) (p : Pipeline) : Pipeline :=
  consumeMany deleter (p.stream.unread.length + 1) p

/-- The pipeline after a move. -/
def move (lister : Listing.Lister) (deleter : Deleter) (p : Pipeline) : Move → Pipeline
  | .step => { p with stream := p.stream.step lister }
  | .produce => { p with stream := p.stream.advance lister }
  | .consume => p.consume
  | .answer => p.answer deleter
  | .cancelCaller => { p with stream := p.stream.cancelCaller }
  | .read => { p with consumer := p.consumer.read.2 }
  | .unwatch => { p with consumer := p.consumer.unwatch }

/-- The pipeline after a sequence of moves. -/
def run (lister : Listing.Lister) (deleter : Deleter) (p : Pipeline) (moves : List Move) : Pipeline :=
  moves.foldl (move lister deleter) p

end Pipeline

end ObjectStore.Removal
