import ObjectStore.Error
import ObjectStore.Listing.Options
import ObjectStore.Listing.Page
import ObjectStore.Text.Quoted

/-!
# Listings as streams

A listing has two sides that run on their own: a producer, which asks the lister
for page after page and publishes the records, and a reader, which takes what is
published. This module gives the state the two share and each move of either side;
an interleaving is a sequence of moves.

The producer makes one step after another: it asks for a page, takes in the answer,
publishes one record, or turns to the next page. It looks at the cancellation before
it asks and before it publishes a record. An answer that comes after a cancellation is
therefore dropped whole if it is a page. A failed call, however, is published
as the last item, cancelled or not. Where nothing else runs between two waits of the
producer, it moves from one wait to the next in one go.
-/

namespace ObjectStore.Listing

/-- A call for a page. -/
structure PageCall where
  /-- The bucket. -/
  bucket : String
  /-- What is listed. -/
  options : ListOptions
  /-- The token of the page, `none` for the first one. -/
  token : Option String := none
  deriving DecidableEq, Repr

/-- What a lister answers to one call. -/
inductive Reply where
  /-- A page. -/
  | page (page : Page)
  /-- The call failed. -/
  | failed (error : Error)
  /-- The lister broke down, with these last words. -/
  | crashed (words : String)
  deriving DecidableEq, Repr

/-- The answers of a lister: to each call, by its number from 0 and what it asks for. -/
abbrev Lister := Nat → PageCall → Reply

/-- What a reader gets: a record, or the error that ends the stream. -/
abbrev Item := Except Error ObjectEntry

/-- Where the producer stands. -/
inductive Producer where
  /-- About to make a call. -/
  | ready (call : PageCall)
  /-- Waiting for the answer to a call. -/
  | fetching (call : PageCall)
  /-- About to publish what is left of a page, and to make the next call if there is one. -/
  | publishing (records : List ObjectEntry) (next : Option PageCall)
  /-- Done. -/
  | ended
  /-- Broken down together with the lister. -/
  | died (words : String)
  deriving DecidableEq, Repr

namespace Producer

/-- Whether the producer may still publish. -/
def isAlive : Producer → Bool
  | ready _ => true
  | fetching _ => true
  | publishing _ _ => true
  | ended => false
  | died _ => false

/-- Whether the producer waits for an answer. -/
def isFetching : Producer → Bool
  | fetching _ => true
  | _ => false

/-- A number of steps that takes the producer to its next wait, or to its end. -/
def stepsToWait : Producer → Nat
  | ready _ => 1
  | publishing records _ => records.length + 2
  | _ => 0

end Producer

/-- The state that producer and reader share. -/
structure Stream where
  /-- Where the producer stands. -/
  producer : Producer
  /-- The calls made so far, in order. -/
  requests : List PageCall := []
  /-- The items published so far, in order. -/
  published : List Item := []
  /-- What is published and not yet read. -/
  unread : List Item := []
  /-- Whether the stream itself was cancelled. -/
  cancelled : Bool := false
  /-- Whether the caller cancelled everything that it started. -/
  callerCancelled : Bool := false
  /-- Whether the reader still holds the stream. -/
  held : Bool := true
  deriving Repr

/-- What a reader finds. -/
inductive Reading where
  /-- An item. -/
  | item (item : Item)
  /-- Nothing yet. -/
  | pending
  /-- Nothing any more. -/
  | ended
  deriving Repr

/-- A move of the producer, of the reader or of the caller. -/
inductive Move where
  /-- The producer makes one step. -/
  | step
  /-- The producer moves on to its next wait. -/
  | advance
  /-- The reader takes the next item, if there is one. -/
  | read
  /-- The reader asks the producer to stop. -/
  | cancel
  /-- The caller asks everything that it started to stop. -/
  | cancelCaller
  /-- The reader lets go of the stream. -/
  | drop
  /-- The reader lets go of the stream, to wait for the producer to end. -/
  | close
  deriving DecidableEq, Repr

namespace Move

/-- Whether the producer moves. -/
def isProducing : Move → Bool
  | step => true
  | advance => true
  | _ => false

/-- Whether the move cancels the stream. -/
def isCancelling : Move → Bool
  | cancel => true
  | cancelCaller => true
  | drop => true
  | close => true
  | _ => false

/-- Whether the reader gives up the stream. -/
def isLettingGo : Move → Bool
  | drop => true
  | close => true
  | _ => false

end Move

namespace Stream

/-- A listing that has not made a call yet. -/
def start (bucket : String) (options : ListOptions) (callerCancelled : Bool := false) : Stream :=
  { producer := .ready { bucket, options }, callerCancelled }

/-- The tokens of the calls made so far, in order. -/
def calls (s : Stream) : List (Option String) := s.requests.map PageCall.token

/-- Whether the producer is to stop. A stream is cancelled along with its caller, not the reverse. -/
def isCancelled (s : Stream) : Bool := s.cancelled || s.callerCancelled

/-- Publish an item; with nobody to read it it is lost. -/
def publish (s : Stream) (item : Item) : Stream :=
  if s.held then { s with published := s.published ++ [item], unread := s.unread ++ [item] } else s

/-- The producer makes a call, unless the stream is cancelled. -/
def request (s : Stream) (call : PageCall) : Stream :=
  if s.isCancelled then { s with producer := .ended }
  else { s with producer := .fetching call, requests := s.requests ++ [call] }

/-- The producer is done. -/
def finish (s : Stream) : Stream := { s with producer := .ended }

/-- The producer takes in the answer to a call. -/
def receive (s : Stream) (call : PageCall) : Reply → Stream
  | .failed error => (s.publish (.error error)).finish
  | .crashed words => { s with producer := .died words }
  | .page page =>
    let next := page.continuation.map fun token => { call with token := some token }
    { s with producer := .publishing page.records next }

/-- The producer makes one step. -/
def step (lister : Lister) (s : Stream) : Stream :=
  match s.producer with
  | .ready call => s.request call
  | .fetching call => s.receive call (lister (s.requests.length - 1) call)
  | .publishing [] (some next) => { s with producer := .ready next }
  | .publishing [] none => s.finish
  | .publishing (record :: rest) next =>
    if s.isCancelled || !s.held then s.finish
    else { s.publish (.ok record) with producer := .publishing rest next }
  | .ended => s
  | .died _ => s

/-- The producer makes a number of steps. -/
def steps (lister : Lister) : Nat → Stream → Stream
  | 0, s => s
  | count + 1, s => steps lister count (s.step lister)

/-- The producer moves on to its next wait: it starts, or the call that it waits for is answered. -/
def advance (lister : Lister) (s : Stream) : Stream :=
  let s := s.step lister
  steps lister s.producer.stepsToWait s

/-- The reader takes the next item. -/
def read (s : Stream) : Reading × Stream :=
  match s.unread with
  | item :: rest => (.item item, { s with unread := rest })
  | [] => (if s.producer.isAlive then .pending else .ended, s)

/-- The reader asks the producer to stop; what is published can still be read. -/
def cancel (s : Stream) : Stream := { s with cancelled := true }

/-- The caller asks everything that it started to stop. -/
def cancelCaller (s : Stream) : Stream := { s with callerCancelled := true }

/-- The reader lets go of the stream, which cancels it. -/
def drop (s : Stream) : Stream := { s with cancelled := true, held := false, unread := [] }

/-- The reader asks the producer to stop and lets go of the stream. -/
def close (s : Stream) : Stream := s.cancel.drop

/-- The item that a move hands to the reader. -/
def handed? (s : Stream) : Move → Option Item
  | .read => s.unread.head?
  | _ => none

/-- The stream after a move. -/
def move (lister : Lister) (s : Stream) : Move → Stream
  | .step => s.step lister
  | .advance => s.advance lister
  | .read => s.read.2
  | .cancel => s.cancel
  | .cancelCaller => s.cancelCaller
  | .drop => s.drop
  | .close => s.close

/-- What the reader gets in a sequence of moves, and the stream after them. -/
def run (lister : Lister) : Stream → List Move → List Item × Stream
  | s, [] => ([], s)
  | s, m :: moves =>
    let (items, last) := run lister (s.move lister m) moves
    ((s.handed? m).toList ++ items, last)

/-- How a stream that was let go of ended: well, unless the producer broke down. -/
def verdict (s : Stream) : Except Error Unit :=
  match s.producer with
  | .died words =>
    .error (.other ("Listing task failed: task # panicked with message " ++ Text.Quoted.quote words))
  | _ => .ok ()

end Stream

end ObjectStore.Listing
