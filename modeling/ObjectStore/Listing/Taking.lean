import ObjectStore.Listing.Stream

/-!
# Taking the first records of a listing

A reader who wants a limited number of records reads the stream one item at a time, and
waits where there is none yet. Once it has its records, or meets the end or an error, it
lets go of the stream, which cancels it, and waits for the producer to end before it gives
its result. Reader and producer each move on when they like, so that an interleaving is a
sequence of moves.
-/

namespace ObjectStore.Listing

/-- Where a reader stands who takes a limited number of records. -/
inductive Taker where
  /-- Reading, with the records taken so far. -/
  | reading (taken : List ObjectEntry)
  /-- Waiting for the producer to end, with what is to be given then. -/
  | closing (outcome : Except Error (List ObjectEntry))
  /-- Done. -/
  | done (result : Except Error (List ObjectEntry))
  deriving Repr

/-- A listing, and the reader who takes records from it. -/
structure Taking where
  /-- The listing. -/
  stream : Stream
  /-- How many records are wanted. -/
  limit : Nat
  /-- Where the reader stands. -/
  taker : Taker := .reading []
  deriving Repr

/-- A move of the producer, of the reader, or of the caller. -/
inductive Taking.Move where
  /-- The producer makes one step. -/
  | step
  /-- The producer moves on to its next wait. -/
  | advance
  /-- The reader does what comes next, if there is anything it need not wait for. -/
  | take
  /-- The caller asks everything that it started to stop. -/
  | cancelCaller
  deriving DecidableEq, Repr

/-- Whether the producer moves. -/
def Taking.Move.isProducing : Move → Bool
  | step => true
  | advance => true
  | _ => false

namespace Taking

/-- A reader who has not taken anything yet. -/
def start (limit : Nat) (stream : Stream) : Taking := { stream, limit }

/-- The reader lets go of the stream, and then waits for the producer to end. -/
def letGo (t : Taking) (outcome : Except Error (List ObjectEntry)) : Taking :=
  { t with stream := t.stream.close, taker := .closing outcome }

/-- The reader takes the next record, lets go of the stream, or gives its result. -/
def take (t : Taking) : Taking :=
  match t.taker with
  | .reading taken =>
    if taken.length < t.limit then
      match t.stream.read with
      | (.item (.ok entry), stream) => { t with stream, taker := .reading (taken ++ [entry]) }
      | (.item (.error error), stream) => { t with stream }.letGo (.error error)
      | (.pending, _) => t
      | (.ended, _) => t.letGo (.ok taken)
    else t.letGo (.ok taken)
  | .closing outcome =>
    if t.stream.producer.isAlive then t
    else { t with taker := .done (t.stream.verdict.bind fun _ => outcome) }
  | .done _ => t

/-- The taking after a move. -/
def move (lister : Lister) (t : Taking) : Move → Taking
  | .step => { t with stream := t.stream.step lister }
  | .advance => { t with stream := t.stream.advance lister }
  | .take => t.take
  | .cancelCaller => { t with stream := t.stream.cancelCaller }

/-- The taking after a sequence of moves. -/
def run (lister : Lister) (t : Taking) (moves : List Move) : Taking := moves.foldl (move lister) t

/-- What the reader has given, if it is done. -/
def result? (t : Taking) : Option (Except Error (List ObjectEntry)) :=
  match t.taker with
  | .done result => some result
  | _ => none

end Taking

end ObjectStore.Listing
