import ObjectStore.Error
import ObjectStore.Http.Message

/-!
# Links to a store

A link answers requests one after another, and keeps what was sent. A request is
sent if the store can be reached and accepts a connection; otherwise it counts as
not delivered. What comes of the exchange may depend on the request, and may be a
failure of any kind.
-/

namespace ObjectStore.Http

/-- How a store reacts to a request. -/
structure Reply where
  /-- What comes of the exchange. -/
  outcome : Request → Except CallFailure Response

namespace Reply

/-- The store responds. -/
def response (response : Response) : Reply := ⟨fun _ => .ok response⟩

/-- The store hangs up without a response, so that the request counts as not delivered. -/
def hangup : Reply := ⟨fun _ => .error .dispatch⟩

end Reply

/-- A link to a store. -/
structure Link where
  /-- Whether the store can be reached. -/
  isReachable : Bool := true
  /-- How the store reacts to the requests to come; after that it accepts no connection. -/
  replies : List Reply
  /-- The requests sent so far, in order. -/
  sent : List Request := []

namespace Link

/-- How the store reacts to the next request, `none` if it does not get it. -/
def next? (l : Link) : Option Reply := if l.isReachable then l.replies.head? else none

/-- How many requests the store will get. -/
def room (l : Link) : Nat := if l.isReachable then l.replies.length else 0

/-- Send a request and wait for what comes of it. -/
def exchange (l : Link) (request : Request) : Except CallFailure Response × Link :=
  match l.next? with
  | none => (.error .dispatch, l)
  | some reply =>
    (reply.outcome request, { l with replies := l.replies.tail, sent := l.sent ++ [request] })

/-- A link at which a number of exchanges are over. -/
def skip (l : Link) (n : Nat) : Link := { l with replies := l.replies.drop n }

end Link

end ObjectStore.Http
