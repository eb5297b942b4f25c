import ObjectStore.Proofs.Removal.Feeding

/-!
# What a fed removal does not depend on

The reader of the failures has no part in a removal: without its moves the run is the same.
Nor does it matter when the consumer moves. What it comes to once it is at rest is laid down by
what the owner of the channel does, and it comes to rest as soon as it is let run.
-/

namespace ObjectStore.Removal

variable {deleter : Deleter}

/-! ## The reader of the failures -/

namespace Consumer

variable {c : Consumer}

theorem take_unwatch (c : Consumer) (id : ObjectId) : (c.take id).unwatch = c.unwatch.take id := by
  by_cases hp : c.progress = .running
  · by_cases hroom : (c.held ++ [id]).length < c.batchSize
    · rw [take_of_room hp hroom, take_of_room (c := c.unwatch) hp hroom]
      rfl
    · have hfull := Nat.le_of_not_lt hroom
      rw [take_of_full hp hfull, take_of_full (c := c.unwatch) hp hfull]
      rfl
  · have hp' : c.unwatch.progress ≠ .running := hp
    rw [take, if_neg hp, take, if_neg hp']

theorem close_unwatch (c : Consumer) : c.close.unwatch = c.unwatch.close := by
  by_cases hp : c.progress = .running
  · by_cases hh : c.held = []
    · rw [close_of_nil hp hh, close_of_nil (c := c.unwatch) hp hh]
      rfl
    · rw [close_of_held hp hh, close_of_held (c := c.unwatch) hp hh]
      rfl
  · have hp' : c.unwatch.progress ≠ .running := hp
    rw [close, if_neg hp, close, if_neg hp']

theorem answer_unwatch (deleter : Deleter) (c : Consumer) :
    (c.answer deleter).unwatch = c.unwatch.answer deleter := by
  rcases c.waiting_or_isAnswered with ⟨batch, isLast, hp⟩ | hw
  · rw [answer_eq_of_waiting hp, answer_eq_of_waiting (c := c.unwatch) hp]
    rfl
  · rw [answer_of_isAnswered hw, answer_of_isAnswered (c := c.unwatch) hw]

end Consumer

namespace Feed

variable {f : Feed}

theorem handOver_unwatch (f : Feed) (c : Consumer) :
    (f.handOver c).unwatch = f.unwatch.handOver c.unwatch := by
  cases h : c.hasEnded with
  | true =>
    have h' : c.unwatch.hasEnded = true := h
    rw [handOver_of_hasEnded h, handOver_of_hasEnded h']
    rfl
  | false =>
    have h' : c.unwatch.hasEnded = false := h
    rw [handOver_of_not_hasEnded h, handOver_of_not_hasEnded h']
    rfl

theorem consume_unwatch (f : Feed) : f.consume.unwatch = f.unwatch.consume := by
  by_cases hp : f.consumer.progress = .running
  · have hp' : f.unwatch.consumer.progress = .running := hp
    rw [consume, if_pos hp, consume, if_pos hp']
    cases hq : f.channel.queue with
    | cons id rest =>
      have hq' : f.unwatch.channel.queue = id :: rest := hq
      simp only [hq']
      rw [handOver_unwatch, Consumer.take_unwatch]
      rfl
    | nil =>
      have hq' : f.unwatch.channel.queue = [] := hq
      have hc : f.unwatch.channel.closed = f.channel.closed := rfl
      simp only [hq', hc]
      split
      · rw [handOver_unwatch, Consumer.close_unwatch]
        rfl
      · rfl
  · have hp' : f.unwatch.consumer.progress ≠ .running := hp
    rw [consume, if_neg hp, consume, if_neg hp']

/-- The reader of the failures does nothing to the rest of a feed, nor to what others do. -/
theorem move_unwatch (deleter : Deleter) (f : Feed) (m : Move) :
    (f.move deleter m).unwatch = if m.isReading then f.unwatch else f.unwatch.move deleter m := by
  cases m with
  | push id =>
    change (f.push id).unwatch = f.unwatch.push id
    have hc : f.unwatch.channel.closed = f.channel.closed := rfl
    rw [push, push, hc]
    split <;> rfl
  | close => rfl
  | consume => exact f.consume_unwatch
  | answer =>
    exact (f.handOver_unwatch _).trans (congrArg _ (f.consumer.answer_unwatch deleter))
  | read => simp [move, read, unwatch, Consumer.unwatch, Move.isReading]
  | unwatch => rfl

/-- Without the moves of the reader of the failures a run is the same. -/
theorem run_unwatch (deleter : Deleter) (f : Feed) (moves : List Move) :
    (f.run deleter moves).unwatch = f.unwatch.run deleter (moves.filter (!·.isReading)) := by
  induction moves generalizing f with
  | nil => rfl
  | cons m moves ih =>
    rw [run_cons, ih, move_unwatch]
    cases h : m.isReading <;> simp [h, run_cons]

end Feed

/-! ## What the consumer comes to -/

namespace Consumer

variable {c : Consumer}

/-- Once it is answered the consumer waits for no answer. -/
theorem isAnswered_answer (deleter : Deleter) (c : Consumer) : (c.answer deleter).IsAnswered := by
  rcases c.waiting_or_isAnswered with ⟨batch, isLast, hp⟩ | hw
  · intro called last
    rw [answer_eq_of_waiting hp]
    simp only
    cases hend : (⟨batch, deleter (c.batches.length - 1) batch⟩ : Attempt).ending? with
    | none => cases isLast <;> simp
    | some progress => rcases Attempt.eq_of_ending? hend with ⟨error, rfl⟩ | ⟨words, rfl⟩ <;> simp
  · rw [answer_of_isAnswered hw]
    exact hw

@[simp] theorem answer_answer (deleter : Deleter) (c : Consumer) :
    (c.answer deleter).answer deleter = c.answer deleter :=
  answer_of_isAnswered (isAnswered_answer deleter c)

/-- A consumer that waits for no answer is running or has ended. -/
theorem running_or_hasEnded (hc : c.IsAnswered) :
    c.progress = .running ∨ c.hasEnded = true := by
  cases hp : c.progress with
  | running => exact .inl rfl
  | waiting batch isLast => exact absurd hp (hc batch isLast)
  | _ => exact .inr (by rw [hasEnded, hp])

/-- With the end of what it takes in a consumer comes to its own. -/
theorem hasEnded_exhaust (hc : c.IsAnswered) : (c.exhaust deleter).hasEnded = true := by
  rcases running_or_hasEnded hc with hp | hended
  · by_cases hh : c.held = []
    · rw [exhaust, close_of_nil hp hh]
      rfl
    · rw [exhaust, close_of_held hp hh, answer_submit, if_pos rfl, attempted_done]
      exact hasEnded_concluded _ _
  · rw [exhaust_of_hasEnded hended]
    exact hended

end Consumer

namespace Feed

variable {f : Feed}

/-- What becomes of the consumer if it takes in all that the channel has for it. -/
def outlook (deleter : Deleter) (f : Feed) : Consumer :=
  (Session.drainChannel deleter f.channel (f.consumer.answer deleter)).2

theorem outlook_eq (deleter : Deleter) (f : Feed) : f.outlook deleter =
    if f.channel.closed then
      (f.channel.queue.foldl (Consumer.accept deleter) (f.consumer.answer deleter)).exhaust deleter
    else f.channel.queue.foldl (Consumer.accept deleter) (f.consumer.answer deleter) := rfl

/-- A consumer that has ended has nothing more to come to. -/
theorem outlook_of_hasEnded (h : f.consumer.hasEnded = true) : f.outlook deleter = f.consumer := by
  rw [outlook_eq, Consumer.answer_of_isAnswered (Consumer.isAnswered_of_hasEnded h),
    Consumer.foldl_accept_of_hasEnded h, Consumer.exhaust_of_hasEnded h, ite_self]

theorem outlook_handOver (f : Feed) (c : Consumer) :
    (f.handOver c).outlook deleter = ({ f with consumer := c } : Feed).outlook deleter := by
  cases h : c.hasEnded with
  | true => rw [handOver_of_hasEnded h, outlook_of_hasEnded h, outlook_of_hasEnded h]
  | false => rw [handOver_of_not_hasEnded h]

/-- The consumer's turn does not change what it comes to. -/
theorem outlook_consume (deleter : Deleter) (f : Feed) :
    f.consume.outlook deleter = f.outlook deleter := by
  by_cases hp : f.consumer.progress = .running
  · have hw := Consumer.isAnswered_of_running hp
    rw [consume, if_pos hp]
    cases hq : f.channel.queue with
    | cons id rest =>
      simp only [outlook_handOver]
      simp only [outlook_eq, hq, List.foldl_cons, Consumer.answer_of_isAnswered hw]
      rfl
    | nil =>
      cases hc : f.channel.closed with
      | false => rfl
      | true =>
        have hended : (f.consumer.close.answer deleter).hasEnded = true :=
          Consumer.hasEnded_exhaust hw
        simp only [if_pos, outlook_handOver]
        simp only [if_pos, outlook_eq, hq, hc, List.foldl_nil,
          Consumer.answer_of_isAnswered hw, Consumer.exhaust_of_hasEnded hended]
        rfl
  · rw [consume, if_neg hp]

/-- Neither does an answer. -/
theorem outlook_answer (deleter : Deleter) (f : Feed) :
    (f.answer deleter).outlook deleter = f.outlook deleter := by
  rw [answer, outlook_handOver]
  simp only [outlook_eq, Consumer.answer_answer]

/-- An object that is accepted is one more to be taken in. -/
theorem outlook_push (deleter : Deleter) (f : Feed) (id : ObjectId) :
    (f.push id).outlook deleter =
      if f.channel.closed then f.outlook deleter else (f.outlook deleter).accept deleter id := by
  rw [push]
  split
  · rfl
  · next hc => simp [outlook_eq, hc]

theorem outlook_close (deleter : Deleter) (f : Feed) :
    f.close.outlook deleter =
      if f.channel.closed then f.outlook deleter else (f.outlook deleter).exhaust deleter := by
  cases hc : f.channel.closed <;> simp [close, outlook_eq, hc]

/-! ## What the owner of the channel lays down -/

/-- What a consumer comes to by the moves of the owner of its channel, if it goes on at once. -/
def fed (deleter : Deleter) : Bool → Consumer → List Move → Consumer
  | _, c, [] => c
  | closed, c, .push id :: moves =>
    fed deleter closed (if closed then c else c.accept deleter id) moves
  | closed, c, .close :: moves => fed deleter true (if closed then c else c.exhaust deleter) moves
  | closed, c, _ :: moves => fed deleter closed c moves

theorem fed_of_hasEnded {c : Consumer} (h : c.hasEnded = true) (closed : Bool)
    (moves : List Move) : fed deleter closed c moves = c := by
  induction moves generalizing closed with
  | nil => cases closed <;> rfl
  | cons m moves ih =>
    cases m <;>
      simp only [fed, Consumer.accept_of_hasEnded h, Consumer.exhaust_of_hasEnded h, ite_self, ih]

/-- Only the moves of the owner count. -/
theorem fed_filter (closed : Bool) (c : Consumer) (moves : List Move) :
    fed deleter closed c (moves.filter Move.isFeeding) = fed deleter closed c moves := by
  induction moves generalizing closed c with
  | nil => rfl
  | cons m moves ih =>
    cases m with
    | push id => rw [List.filter_cons_of_pos rfl, fed, fed, ih]
    | close => rw [List.filter_cons_of_pos rfl, fed, fed, ih]
    | _ =>
      rw [List.filter_cons_of_neg (by decide), ih]
      rfl

/-- Only a consumer that has ended closes the channel itself. -/
theorem closed_handOver (f : Feed) (c : Consumer) :
    (f.handOver c).channel.closed = f.channel.closed ∨
      ((f.handOver c).outlook deleter).hasEnded = true := by
  cases h : c.hasEnded with
  | true =>
    rw [handOver_of_hasEnded h, outlook_of_hasEnded h]
    exact .inr h
  | false =>
    rw [handOver_of_not_hasEnded h]
    exact .inl rfl

theorem closed_consume (f : Feed) : f.consume.channel.closed = f.channel.closed ∨
    (f.consume.outlook deleter).hasEnded = true := by
  rw [consume]
  split
  · split
    · exact closed_handOver _ _
    · split
      · exact closed_handOver _ _
      · exact .inl rfl
  · exact .inl rfl

/-- However the consumer's moves come between, the owner's moves lay down what it comes to. -/
theorem outlook_run (deleter : Deleter) (f : Feed) {moves : List Move}
    (hm : ∀ m ∈ moves, m.isReading = false) :
    (f.run deleter moves).outlook deleter =
      fed deleter f.channel.closed (f.outlook deleter) moves := by
  induction moves generalizing f with
  | nil => cases f.channel.closed <;> rfl
  | cons m moves ih =>
    -- A consumer that ends closes the channel, but then nothing is accepted anyway.
    have hskip {g : Feed} (hout : g.outlook deleter = f.outlook deleter)
        (hclosed : g.channel.closed = f.channel.closed ∨
          (g.outlook deleter).hasEnded = true) :
        fed deleter g.channel.closed (g.outlook deleter) moves =
          fed deleter f.channel.closed (f.outlook deleter) moves := by
      rw [hout] at hclosed ⊢
      rcases hclosed with hclosed | hended
      · rw [hclosed]
      · rw [fed_of_hasEnded hended, fed_of_hasEnded hended]
    rw [run_cons, ih _ fun m' h => hm m' (List.mem_cons_of_mem m h)]
    cases m with
    | push id =>
      have hc : (f.push id).channel.closed = f.channel.closed := by
        rw [push]
        split <;> rfl
      rw [move, outlook_push, hc, fed]
    | close =>
      rw [move, outlook_close, fed]
      rfl
    | consume => exact hskip (outlook_consume deleter f) (closed_consume f)
    | answer => exact hskip (outlook_answer deleter f) (closed_handOver f _)
    | read => exact absurd (hm .read List.mem_cons_self) (by decide)
    | unwatch => exact absurd (hm .unwatch List.mem_cons_self) (by decide)

/-- At rest a consumer is what it comes to. -/
theorem outlook_of_isAtRest (h : f.isAtRest = true) : f.outlook deleter = f.consumer := by
  rcases isAtRest_iff.mp h with h | h
  · obtain ⟨hp, hq, hc⟩ := isParked_iff.mp h
    rw [outlook_eq, hc, if_neg Bool.false_ne_true, hq, List.foldl_nil,
      Consumer.answer_of_isAnswered (Consumer.isAnswered_of_running hp)]
  · exact outlook_of_hasEnded h

/-- At rest, all but what is for the reader of the failures is laid down by the owner's moves. -/
theorem unwatch_of_isAtRest (deleter : Deleter) (f : Feed) {moves : List Move}
    (h : (f.run deleter moves).isAtRest = true) :
    (f.run deleter moves).consumer.unwatch =
      fed deleter f.channel.closed (f.unwatch.outlook deleter) (moves.filter Move.isFeeding) := by
  have hunread : ∀ m ∈ moves.filter (!·.isReading), m.isReading = false := by
    intro m hm
    simpa using (List.mem_filter.mp hm).2
  have hfilter : moves.filter Move.isFeeding =
      (moves.filter (!·.isReading)).filter Move.isFeeding := by
    rw [List.filter_filter]
    refine List.filter_congr fun m _ => ?_
    cases m <;> rfl
  have hrest : (f.run deleter moves).unwatch.isAtRest = true := h
  calc (f.run deleter moves).consumer.unwatch
      = (f.run deleter moves).unwatch.outlook deleter := (outlook_of_isAtRest hrest).symm
    _ = (f.unwatch.run deleter (moves.filter (!·.isReading))).outlook deleter := by
      rw [run_unwatch]
    _ = fed deleter f.channel.closed (f.unwatch.outlook deleter)
          (moves.filter Move.isFeeding) := by
      rw [outlook_run deleter f.unwatch hunread, hfilter, fed_filter]
      rfl

end Feed

end ObjectStore.Removal
