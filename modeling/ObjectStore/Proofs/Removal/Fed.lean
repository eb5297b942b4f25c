import ObjectStore.Proofs.Removal.Schedule

/-!
# A fed removal

A consumer that is let run comes to rest: it waits for the owner of its channel, or has ended.
A session lets it run after each move of the owner, so that its runs are among those in which
each side moves when it likes. The main theorem says of all of these what calls are made, and
what they do not depend on.
-/

namespace ObjectStore.Removal

namespace Feed

variable {deleter : Deleter} {size : Nat} {f : Feed}

/-! ## Coming to rest -/

/-- A consumer at rest has no turn to take. -/
theorem Sound.turn_of_isAtRest (hs : Sound size f) (h : f.isAtRest = true) :
    f.consume.answer deleter = f := by
  have hconsume : f.consume = f := by
    rcases isAtRest_iff.mp h with h | h
    · obtain ⟨hp, hq, hc⟩ := isParked_iff.mp h
      simp [Feed.consume, hp, hq, hc]
    · rw [Feed.consume, if_neg (Consumer.not_running_of_hasEnded h)]
  rw [hconsume, hs.answer_of_isAnswered (isAnswered_of_isAtRest h)]

theorem run_turns_succ (f : Feed) (rounds : Nat) :
    f.run deleter (turns (rounds + 1)) = (f.consume.answer deleter).run deleter (turns rounds) := by
  rw [turns, List.replicate_succ, List.flatten_cons, run_append]
  rfl

theorem Sound.run_turns_of_isAtRest (hs : Sound size f) (h : f.isAtRest = true) (rounds : Nat) :
    f.run deleter (turns rounds) = f := by
  induction rounds with
  | zero => rfl
  | succ rounds ih => rw [run_turns_succ, hs.turn_of_isAtRest h, ih]

@[simp] theorem consumer_handOver (f : Feed) (c : Consumer) : (f.handOver c).consumer = c := by
  rw [handOver]
  split <;> rfl

/-- Handing over leaves no more in the channel than was there. -/
theorem length_queue_handOver_le (f : Feed) (c : Consumer) :
    (f.handOver c).channel.queue.length ≤ f.channel.queue.length := by
  rw [handOver]
  split
  · exact Nat.zero_le _
  · exact Nat.le_refl _

theorem isAnswered_answer (deleter : Deleter) (f : Feed) :
    (f.answer deleter).consumer.IsAnswered := by
  rw [answer, consumer_handOver]
  exact f.consumer.isAnswered_answer deleter

/-- A consumer that is not at rest takes in an object, or comes to rest. -/
theorem Sound.turn (deleter : Deleter) (hs : Sound size f) (hf : f.consumer.IsAnswered) :
    (f.consume.answer deleter).isAtRest = true ∨
      (f.consume.answer deleter).channel.queue.length < f.channel.queue.length := by
  cases hrest : f.isAtRest with
  | true =>
    rw [hs.turn_of_isAtRest hrest]
    exact .inl hrest
  | false =>
    rw [isAtRest, Bool.or_eq_false_iff] at hrest
    have hp : f.consumer.progress = .running :=
      (Consumer.running_or_hasEnded hf).resolve_right (by simp [hrest.2])
    rw [Feed.consume, if_pos hp]
    cases hq : f.channel.queue with
    | cons id rest =>
      right
      refine Nat.lt_succ_of_le ((length_queue_handOver_le _ _).trans ?_)
      exact length_queue_handOver_le _ _
    | nil =>
      left
      have hc : f.channel.closed = true := by
        simpa [isParked, hp, hq] using hrest.1
      have hended : (f.consumer.exhaust deleter).hasEnded = true := Consumer.hasEnded_exhaust hf
      simp only [if_pos hc]
      rw [isAtRest, Feed.answer, consumer_handOver, consumer_handOver, ← Consumer.exhaust, hended,
        Bool.or_true]

/-- A consumer that is answered is at rest once it has had a turn for each object, and one more. -/
theorem Sound.isAtRest_run_turns {rounds : Nat} (hs : Sound size f) (hf : f.consumer.IsAnswered)
    (hr : f.channel.queue.length < rounds) : (f.run deleter (turns rounds)).isAtRest = true := by
  induction rounds generalizing f with
  | zero => exact absurd hr (Nat.not_lt_zero _)
  | succ rounds ih =>
    have hnext : Sound size (f.consume.answer deleter) := hs.consume.answer
    rw [run_turns_succ]
    rcases hs.turn deleter hf with hrest | hlt
    · rw [hnext.run_turns_of_isAtRest hrest]
      exact hrest
    · exact ih hnext (isAnswered_answer deleter _) (hlt.trans_le (Nat.le_of_lt_succ hr))

theorem length_queue_consume_le (f : Feed) :
    f.consume.channel.queue.length ≤ f.channel.queue.length := by
  have hcase := f.consumeCase_consume
  generalize f.consume = g at hcase ⊢
  cases hcase with
  | idle => exact Nat.le_refl _
  | hold id rest hp hq =>
    rw [hq]
    exact Nat.le_succ _
  | fill id rest hp hq =>
    rw [hq]
    exact Nat.le_succ _
  | flush => exact Nat.le_refl _
  | finish => exact Nat.zero_le _

/-- A consumer that is let run comes to rest. -/
theorem Sound.isAtRest_run_turns_of_le {rounds : Nat} (hs : Sound size f)
    (hr : f.channel.queue.length + 2 ≤ rounds) :
    (f.run deleter (turns rounds)).isAtRest = true := by
  obtain ⟨more, rfl⟩ := Nat.exists_eq_add_of_le' hr
  have hqueue : (f.consume.answer deleter).channel.queue.length ≤ f.channel.queue.length :=
    (length_queue_handOver_le _ _).trans (length_queue_consume_le f)
  -- The first turn may bring no more than the answer that the consumer waits for.
  rw [← Nat.add_assoc, run_turns_succ]
  refine hs.consume.answer.isAtRest_run_turns (isAnswered_answer deleter _) ?_
  omega

/-! ## Sessions -/

/-- A run of a channel, as a session keeps it. -/
def session (deleter : Deleter) (f : Feed) : Session :=
  { source := .channel f.channel, deleter, consumer := f.consumer }

/-- A channel that is closed stays closed. -/
theorem closed_of_closed {m : Move} (h : f.channel.closed = true) :
    (f.move deleter m).channel.closed = true := by
  have hhandOver (g : Feed) (c : Consumer) (hg : g.channel.closed = true) :
      (g.handOver c).channel.closed = true := by
    rw [handOver]
    split
    · rfl
    · exact hg
  cases m with
  | push id => rwa [move, push, if_pos h]
  | close => rfl
  | answer => exact hhandOver _ _ h
  | read => exact h
  | unwatch => exact h
  | consume =>
    rw [move, consume]
    split
    · split
      all_goals exact hhandOver _ _ h
    · exact h

theorem closed_run {moves : List Move} (h : f.channel.closed = true) :
    (f.run deleter moves).channel.closed = true := by
  induction moves generalizing f with
  | nil => exact h
  | cons m moves ih => exact ih (closed_of_closed h)

theorem isReading_of_mem_turns {rounds : Nat} {m : Move} (h : m ∈ turns rounds) :
    m.isReading = false ∧ m.isFeeding = false := by
  obtain ⟨l, hl, hm⟩ := List.mem_flatten.mp h
  rw [List.eq_of_mem_replicate hl] at hm
  simp only [List.mem_cons, List.not_mem_nil, or_false] at hm
  rcases hm with rfl | rfl <;> exact ⟨rfl, rfl⟩

/-- Turns of the consumer do not change what it comes to. -/
theorem outlook_run_turns (f : Feed) (rounds : Nat) :
    (f.run deleter (turns rounds)).outlook deleter = f.outlook deleter := by
  have hnone : (turns rounds).filter Move.isFeeding = [] :=
    List.filter_eq_nil_iff.mpr fun m hm => by simp [(isReading_of_mem_turns hm).2]
  rw [outlook_run deleter f fun m hm => (isReading_of_mem_turns hm).1, ← fed_filter, hnone]
  cases f.channel.closed <;> rfl

/-- At rest nothing is in the channel, which the owner has closed, or the consumer at its end. -/
theorem Sound.channel_of_isAtRest (hs : Sound size f) (h : f.isAtRest = true) :
    f.channel = { queue := [], closed := f.channel.closed || f.consumer.hasEnded } ∧
      (f.channel.closed = true → f.consumer.hasEnded = true) := by
  rcases isAtRest_iff.mp h with h | h
  · obtain ⟨hp, hq, hc⟩ := isParked_iff.mp h
    have hgoing : f.consumer.hasEnded = false := by rw [Consumer.hasEnded, hp]
    rw [hgoing, Bool.or_false, ← hq]
    exact ⟨rfl, fun hclosed => absurd (hclosed.symm.trans hc) (by decide)⟩
  · rw [h, Bool.or_true]
    exact ⟨hs.released h, fun _ => rfl⟩

/-- To let everything run that can run is to let the consumer take its turns. -/
theorem Sound.settle_session {rounds : Nat} (hs : Sound size f) (hf : f.consumer.IsAnswered)
    (hr : f.channel.queue.length + 2 ≤ rounds) :
    (f.session deleter).settle = (f.run deleter (turns rounds)).session deleter := by
  have hrest : (f.run deleter (turns rounds)).isAtRest = true := hs.isAtRest_run_turns_of_le hr
  have hconsumer : (Session.drainChannel deleter f.channel f.consumer).2 =
      (f.run deleter (turns rounds)).consumer := by
    rw [← outlook_of_isAtRest hrest, outlook_run_turns, outlook, Consumer.answer_of_isAnswered hf]
  have hchannel : (Session.drainChannel deleter f.channel f.consumer).1 =
      (f.run deleter (turns rounds)).channel := by
    obtain ⟨hempty, hended⟩ := (hs.run (turns rounds)).channel_of_isAtRest hrest
    have hfirst : (Session.drainChannel deleter f.channel f.consumer).1 =
        { queue := [], closed := f.channel.closed ||
            (Session.drainChannel deleter f.channel f.consumer).2.hasEnded } := rfl
    rw [hfirst, hempty, hconsumer]
    refine congrArg (Channel.mk []) ?_
    cases hc : f.channel.closed with
    | true => rw [closed_run hc, Bool.true_or]
    | false =>
      cases hg : (f.run deleter (turns rounds)).channel.closed with
      | false => rfl
      | true => rw [hended hg, Bool.or_true, Bool.or_true]
  change ({
    source := .channel (Session.drainChannel deleter f.channel f.consumer).1
    deleter
    consumer := (Session.drainChannel deleter f.channel f.consumer).2 } : Session) = _
  rw [hchannel, hconsumer, session]

/-- A session begins as a feed that is let run. -/
theorem session_start (deleter : Deleter) (options : RemoveOptions) {rounds : Nat}
    (hr : 2 ≤ rounds) :
    Session.start (.channel {}) deleter options =
      ((start options).run deleter (turns rounds)).session deleter :=
  (sound_start options).settle_session (Consumer.isAnswered_of_running rfl) hr

theorem run_push (f : Feed) (ids : List ObjectId) :
    f.run deleter (ids.map .push) =
      if f.channel.closed then f
      else { f with
        channel := { f.channel with queue := f.channel.queue ++ ids }
        accepted := f.accepted ++ ids } := by
  induction ids generalizing f with
  | nil => simp [run]
  | cons id ids ih =>
    rw [List.map_cons, run_cons, ih, move, push]
    cases hc : f.channel.closed <;> simp [hc]

/-- To send objects is to push each of them, and then to let the consumer run. -/
theorem Sound.session_push (hs : Sound size f) (h : f.isAtRest = true) (ids : List ObjectId)
    {rounds : Nat} (hr : ids.length + 2 ≤ rounds) :
    ((f.session deleter).push ids).2 =
      (f.run deleter (ids.map .push ++ turns rounds)).session deleter := by
  rw [run_append]
  cases hc : f.channel.closed with
  | true =>
    rw [run_push, if_pos hc, hs.run_turns_of_isAtRest h]
    simp [session, Session.push, hc]
  | false =>
    have hpushed : Sound size (f.run deleter (ids.map .push)) := hs.run _
    have hqueue : f.channel.queue = [] := by rw [(hs.channel_of_isAtRest h).1]
    rw [run_push, hc, if_neg Bool.false_ne_true] at hpushed ⊢
    have hanswered := isAnswered_of_isAtRest h
    rw [← hpushed.settle_session hanswered (by rwa [hqueue, List.nil_append])]
    simp [session, Session.push, hc]

/-- To close the input is to close the channel, and then to let the consumer run. -/
theorem Sound.session_closeInput (hs : Sound size f) (h : f.isAtRest = true) {rounds : Nat}
    (hr : 2 ≤ rounds) :
    (f.session deleter).closeInput =
      (f.run deleter (.close :: turns rounds)).session deleter := by
  have hempty : f.close.channel.queue = [] := by
    rw [Feed.close, (hs.channel_of_isAtRest h).1]
  have hanswered : f.close.consumer.IsAnswered := isAnswered_of_isAtRest (f := f) h
  exact hs.close.settle_session hanswered (by rwa [hempty])

/-! ## Any interleaving -/

/-- The answer that shows the store to be out of reach is the last thing a feed takes note of. -/
theorem Sound.run_answer_of_transport (hs : Sound size f) {batch : List ObjectId}
    {isLast : Bool} {detail : String} (hp : f.consumer.progress = .waiting batch isLast)
    (hanswer : deleter (f.consumer.batches.length - 1) batch = .failed (.transport detail))
    (more : List Move) :
    (f.run deleter (.answer :: more)).consumer.batches = f.consumer.batches ∧
      (f.run deleter (.answer :: more)).accepted = f.accepted ∧
      (f.run deleter (.answer :: more)).consumer.verdict? =
        some (.error (.transport detail)) := by
  have hend : (⟨batch, deleter (f.consumer.batches.length - 1) batch⟩ : Attempt).ending? =
      some (.stopped (.transport detail)) := by
    rw [hanswer]
    rfl
  have hconsumer : (f.answer deleter).consumer = f.consumer.answer deleter := consumer_handOver _ _
  have hbatches : (f.answer deleter).consumer.batches = f.consumer.batches := by
    rw [hconsumer, Consumer.answer_eq_of_waiting hp]
  have hprogress : (f.answer deleter).consumer.progress = .stopped (.transport detail) := by
    rw [hconsumer, Consumer.answer_eq_of_waiting hp]
    simp only [hend, Option.getD_some]
  have haccepted : (f.answer deleter).accepted = f.accepted := by
    rw [Feed.answer, Feed.handOver]
    split <;> rfl
  have hended : (f.answer deleter).consumer.hasEnded = true := by
    rw [Consumer.hasEnded, hprogress]
  have hfrozen : (f.run deleter (.answer :: more)).unwatch = (f.answer deleter).unwatch :=
    hs.answer.run_of_hasEnded hended more
  refine ⟨?_, ?_, ?_⟩
  · exact (congrArg (·.consumer.batches) hfrozen).trans hbatches
  · exact (congrArg (·.accepted) hfrozen).trans haccepted
  · refine (congrArg (·.consumer.verdict?) hfrozen).trans ?_
    change (f.answer deleter).consumer.verdict? = _
    rw [Consumer.verdict?, hprogress]

/--
A fed removal, whatever the order in which its owner, its consumer and its reader move. It holds
back less than a batch, and makes no call for nothing. Where the consumer waits for the owner or
is done, its calls are those for the full batches of what was accepted, and, once the channel is
closed, for the rest if there is any. After a call that did not reach the store no call is made
and nothing is accepted. The moves of the reader make no difference, and the moments at which the
consumer moves make none once it is at rest, to which it comes if it is let run.
-/
theorem fed_removal (deleter : Deleter) (options : RemoveOptions) (moves : List Move) :
    let size := max 1 (min options.batchSize 1000)
    let f := (start options).run deleter moves
    let full := f.accepted.length / size * size
    (f.consumer.held.length < size ∧
      ∀ batch ∈ f.consumer.batches, batch ≠ [] ∧ batch.length ≤ size) ∧
    (f.isParked = true ∨ f.consumer.progress = .done →
      (∀ batch ∈ pieces size (f.accepted.take full), batch.length = size) ∧
      f.consumer.batches = pieces size (f.accepted.take full) ++
        if f.channel.closed = true ∧ f.accepted.length % size ≠ 0 then [f.accepted.drop full]
        else []) ∧
    (∀ batch isLast detail, f.consumer.progress = .waiting batch isLast →
      deleter (f.consumer.batches.length - 1) batch = .failed (.transport detail) →
      ∀ more, (f.run deleter (.answer :: more)).consumer.batches = f.consumer.batches ∧
        (f.run deleter (.answer :: more)).accepted = f.accepted ∧
        (f.run deleter (.answer :: more)).consumer.verdict? =
          some (.error (.transport detail))) ∧
    (∀ others, others.filter (!·.isReading) = moves.filter (!·.isReading) →
      let g := (start options).run deleter others
      g.consumer.batches = f.consumer.batches ∧ g.accepted = f.accepted ∧
        g.consumer.verdict? = f.consumer.verdict?) ∧
    (∀ others, others.filter Move.isFeeding = moves.filter Move.isFeeding →
      let g := (start options).run deleter others
      f.isAtRest = true → g.isAtRest = true →
      g.consumer.batches = f.consumer.batches ∧ g.consumer.verdict? = f.consumer.verdict?) ∧
    (∀ rounds, f.channel.queue.length + 2 ≤ rounds →
      (f.run deleter (turns rounds)).isAtRest = true) := by
  intro size f full
  have hs : Sound size f := (sound_start options).run moves
  refine ⟨⟨hs.length_held_lt, hs.batches_mem⟩, hs.batches_eq, ?_, ?_, ?_, ?_⟩
  · intro batch isLast detail hp hanswer more
    exact hs.run_answer_of_transport hp hanswer more
  · intro others hsame g
    have hreader : g.unwatch = f.unwatch := by
      rw [run_unwatch, run_unwatch, hsame]
    exact ⟨congrArg (·.consumer.batches) hreader, congrArg (·.accepted) hreader,
      congrArg (·.consumer.verdict?) hreader⟩
  · intro others hsame g hf hg
    have hschedule : g.consumer.unwatch = f.consumer.unwatch := by
      rw [unwatch_of_isAtRest deleter _ hf, unwatch_of_isAtRest deleter _ hg, hsame]
    exact ⟨congrArg (·.batches) hschedule, congrArg (·.verdict?) hschedule⟩
  · intro rounds hr
    exact hs.isAtRest_run_turns_of_le hr

/-- Two batches and a rest, whoever looks at the failures and whenever the consumer moves. -/
theorem fed_removal_closed :
    let deleter := scripted [none, some (.failed (.operation "denied"))] [("b", "locked")]
    let options : RemoveOptions := { batchSize := 2 }
    let pushes : List Move := ["a", "b", "c", "d", "e"].map fun key => .push { key }
    let moves : List Move := pushes ++ .consume :: .read :: .close :: .unwatch :: turns 8
    let others : List Move := .consume :: pushes ++ .close :: turns 8
    let consumer := fun moves => ((start options).run deleter moves).consumer
    (consumer moves).batches = [["a", "b"], ["c", "d"], ["e"]].map (·.map fun key => { key }) ∧
      (consumer others).batches = (consumer moves).batches ∧
      (consumer others).verdict? = (consumer moves).verdict? := by
  intro deleter options pushes moves others consumer
  have hrest : ((start options).run deleter moves).isAtRest = true := by decide +kernel
  have hrest' : ((start options).run deleter others).isAtRest = true := by decide +kernel
  obtain ⟨-, -, -, -, hschedule, -⟩ := fed_removal deleter options moves
  have hsame := hschedule others (by decide +kernel) hrest hrest'
  exact ⟨by decide +kernel, hsame⟩

end Feed

end ObjectStore.Removal
