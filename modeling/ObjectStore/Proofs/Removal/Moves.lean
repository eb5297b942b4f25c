import ObjectStore.Proofs.Listing.Cancellation
import ObjectStore.Proofs.Removal.Runs
import ObjectStore.Removal.Pipeline

/-!
# What the moves of a removal do

The consumer takes in one item at a time and waits for one answer at a time. `ConsumeCase`
says what its turn can do. To the listing a pipeline does nothing but what can be done to a
listing on its own, so that what holds of every run of a listing holds in a pipeline.
-/

namespace ObjectStore.Removal

/-! ## The consumer -/

namespace Consumer

variable {deleter : Deleter} {c : Consumer}

/-- The objects that the consumer has taken in, called for or held back. -/
def collected (c : Consumer) : List ObjectId := c.batches.flatten ++ c.held

/-- A deleter that always reaches the store and does not break down. -/
def Reaches (deleter : Deleter) : Prop :=
  ∀ number batch, (∀ detail, deleter number batch ≠ .failed (.transport detail)) ∧
    ∀ words, deleter number batch ≠ .crashed words

theorem take_of_running (hp : c.progress = .running) (id : ObjectId) :
    (c.take id).collected = c.collected ++ [id] ∧
      ((c.take id).progress = .running ∨
        ∃ batch, (c.take id).progress = .waiting batch false) := by
  rw [take, if_pos hp]
  simp only
  split
  · exact ⟨(List.append_assoc ..).symm, Or.inl hp⟩
  · refine ⟨?_, Or.inr ⟨_, rfl⟩⟩
    simp [collected, submit]

theorem close_of_running (hp : c.progress = .running) :
    c.close.batches.flatten = c.collected ∧
      (c.close.progress = .done ∨ ∃ batch, c.close.progress = .waiting batch true) := by
  rw [close, if_pos hp]
  by_cases hh : c.held = []
  · rw [hh, List.isEmpty_nil, if_pos rfl]
    refine ⟨?_, Or.inl rfl⟩
    simp [collected, hh]
  · have he : c.held.isEmpty = false := by rwa [List.isEmpty_eq_false_iff]
    rw [he, if_neg Bool.false_ne_true]
    refine ⟨?_, Or.inr ⟨_, rfl⟩⟩
    simp [collected, submit]

/-- An answer changes neither the calls nor what is held back. -/
theorem answer_of_waiting {batch : List ObjectId} {isLast : Bool}
    (hd : Reaches deleter) (hp : c.progress = .waiting batch isLast) :
    (c.answer deleter).batches = c.batches ∧ (c.answer deleter).held = c.held ∧
      (c.answer deleter).progress = if isLast then .done else .running := by
  obtain ⟨hreach, hstand⟩ := hd (c.batches.length - 1) batch
  have hend : (⟨batch, deleter (c.batches.length - 1) batch⟩ : Attempt).ending? = none := by
    unfold Attempt.ending?
    split
    · rfl
    · next error he =>
      refine if_neg fun ht => ?_
      obtain ⟨detail, rfl⟩ := Error.isTransport_iff.mp ht
      exact hreach detail he
    · next words he => exact absurd he (hstand words)
  rw [answer_eq_of_waiting hp]
  refine ⟨rfl, rfl, ?_⟩
  simp only [hend, Option.getD_none]

end Consumer

/-! ## The pipeline -/

namespace Pipeline

open Listing Listing.Session

variable {lister : Lister} {deleter : Deleter} {first : PageCall} {p : Pipeline}

/-- The ways in which the consumer's turn changes a pipeline. -/
inductive ConsumeCase (p : Pipeline) : Pipeline → Prop where
  /-- The consumer waits for an answer or has ended. -/
  | busy (hp : p.consumer.progress ≠ .running) : ConsumeCase p p
  /-- It takes in an item. -/
  | take (item : Item) (rest : List Item) (hp : p.consumer.progress = .running)
      (hu : p.stream.unread = item :: rest) :
      ConsumeCase p
        (handOver { p with stream := { p.stream with unread := rest } } (accept p.consumer item))
  /-- There is nothing to take in yet. -/
  | wait (hp : p.consumer.progress = .running) (hu : p.stream.unread = [])
      (ha : p.stream.producer.isAlive = true) : ConsumeCase p p
  /-- There is nothing to take in any more. -/
  | exhaust (hp : p.consumer.progress = .running) (hu : p.stream.unread = [])
      (ha : p.stream.producer.isAlive = false) : ConsumeCase p (p.handOver p.consumer.close)

theorem consumeCase_consume (p : Pipeline) : ConsumeCase p p.consume := by
  unfold consume
  split
  · next hp =>
    unfold Stream.read
    cases hu : p.stream.unread with
    | cons item rest => exact .take item rest hp hu
    | nil =>
      cases ha : p.stream.producer.isAlive with
      | true => exact .wait hp hu ha
      | false => exact .exhaust hp hu ha
  · next hp => exact .busy hp

theorem handOver_stream (lister : Lister) (p : Pipeline) (c : Consumer) :
    ∃ moves, (p.handOver c).stream = (p.stream.run lister moves).2 ∧ .cancelCaller ∉ moves := by
  cases h : c.hasEnded with
  | true => exact ⟨[.drop], if_pos h, by decide⟩
  | false => exact ⟨[], if_neg (by rw [h]; exact Bool.false_ne_true), by decide⟩

/-- In a pipeline the listing moves as it does on its own; only its caller cancels its caller. -/
theorem move_stream (lister : Lister) (deleter : Deleter) (p : Pipeline) (m : Move) :
    ∃ moves, (p.move lister deleter m).stream = (p.stream.run lister moves).2 ∧
      (.cancelCaller ∈ moves → m = .cancelCaller) := by
  have hhandOver (q : Pipeline) (c : Consumer) : ∃ moves,
      (q.handOver c).stream = (q.stream.run lister moves).2 ∧
        (.cancelCaller ∈ moves → m = .cancelCaller) := by
    obtain ⟨moves, hs, hn⟩ := handOver_stream lister q c
    exact ⟨moves, hs, fun h => absurd h hn⟩
  cases m with
  | step => exact ⟨[.step], rfl, by decide⟩
  | produce => exact ⟨[.advance], rfl, by decide⟩
  | cancelCaller => exact ⟨[.cancelCaller], rfl, fun _ => rfl⟩
  | read => exact ⟨[], rfl, by decide⟩
  | unwatch => exact ⟨[], rfl, by decide⟩
  | answer => exact hhandOver p _
  | consume =>
    rw [move]
    have hcase := p.consumeCase_consume
    generalize p.consume = q at hcase ⊢
    cases hcase with
    | busy hp => exact ⟨[], rfl, by decide⟩
    | wait hp hu ha => exact ⟨[], rfl, by decide⟩
    | exhaust hp hu ha => exact hhandOver p _
    | take item rest hp hu =>
      obtain ⟨moves, hs, hn⟩ := hhandOver { p with stream := { p.stream with unread := rest } } _
      refine ⟨.read :: moves, hs.trans ?_, ?_⟩
      · rw [Stream.run_cons_snd, Stream.move, Stream.read_snd, hu, List.tail_cons]
      · intro h
        exact hn ((List.mem_cons.mp h).resolve_left (by decide))

theorem run_cons (p : Pipeline) (m : Move) (moves : List Move) :
    p.run lister deleter (m :: moves) = (p.move lister deleter m).run lister deleter moves := rfl

theorem run_append (p : Pipeline) (before after : List Move) :
    p.run lister deleter (before ++ after) =
      (p.run lister deleter before).run lister deleter after :=
  List.foldl_append

theorem run_stream (lister : Lister) (deleter : Deleter) (p : Pipeline) (moves : List Move) :
    ∃ streamMoves, (p.run lister deleter moves).stream = (p.stream.run lister streamMoves).2 ∧
      (.cancelCaller ∈ streamMoves → .cancelCaller ∈ moves) := by
  induction moves generalizing p with
  | nil => exact ⟨[], rfl, by simp⟩
  | cons m moves ih =>
    obtain ⟨head, hhead, hhm⟩ := move_stream lister deleter p m
    obtain ⟨tail, htail, htm⟩ := ih (p.move lister deleter m)
    refine ⟨head ++ tail, ?_, ?_⟩
    · rw [run_cons, htail, hhead, Stream.run_append]
    · intro h
      rcases List.mem_append.mp h with h | h
      · exact List.mem_cons.mpr (Or.inl (hhm h).symm)
      · exact List.mem_cons_of_mem m (htm h)

/-- A cancelled listing stays halted whatever is done in the pipeline. -/
theorem run_halted (lister : Lister) (deleter : Deleter) (hc : p.stream.isCancelled = true)
    (moves : List Move) :
    Stream.Halted lister p.stream (p.run lister deleter moves).stream := by
  obtain ⟨streamMoves, hs, _⟩ := run_stream lister deleter p moves
  rw [hs]
  exact (Stream.halted_self lister hc).run streamMoves

/-- In a pipeline the caller is cancelled by itself alone. -/
theorem callerCancelled_run (lister : Lister) (deleter : Deleter) (p : Pipeline)
    (moves : List Move) :
    (p.run lister deleter moves).stream.callerCancelled = true ↔
      p.stream.callerCancelled = true ∨ .cancelCaller ∈ moves := by
  induction moves generalizing p with
  | nil => simp [run]
  | cons m moves ih =>
    have hmove : (p.move lister deleter m).stream.callerCancelled = true ↔
        p.stream.callerCancelled = true ∨ m = .cancelCaller := by
      obtain ⟨streamMoves, hs, hm⟩ := move_stream lister deleter p m
      have hrun := Stream.callerCancelled_run lister p.stream streamMoves
      rw [← hs] at hrun
      constructor
      · intro h
        exact (hrun.mp h).imp_right hm
      · rintro (h | rfl)
        · exact hrun.mpr (.inl h)
        · rfl
    rw [run_cons, ih, hmove, List.mem_cons, or_assoc, eq_comm (a := m)]

end Pipeline

end ObjectStore.Removal
