import ObjectStore.Proofs.Listing.Ending
import ObjectStore.Proofs.Removal.Completion

/-!
# The end of a removal ends its listing

A consumer that has ended has let go of the stream of the listing, however it came to its end.
A stream that its reader has let go of is cancelled, and nobody can be told of anything: no call
is made for it, and whatever comes of the call that was outstanding is dropped, a failure too.
The caller of the listing is not cancelled by this, since a stream does not cancel its caller.
-/

namespace ObjectStore

/-! ## Streams without a reader -/

namespace Listing.Stream

variable {lister : Lister} {s t : Stream}

/-- A stream that its reader has let go of. -/
structure IsReleased (s : Stream) : Prop where
  /-- The stream is cancelled, and not merely along with its caller. -/
  cancelled : s.cancelled = true
  /-- It has no reader. -/
  held : s.held = false
  /-- There is nothing to be read. -/
  unread_eq : s.unread = []

theorem isReleased_drop (s : Stream) : s.drop.IsReleased := ⟨rfl, rfl, rfl⟩

theorem IsReleased.isCancelled (h : s.IsReleased) : s.isCancelled = true := by
  rw [Stream.isCancelled, h.cancelled, Bool.true_or]

/-- The producer of a stream without a reader publishes nothing. -/
theorem IsReleased.step (h : s.IsReleased) (hs : StepCase lister s t) :
    t.IsReleased ∧ t.published = s.published := by
  obtain ⟨hcancelled, _, hheld⟩ := hs.flags
  have hc : t.cancelled = true := hcancelled.trans h.cancelled
  have hh : t.held = false := hheld.trans h.held
  cases hs with
  | fail call error hp hr hf => exact absurd (hf.symm.trans h.held) (by decide)
  | publish record rest next hp hf hf' => exact absurd (hf'.symm.trans h.held) (by decide)
  | _ => exact ⟨⟨hc, hh, h.unread_eq⟩, rfl⟩

/-- Nothing brings a reader back. -/
theorem IsReleased.run (h : s.IsReleased) (lister : Lister) (moves : List Move) :
    (s.run lister moves).2.IsReleased ∧ (s.run lister moves).2.published = s.published := by
  apply run_keeps_of_step (P := fun t => t.IsReleased ∧ t.published = s.published)
  · rintro t ⟨ht, hpub⟩
    obtain ⟨hnext, hsame⟩ := ht.step (t.stepCase_step lister)
    exact ⟨hnext, hsame.trans hpub⟩
  · rintro t ⟨ht, hpub⟩
    refine ⟨⟨ht.cancelled, ht.held, ?_⟩, hpub⟩
    rw [ht.unread_eq]
    rfl
  · rintro t ⟨ht, hpub⟩
    exact ⟨⟨rfl, ht.held, ht.unread_eq⟩, hpub⟩
  · rintro t ⟨ht, hpub⟩
    exact ⟨⟨ht.cancelled, ht.held, ht.unread_eq⟩, hpub⟩
  · rintro t ⟨_, hpub⟩
    exact ⟨t.isReleased_drop, hpub⟩
  · exact ⟨h, rfl⟩

end Listing.Stream

namespace Removal

/-! ## Consumers at their end -/

/-- A call that does not reach the store, or breaks the deleter down, ends the consumer. -/
theorem Consumer.hasEnded_answer {deleter : Deleter} {c : Consumer} {batch : List ObjectId}
    {isLast : Bool} (hp : c.progress = .waiting batch isLast)
    (hlast : (⟨batch, deleter (c.batches.length - 1) batch⟩ : Attempt).isLast = true) :
    (c.answer deleter).hasEnded = true := by
  rw [Attempt.isLast_eq_isSome_ending?, Option.isSome_iff_exists] at hlast
  obtain ⟨progress, hend⟩ := hlast
  have hprogress : (c.answer deleter).progress = progress := by
    rw [answer_eq_of_waiting hp]
    simp only [hend, Option.getD_some]
  rw [hasEnded, hprogress]
  rcases Attempt.eq_of_ending? hend with ⟨error, rfl⟩ | ⟨words, rfl⟩ <;> rfl

namespace Pipeline

open Listing

variable {lister : Lister} {deleter : Deleter} {p : Pipeline}

/-- A consumer that has ended makes no call, and has ended as it has. -/
theorem consumer_move_of_hasEnded (lister : Lister) (deleter : Deleter)
    (h : p.consumer.hasEnded = true) (m : Move) :
    (p.move lister deleter m).consumer.batches = p.consumer.batches ∧
      (p.move lister deleter m).consumer.verdict? = p.consumer.verdict? := by
  cases m with
  | consume =>
    rw [move, consume, if_neg (Consumer.not_running_of_hasEnded h)]
    exact ⟨rfl, rfl⟩
  | answer =>
    change (p.consumer.answer deleter).batches = _ ∧ (p.consumer.answer deleter).verdict? = _
    rw [Consumer.answer_of_isAnswered (Consumer.isAnswered_of_hasEnded h)]
    exact ⟨rfl, rfl⟩
  | read =>
    rw [move, Consumer.read_snd]
    exact ⟨rfl, rfl⟩
  | _ => exact ⟨rfl, rfl⟩

theorem consumer_run_of_hasEnded (lister : Lister) (deleter : Deleter)
    (h : p.consumer.hasEnded = true) (moves : List Move) :
    (p.run lister deleter moves).consumer.batches = p.consumer.batches ∧
      (p.run lister deleter moves).consumer.verdict? = p.consumer.verdict? := by
  induction moves generalizing p with
  | nil => exact ⟨rfl, rfl⟩
  | cons m moves ih =>
    obtain ⟨hbatches, hverdict⟩ := consumer_move_of_hasEnded lister deleter h m
    obtain ⟨hbatches', hverdict'⟩ := ih (hasEnded_move lister deleter m h)
    exact ⟨hbatches'.trans hbatches, hverdict'.trans hverdict⟩

/-! ## The listing of a consumer at its end -/

/-- A consumer that ends lets go of the stream. -/
theorem isReleased_handOver (p : Pipeline) {c : Consumer} (h : c.hasEnded = true) :
    (p.handOver c).stream.IsReleased := by
  rw [handOver, h]
  exact p.stream.isReleased_drop

/-- A move by which the consumer ends lets go of the stream. -/
theorem isReleased_of_ending (lister : Lister) (deleter : Deleter) (m : Move)
    (hopen : p.consumer.hasEnded = false)
    (h : (p.move lister deleter m).consumer.hasEnded = true) :
    (p.move lister deleter m).stream.IsReleased := by
  cases m with
  | answer => exact p.isReleased_handOver h
  | consume =>
    rw [move] at h ⊢
    have hcase := p.consumeCase_consume
    generalize p.consume = q at hcase h ⊢
    cases hcase with
    | busy hp => exact absurd (hopen.symm.trans h) (by decide)
    | wait hp hu ha => exact absurd (hopen.symm.trans h) (by decide)
    | take item rest hp hu => exact isReleased_handOver _ h
    | exhaust hp hu ha => exact isReleased_handOver _ h
  | read =>
    rw [move, Consumer.read_snd] at h
    exact absurd (hopen.symm.trans h) (by decide)
  | _ => exact absurd (hopen.symm.trans h) (by decide)

/-- At every moment after its end the consumer has let go of the stream. -/
theorem isReleased_of_hasEnded (lister : Lister) (deleter : Deleter) (bucket : String)
    (listing : ListOptions) (removal : RemoveOptions) (moves : List Move)
    (h : ((start bucket listing removal).run lister deleter moves).consumer.hasEnded = true) :
    ((start bucket listing removal).run lister deleter moves).stream.IsReleased := by
  have hkeeps : ∀ (moves : List Move) (p : Pipeline),
      (p.consumer.hasEnded = true → p.stream.IsReleased) →
      (p.run lister deleter moves).consumer.hasEnded = true →
      (p.run lister deleter moves).stream.IsReleased := by
    intro moves
    induction moves with
    | nil => exact fun p hp => hp
    | cons m moves ih =>
      intro p hp
      apply ih (p.move lister deleter m)
      intro hend
      cases hopen : p.consumer.hasEnded with
      | false => exact isReleased_of_ending lister deleter m hopen hend
      | true =>
        obtain ⟨streamMoves, hs, _⟩ := move_stream lister deleter p m
        rw [hs]
        exact ((hp hopen).run lister streamMoves).1
  refine hkeeps moves (start bucket listing removal) ?_ h
  intro hend
  cases hend

/-! ## The end of a cancelled listing -/

/-- Each move of the producer of a cancelled listing takes it to a further phase. -/
theorem move_phase (lister : Lister) (deleter : Deleter) (hc : p.stream.isCancelled = true)
    (m : Move) :
    min 3 (p.stream.producer.phase + if m.side? == some .producer then 1 else 0) ≤
      (p.move lister deleter m).stream.producer.phase := by
  obtain ⟨streamMoves, hs, _⟩ := move_stream lister deleter p m
  have hphase := Stream.run_phase lister streamMoves hc
  rw [← hs] at hphase
  cases m with
  | step => exact Stream.move_phase lister .step hc
  | produce => exact Stream.move_phase lister .advance hc
  | _ =>
    change min 3 (p.stream.producer.phase + 0) ≤ _
    omega

/-- Three moves of its producer bring a cancelled listing to its end. -/
theorem not_isAlive_of_isCancelled (lister : Lister) (deleter : Deleter)
    (hc : p.stream.isCancelled = true) {moves : List Move}
    (hmoves : 3 ≤ moves.countP (·.side? == some .producer)) :
    (p.run lister deleter moves).stream.producer.isAlive = false := by
  have hrun : ∀ (moves : List Move) (p : Pipeline), p.stream.isCancelled = true →
      min 3 (p.stream.producer.phase + moves.countP (·.side? == some .producer)) ≤
        (p.run lister deleter moves).stream.producer.phase := by
    intro moves
    induction moves with
    | nil => exact fun p _ => Nat.min_le_right _ _
    | cons m moves ih =>
      intro p hc
      have hmove := move_phase lister deleter hc m
      have hcancelled : (p.move lister deleter m).stream.isCancelled = true :=
        (run_halted lister deleter hc [m]).isCancelled
      have hrest := ih (p.move lister deleter m) hcancelled
      rw [run_cons, List.countP_cons]
      omega
  have hphase := hrun moves p hc
  exact Stream.not_isAlive_of_phase (by omega)

/--
A removal that reads a listing, from the moment of its end. It ends at once when a call does not
reach the store or the deleter breaks down. However it has ended, the listing is cancelled: no page
is asked for any more, so that its producer waits at most for the answer that it waited for, and
this answer is dropped whatever it is, after which the producer is soon at its end. No call for a
removal is made any more, and the removal has ended as it has. The caller of the listing is not
cancelled by it, but only by the caller.
-/
theorem ended_removal_stops_listing (lister : Lister) (deleter : Deleter) (bucket : String)
    (listing : ListOptions) (removal : RemoveOptions) (before after : List Move) :
    let p := (start bucket listing removal).run lister deleter before
    let last := (start bucket listing removal).run lister deleter (before ++ after)
    (∀ batch isLast, p.consumer.progress = .waiting batch isLast →
      (∃ detail, deleter (p.consumer.batches.length - 1) batch = .failed (.transport detail)) ∨
      (∃ words, deleter (p.consumer.batches.length - 1) batch = .crashed words) →
      (p.move lister deleter .answer).consumer.hasEnded = true) ∧
    (p.consumer.hasEnded = true →
      p.stream.cancelled = true ∧
      last.stream.requests = p.stream.requests ∧
      (last.stream.producer.isFetching = true →
        last.stream.producer = p.stream.producer) ∧
      last.stream.published = p.stream.published ∧ last.stream.unread = [] ∧
      (3 ≤ after.countP (·.side? == some .producer) →
        last.stream.producer.isAlive = false) ∧
      last.consumer.batches = p.consumer.batches ∧
      last.consumer.verdict? = p.consumer.verdict?) ∧
    (last.stream.callerCancelled = true ↔ .cancelCaller ∈ before ++ after) := by
  intro p last
  have hlast : last = p.run lister deleter after := run_append _ before after
  refine ⟨?_, ?_, ?_⟩
  · intro batch isLast hp hanswer
    apply Consumer.hasEnded_answer hp
    rcases hanswer with ⟨detail, hfailed⟩ | ⟨words, hcrashed⟩
    · rw [hfailed]
      rfl
    · rw [hcrashed]
      rfl
  · intro hend
    have hreleased : p.stream.IsReleased :=
      isReleased_of_hasEnded lister deleter bucket listing removal before hend
    have hhalted := run_halted lister deleter hreleased.isCancelled after
    obtain ⟨streamMoves, hs, _⟩ := run_stream lister deleter p after
    obtain ⟨hafter, hpublished⟩ := hreleased.run lister streamMoves
    rw [← hs] at hafter hpublished
    rw [hlast]
    exact ⟨hreleased.cancelled, hhalted.requests_eq, hhalted.producer_eq, hpublished,
      hafter.unread_eq, not_isAlive_of_isCancelled lister deleter hreleased.isCancelled,
      consumer_run_of_hasEnded lister deleter hend after⟩
  · refine (callerCancelled_run lister deleter _ _).trans ?_
    exact or_iff_right Bool.false_ne_true

/-- The store is out of reach while a page is outstanding: the page is dropped, with its token. -/
theorem ended_removal_stops_listing_fetching :
    let lister := Listing.scripted
      [.page { objects := [{ key := "a", size := 1 }, { key := "b", size := 1 },
        { key := "c", size := 1 }], next := some "t" },
        .page { objects := [{ key := "d", size := 1 }], next := some "u" }]
    let deleter := scripted [some (.failed (.transport "connection refused"))] []
    let before : List Move := [.produce, .produce, .consume, .consume, .answer]
    let after : List Move := [.produce, .produce, .produce, .consume, .answer]
    let pipeline := (start "bucket" { keyPrefix := "" } { batchSize := 2 }).run lister deleter
    (pipeline before).consumer.hasEnded = true ∧
    (pipeline before).stream.producer.isFetching = true ∧
    (pipeline (before ++ after)).stream.requests = (pipeline before).stream.requests ∧
    (pipeline (before ++ after)).stream.published = (pipeline before).stream.published ∧
    (pipeline (before ++ after)).stream.producer.isAlive = false ∧
    (pipeline (before ++ after)).consumer.batches = [[{ key := "a" }, { key := "b" }]] ∧
    (pipeline (before ++ after)).stream.callerCancelled ≠ true := by
  intro lister deleter before after pipeline
  have hend : (pipeline before).consumer.hasEnded = true := by decide +kernel
  obtain ⟨_, hended, hcaller⟩ := ended_removal_stops_listing lister deleter "bucket"
    { keyPrefix := "" } { batchSize := 2 } before after
  obtain ⟨_, hrequests, _, hpublished, _, hover, hbatches, _⟩ := hended hend
  refine ⟨hend, by decide +kernel, hrequests, hpublished, hover (by decide), ?_, ?_⟩
  · exact hbatches.trans (by decide +kernel)
  · exact fun h => absurd (hcaller.mp h) (by decide)

end Pipeline

end Removal

end ObjectStore
