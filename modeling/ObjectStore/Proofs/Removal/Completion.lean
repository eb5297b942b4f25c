import ObjectStore.Proofs.Removal.Conservation

/-!
# The removal of a listing comes to its end

At every moment before its end a removal waits for one side: the producer of the listing, the
consumer, or the deleter. A move of that side leads on, and no other move leads back or makes
the removal wait for another side without leading on. Where each side has its turn again and
again, a removal of a listing that ends therefore comes to its end.
-/

namespace ObjectStore.Removal

/-- How far the consumer is with what it has taken in. -/
def Progress.phase : Progress → Nat
  | .waiting _ false => 0
  | .running => 1
  | .waiting _ true => 2
  | _ => 3

/-- The sides of a removal that it can wait for. -/
inductive Side where
  /-- The producer of the listing. -/
  | producer
  /-- The consumer. -/
  | consumer
  /-- The deleter. -/
  | deleter
  deriving DecidableEq, Repr

/-- The side that moves, if it is one that a removal can wait for. -/
def Pipeline.Move.side? : Pipeline.Move → Option Side
  | .step => some .producer
  | .produce => some .producer
  | .consume => some .consumer
  | .answer => some .deleter
  | _ => none

namespace Pipeline

open Listing

variable {lister : Lister} {deleter : Deleter} {first : PageCall} {p : Pipeline}

/-- The side that a removal waits for. -/
def turn (p : Pipeline) : Side :=
  match p.consumer.progress with
  | .waiting _ _ => .deleter
  | _ => if p.stream.unread.isEmpty && p.stream.producer.isAlive then .producer else .consumer

/-- How many items the consumer has taken in, or has no more use for. -/
def taken (p : Pipeline) : Nat := p.stream.published.length - p.stream.unread.length

/-- How far a removal has come. -/
def progress (p : Pipeline) : Nat :=
  p.stream.progress + 2 * p.taken + p.consumer.progress.phase

theorem Sound.length_unread_le (h : Sound lister first p) :
    p.stream.unread.length ≤ p.stream.published.length := by
  cases h.balanced with
  | collecting taken hc hp =>
    rw [hc.published_eq, List.length_append]
    exact Nat.le_add_left _ _
  | closing ho hr hp =>
    rw [ho.unread_eq]
    exact Nat.zero_le _

/-- Letting go of the stream does not lead back. -/
theorem handOver_progress (p : Pipeline) (c : Consumer) :
    p.stream.progress + 2 * p.taken + c.progress.phase ≤ (p.handOver c).progress := by
  unfold handOver
  cases c.hasEnded with
  | false => exact Nat.le_refl _
  | true =>
    simp only [progress, taken, Stream.progress, Stream.drop, if_true, List.length_nil]
    omega

/-- Each move of a live producer leads on. -/
theorem produce_progress {m : Listing.Move} (hm : m.isProducing = true)
    (ha : p.stream.producer.isAlive = true) :
    p.progress < progress { p with stream := p.stream.move lister m } := by
  have hlt : p.stream.progress < (p.stream.move lister m).progress := by
    have hlead := Stream.move_progress lister m ha
    rwa [if_pos hm] at hlead
  have hsame : taken { p with stream := p.stream.move lister m } = p.taken := by
    obtain ⟨new, hpub, hunread⟩ := p.stream.produce_delivers lister hm
    simp only [taken, hpub, hunread, List.length_append]
    omega
  simp only [progress, hsame]
  omega

/-- A consumer that finds anything leads on. -/
theorem ConsumeCase.progress {q : Pipeline} (hs : ConsumeCase p q)
    (hl : p.stream.unread.length ≤ p.stream.published.length) :
    p.progress < q.progress ∨
      q = p ∧ (p.consumer.progress ≠ .running ∨
        p.stream.unread = [] ∧ p.stream.producer.isAlive = true) := by
  cases hs with
  | busy hp => exact Or.inr ⟨rfl, Or.inl hp⟩
  | wait hp hu ha => exact Or.inr ⟨rfl, Or.inr ⟨hu, ha⟩⟩
  | take item rest hp hu =>
    left
    apply lt_of_lt_of_le _ (handOver_progress _ _)
    rw [hu, List.length_cons] at hl
    simp only [Pipeline.progress, taken, hu, hp, Stream.progress, Progress.phase, List.length_cons]
    omega
  | exhaust hp hu ha =>
    left
    apply lt_of_lt_of_le _ (handOver_progress _ _)
    obtain ⟨_, hclosed⟩ := Consumer.close_of_running hp
    rcases hclosed with hclosed | ⟨batch, hclosed⟩ <;>
    · simp only [Pipeline.progress, hp, hclosed, Progress.phase]
      omega

/-- Each answer leads on. -/
theorem answer_progress (hd : Consumer.Reaches deleter) {batch : List ObjectId} {isLast : Bool}
    (hp : p.consumer.progress = .waiting batch isLast) :
    p.progress < (p.answer deleter).progress := by
  apply lt_of_lt_of_le _ (handOver_progress _ _)
  obtain ⟨_, _, hprogress⟩ := Consumer.answer_of_waiting hd hp
  cases isLast with
  | false =>
    rw [if_neg Bool.false_ne_true] at hprogress
    simp only [progress, hp, hprogress, Progress.phase]
    omega
  | true =>
    rw [if_pos rfl] at hprogress
    simp only [progress, hp, hprogress, Progress.phase]
    omega

/-! ## Whose turn it is -/

theorem turn_of_waiting {batch : List ObjectId} {isLast : Bool}
    (hp : p.consumer.progress = .waiting batch isLast) : p.turn = .deleter := by
  rw [turn, hp]

theorem turn_of_running (hp : p.consumer.progress = .running) :
    p.turn =
      if p.stream.unread.isEmpty && p.stream.producer.isAlive then .producer else .consumer := by
  rw [turn, hp]

/-- A consumer that has not ended takes in objects or waits for an answer. -/
theorem running_or_waiting (h : p.consumer.hasEnded = false) :
    p.consumer.progress = .running ∨
      ∃ batch isLast, p.consumer.progress = .waiting batch isLast := by
  unfold Consumer.hasEnded at h
  cases hp : p.consumer.progress with
  | running => exact Or.inl rfl
  | waiting batch isLast => exact Or.inr ⟨batch, isLast, rfl⟩
  | _ =>
    rw [hp] at h
    cases h

/-- A producer that is done is not waited for. -/
theorem turn_ne_producer (ha : p.stream.producer.isAlive = false) : p.turn ≠ .producer := by
  unfold turn
  rw [ha, Bool.and_false, if_neg Bool.false_ne_true]
  split <;> decide

/-- A move of some side leads on, or the turn is another side's and remains so. -/
def Leads (p q : Pipeline) (side? : Option Side) : Prop :=
  p.progress < q.progress ∨
    q.progress = p.progress ∧ q.turn = p.turn ∧ q.consumer.hasEnded = false ∧
      side? ≠ some p.turn

theorem produce_leads (lister : Lister) {m : Listing.Move} (hm : m.isProducing = true)
    (ho : p.consumer.hasEnded = false) :
    Leads p { p with stream := p.stream.move lister m } (some .producer) := by
  cases ha : p.stream.producer.isAlive with
  | true => exact Or.inl (produce_progress hm ha)
  | false =>
    right
    rw [Stream.move_of_not_isAlive lister hm ha]
    refine ⟨rfl, rfl, ho, ?_⟩
    intro hturn
    exact turn_ne_producer ha (Option.some.inj hturn).symm

theorem Sound.consume_leads (h : Sound lister first p) (ho : p.consumer.hasEnded = false) :
    Leads p p.consume (some .consumer) := by
  rcases p.consumeCase_consume.progress h.length_unread_le with hlt | ⟨hsame, hidle⟩
  · exact Or.inl hlt
  · right
    rw [hsame]
    refine ⟨rfl, rfl, ho, ?_⟩
    rcases running_or_waiting ho with hp | ⟨batch, isLast, hp⟩
    · rcases hidle with hbusy | ⟨hu, ha⟩
      · exact absurd hp hbusy
      · rw [turn_of_running hp, hu, ha]
        decide
    · rw [turn_of_waiting hp]
      decide

theorem answer_leads (hd : Consumer.Reaches deleter) (ho : p.consumer.hasEnded = false) :
    Leads p (p.answer deleter) (some .deleter) := by
  rcases running_or_waiting ho with hp | ⟨batch, isLast, hp⟩
  · right
    have hsame : p.consumer.answer deleter = p.consumer :=
      Consumer.answer_of_isAnswered (Consumer.isAnswered_of_running hp)
    rw [Pipeline.answer, hsame, handOver_of_open (Or.inl hp)]
    refine ⟨rfl, rfl, ho, ?_⟩
    rw [turn_of_running hp]
    cases p.stream.unread.isEmpty && p.stream.producer.isAlive <;> decide
  · exact Or.inl (answer_progress hd hp)

/-- A move leads on, or it leaves the turn to the side that has it. -/
theorem Sound.move_leads (h : Sound lister first p) (hd : Consumer.Reaches deleter)
    (ho : p.consumer.hasEnded = false) (m : Move) :
    Leads p (p.move lister deleter m) m.side? := by
  cases m with
  | step => exact produce_leads (m := .step) lister rfl ho
  | produce => exact produce_leads (m := .advance) lister rfl ho
  | consume => exact h.consume_leads ho
  | answer => exact answer_leads hd ho
  | cancelCaller => exact Or.inr ⟨rfl, rfl, ho, by simp [Move.side?]⟩
  | read =>
    rw [Pipeline.move, Consumer.read_snd]
    exact Or.inr ⟨rfl, rfl, ho, by simp [Move.side?]⟩
  | unwatch => exact Or.inr ⟨rfl, rfl, ho, by simp [Move.side?]⟩

/-! ## The end of a run -/

/-- A run that has ended stays so. -/
theorem hasEnded_move (lister : Lister) (deleter : Deleter) (m : Move)
    (h : p.consumer.hasEnded = true) : (p.move lister deleter m).consumer.hasEnded = true := by
  cases m with
  | consume =>
    rw [move, consume, if_neg (Consumer.not_running_of_hasEnded h)]
    exact h
  | answer =>
    show (p.consumer.answer deleter).hasEnded = true
    rw [Consumer.answer_of_isAnswered (Consumer.isAnswered_of_hasEnded h)]
    exact h
  | read =>
    rw [move, Consumer.read_snd]
    exact h
  | _ => exact h

theorem hasEnded_run (lister : Lister) (deleter : Deleter) (moves : List Move)
    (h : p.consumer.hasEnded = true) : (p.run lister deleter moves).consumer.hasEnded = true := by
  induction moves generalizing p with
  | nil => exact h
  | cons m moves ih => exact ih (hasEnded_move lister deleter m h)

/-- Where a run has not ended, it had not before either. -/
theorem not_hasEnded_of_run {moves : List Move}
    (h : (p.run lister deleter moves).consumer.hasEnded = false) :
    p.consumer.hasEnded = false := by
  cases hp : p.consumer.hasEnded with
  | false => rfl
  | true =>
    rw [hasEnded_run lister deleter moves hp] at h
    cases h

/-- Nothing leads back before the end. -/
theorem Sound.run_progress_le (h : Sound lister first p) (hd : Consumer.Reaches deleter)
    {moves : List Move} (ho : (p.run lister deleter moves).consumer.hasEnded = false) :
    p.progress ≤ (p.run lister deleter moves).progress := by
  induction moves generalizing p with
  | nil => exact Nat.le_refl _
  | cons m moves ih =>
    have hrest := ih (h.move hd m) ho
    rcases h.move_leads hd (not_hasEnded_of_run ho) m with hlt | ⟨heq, _⟩
    · exact (Nat.le_of_lt hlt).trans hrest
    · exact heq ▸ hrest

/-- In a round in which the side that has the turn moves, a run leads on, or it ends. -/
theorem Sound.round_leads (h : Sound lister first p) (hd : Consumer.Reaches deleter)
    {round : List Move} (hturn : ∃ m ∈ round, m.side? = some p.turn)
    (ho : (p.run lister deleter round).consumer.hasEnded = false) :
    p.progress < (p.run lister deleter round).progress := by
  induction round generalizing p with
  | nil =>
    obtain ⟨m, hm, _⟩ := hturn
    cases hm
  | cons m round ih =>
    have hmove := h.move hd m
    rcases h.move_leads hd (not_hasEnded_of_run ho) m with hlt | ⟨heq, hsame, _, hside⟩
    · exact hlt.trans_le (hmove.run_progress_le hd ho)
    · rw [← heq]
      refine ih hmove ?_ ho
      obtain ⟨m', hm', hside'⟩ := hturn
      rcases List.mem_cons.mp hm' with rfl | hm'
      · exact absurd hside' hside
      · exact ⟨m', hm', hsame ▸ hside'⟩

/-- Where each side has its turn in every round, a run comes as far as there are rounds, or ends. -/
theorem Sound.rounds_lead (h : Sound lister first p) (hd : Consumer.Reaches deleter)
    {rounds : List (List Move)}
    (hfair : ∀ round ∈ rounds, ∀ side, ∃ m ∈ round, m.side? = some side)
    (ho : (p.run lister deleter rounds.flatten).consumer.hasEnded = false) :
    p.progress + rounds.length ≤ (p.run lister deleter rounds.flatten).progress := by
  induction rounds generalizing p with
  | nil => exact Nat.le_refl _
  | cons round rounds ih =>
    rw [List.flatten_cons, run_append] at ho ⊢
    have hround := h.round_leads hd (hfair round List.mem_cons_self p.turn) (not_hasEnded_of_run ho)
    have hrest := ih (h.run hd round) (fun r hr => hfair r (List.mem_cons_of_mem round hr)) ho
    rw [List.length_cons]
    omega

/-- A run that has not ended has come no further than its calls and items. -/
theorem progress_le_of_not_hasEnded (ho : p.consumer.hasEnded = false) :
    p.progress ≤ 3 * p.stream.requests.length + 3 * p.stream.published.length + 5 := by
  have hstream := p.stream.producer.phase_le_three
  have hconsumer : p.consumer.progress.phase ≤ 2 := by
    rcases running_or_waiting ho with hp | ⟨batch, isLast, hp⟩ <;> rw [hp]
    · exact Nat.le_succ 1
    · cases isLast <;> simp [Progress.phase]
  have htaken : p.taken ≤ p.stream.published.length := Nat.sub_le _ _
  rw [progress, Stream.progress]
  omega

/-- A run ends where each side has its turn more often than the listing has calls and items. -/
theorem Sound.hasEnded_of_rounds (h : Sound lister first p) (hd : Consumer.Reaches deleter)
    {rounds : List (List Move)} {bound : Nat}
    (hfair : ∀ round ∈ rounds, ∀ side, ∃ m ∈ round, m.side? = some side)
    (hbound : 3 * (p.run lister deleter rounds.flatten).stream.requests.length +
      3 * (p.run lister deleter rounds.flatten).stream.published.length ≤ bound)
    (hlt : bound + 5 < rounds.length) :
    (p.run lister deleter rounds.flatten).consumer.hasEnded = true := by
  cases ho : (p.run lister deleter rounds.flatten).consumer.hasEnded with
  | true => rfl
  | false =>
    have hlead := h.rounds_lead hd hfair ho
    have hle := progress_le_of_not_hasEnded ho
    omega

end Pipeline

end ObjectStore.Removal
