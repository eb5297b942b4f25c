import ObjectStore.Listing.Session
import ObjectStore.Proofs.Listing.Progress
import ObjectStore.Proofs.Removal.Moves

/-!
# A listing's removal loses nothing

Of each object that the consumer has taken in, either a call was made for it or it is held
back. What it has taken in and what it can still take in are together what the listing has
published. At the end nothing is held back and nothing is left to take in.
-/

namespace ObjectStore.Listing.Session

/-! ## The objects of a listing -/

theorem entries_append (taken : List ObjectEntry) (items : List Item) :
    entries (taken.map .ok ++ items) = taken ++ entries items := by
  induction taken with
  | nil => rfl
  | cons entry taken ih =>
    rw [List.map_cons, List.cons_append, entries, ih, List.cons_append]

/-- An error at the end adds no object. -/
theorem entries_append_error (items : List Item) (error : Error) :
    entries (items ++ [.error error]) = entries items := by
  induction items with
  | nil => rfl
  | cons item items ih =>
    cases item with
    | ok entry => rw [List.cons_append, entries, ih, entries]
    | error other => rfl

theorem entries_map (taken : List ObjectEntry) : entries (taken.map .ok) = taken := by
  have h := entries_append taken []
  rw [List.append_nil] at h
  exact h.trans (List.append_nil taken)

theorem removable_append (taken : List ObjectEntry) (items : List Item) :
    removable (taken.map .ok ++ items) = removable (taken.map .ok) ++ removable items := by
  simp only [removable, entries_append, entries_map, List.filter_append, List.map_append]

theorem removable_append_error (items : List Item) (error : Error) :
    removable (items ++ [.error error]) = removable items := by
  rw [removable, entries_append_error, removable]

/-- A common beginning of keys is no object to be removed, anything else is. -/
theorem removable_snoc (taken : List ObjectEntry) (entry : ObjectEntry) :
    removable ((taken ++ [entry]).map .ok) =
      removable (taken.map .ok) ++ if entry.isCommonPrefix then [] else [entry.id] := by
  rw [List.map_append, removable_append]
  cases h : entry.isCommonPrefix <;> simp [removable, entries, h]

end ObjectStore.Listing.Session

namespace ObjectStore.Removal.Pipeline

open Listing Listing.Session

variable {lister : Lister} {deleter : Deleter} {first : PageCall} {p : Pipeline}

/-- The listing while the consumer still takes in objects. -/
structure Collects (p : Pipeline) (taken : List ObjectEntry) : Prop where
  /-- The consumer keeps the stream. -/
  held : p.stream.held = true
  /-- Only the caller can have cancelled it. -/
  cancelled : p.stream.cancelled = false
  /-- What is published was taken in or is unread. -/
  published_eq : p.stream.published = taken.map .ok ++ p.stream.unread
  /-- Every object taken in was called for or is held back. -/
  collected_eq : p.consumer.collected = removable (taken.map .ok)

/-- A listing that is at its end, with nothing left to take in. -/
structure Over (lister : Lister) (first : PageCall) (s : Stream) : Prop where
  /-- The producer is done. -/
  not_isAlive : s.producer.isAlive = false
  /-- Nothing is unread. -/
  unread_eq : s.unread = []
  /-- Only its caller can have cut the listing short. -/
  complete : s.callerCancelled = false →
    lister.EndsWithin first s.requests.length ∧ s.published = lister.items first s.requests.length

/-- What the consumer has removed, and how it stands to the listing. -/
inductive Balanced (lister : Lister) (first : PageCall) (p : Pipeline) : Prop where
  /-- More objects may come. -/
  | collecting (taken : List ObjectEntry) (h : p.Collects taken)
      (hp : p.consumer.progress = .running ∨
        ∃ batch, p.consumer.progress = .waiting batch false)
  /-- The last call is made, or all is done. -/
  | closing (h : Over lister first p.stream)
      (hr : p.consumer.batches.flatten = removable p.stream.published)
      (hp : p.consumer.progress = .done ∨ ∃ batch, p.consumer.progress = .waiting batch true)

/-- A pipeline whose listing keeps to its sequence and whose consumer loses nothing. -/
structure Sound (lister : Lister) (first : PageCall) (p : Pipeline) : Prop where
  /-- The listing keeps to its sequence. -/
  follows : Stream.Follows lister first p.stream
  /-- Nothing is published after an error. -/
  orderly : p.stream.Orderly
  /-- The consumer loses nothing. -/
  balanced : Balanced lister first p

theorem sound_start (lister : Lister) (bucket : String) (listing : ListOptions)
    (removal : RemoveOptions) :
    Sound lister { bucket, options := listing } (.start bucket listing removal) where
  follows := Stream.follows_start lister bucket listing false
  orderly := Stream.orderly_start bucket listing false
  balanced := .collecting [] ⟨rfl, rfl, rfl, rfl⟩ (Or.inl rfl)

/-! ## What each move keeps -/

/-- What the producer publishes for a consumer that takes in objects can be taken in. -/
theorem Balanced.produce {m : Listing.Move} (h : Balanced lister first p)
    (hm : m.isProducing = true) :
    Balanced lister first { p with stream := p.stream.move lister m } := by
  cases h with
  | collecting taken hc hp =>
    obtain ⟨hcancelled, _, hheld⟩ := p.stream.move_flags lister hm
    obtain ⟨new, hpub, hunread⟩ := p.stream.produce_delivers lister hm
    refine .collecting taken ⟨hheld.trans hc.held, hcancelled.trans hc.cancelled, ?_, ?_⟩ hp
    · rw [hpub, hunread, hc.published_eq, List.append_assoc]
    · exact hc.collected_eq
  | closing ho hr hp =>
    rw [Stream.move_of_not_isAlive lister hm ho.not_isAlive]
    exact .closing ho hr hp

theorem Balanced.cancelCaller (h : Balanced lister first p) :
    Balanced lister first { p with stream := p.stream.cancelCaller } := by
  cases h with
  | collecting taken hc hp =>
    exact .collecting taken ⟨hc.held, hc.cancelled, hc.published_eq, hc.collected_eq⟩ hp
  | closing ho hr hp =>
    refine .closing ⟨ho.not_isAlive, ho.unread_eq, ?_⟩ hr hp
    intro hcaller
    cases hcaller

/-- Only the progress of the consumer, its calls and what it holds back matter. -/
theorem Balanced.congr {c : Consumer} (h : Balanced lister first p)
    (hb : c.batches = p.consumer.batches) (hh : c.held = p.consumer.held)
    (hp : c.progress = p.consumer.progress) :
    Balanced lister first { p with consumer := c } := by
  cases h with
  | collecting taken hc hopen =>
    refine .collecting taken ⟨hc.held, hc.cancelled, hc.published_eq, ?_⟩ (by rwa [hp])
    rw [← hc.collected_eq, Consumer.collected, hb, hh, Consumer.collected]
  | closing ho hr hclosed =>
    refine .closing ho ?_ (by rwa [hp])
    rw [← hr, hb]

/-! ## The end -/

/-- A consumer that still takes in objects keeps the stream. -/
theorem handOver_of_open {c : Consumer}
    (hp : c.progress = .running ∨ ∃ batch, c.progress = .waiting batch false) :
    p.handOver c = { p with consumer := c } := by
  have hend : c.hasEnded = false := by
    rcases hp with hp | ⟨batch, hp⟩ <;> rw [Consumer.hasEnded, hp]
  rw [handOver, hend]
  rfl

/-- A consumer that has made its last call may let go of a listing that is over. -/
theorem Balanced.handOver {c : Consumer} (ho : Over lister first p.stream)
    (hr : c.batches.flatten = removable p.stream.published)
    (hp : c.progress = .done ∨ ∃ batch, c.progress = .waiting batch true) :
    Balanced lister first (p.handOver c) := by
  cases hend : c.hasEnded with
  | true =>
    rw [Pipeline.handOver, hend, if_pos rfl]
    exact .closing ⟨ho.not_isAlive, rfl, ho.complete⟩ hr hp
  | false =>
    rw [Pipeline.handOver, hend, if_neg Bool.false_ne_true]
    exact .closing ho hr hp

/-- A listing that only its caller can have cancelled is cut short by its caller or not at all. -/
theorem Collects.over {taken : List ObjectEntry} (h : p.Collects taken)
    (hf : Stream.Follows lister first p.stream) (ha : p.stream.producer.isAlive = false) :
    Over lister first { p.stream with unread := [] } where
  not_isAlive := ha
  unread_eq := rfl
  complete hcaller := by
    have hc : p.stream.isCancelled = false := by
      rw [Stream.isCancelled, h.cancelled, Bool.false_or]
      exact hcaller
    exact hf.complete ha hc

/-- The consumer closes when it has taken in the whole listing. -/
theorem Collects.close {taken : List ObjectEntry} (h : p.Collects taken)
    (hf : Stream.Follows lister first p.stream) (ha : p.stream.producer.isAlive = false)
    (hp : p.consumer.progress = .running)
    (hr : removable (taken.map .ok) = removable p.stream.published) :
    Balanced lister first
      (handOver { p with stream := { p.stream with unread := [] } } p.consumer.close) := by
  obtain ⟨hbatches, hclosed⟩ := Consumer.close_of_running hp
  exact .handOver (h.over hf ha) (hbatches.trans (h.collected_eq.trans hr)) hclosed

/-- An object that is taken in is called for or held back; a common beginning is passed over. -/
theorem Collects.take {taken : List ObjectEntry} (h : p.Collects taken) {entry : ObjectEntry}
    {rest : List Item} (hp : p.consumer.progress = .running)
    (hu : p.stream.unread = .ok entry :: rest) :
    Balanced lister first (handOver { p with stream := { p.stream with unread := rest } }
      (accept p.consumer (.ok entry))) := by
  have hpub : p.stream.published = (taken ++ [entry]).map .ok ++ rest := by
    rw [h.published_eq, hu, List.map_append, List.append_assoc]
    rfl
  cases hcommon : entry.isCommonPrefix with
  | true =>
    have haccept : accept p.consumer (.ok entry) = p.consumer := if_pos hcommon
    rw [haccept, handOver_of_open (Or.inl hp)]
    refine .collecting (taken ++ [entry]) ⟨h.held, h.cancelled, hpub, ?_⟩ (Or.inl hp)
    rw [removable_snoc, hcommon, if_pos rfl, List.append_nil]
    exact h.collected_eq
  | false =>
    have haccept : accept p.consumer (.ok entry) = p.consumer.take entry.id :=
      if_neg (by rw [hcommon]; exact Bool.false_ne_true)
    obtain ⟨hcollected, hopen⟩ := Consumer.take_of_running hp entry.id
    rw [haccept, handOver_of_open hopen]
    refine .collecting (taken ++ [entry]) ⟨h.held, h.cancelled, hpub, ?_⟩ hopen
    rw [removable_snoc, hcommon, if_neg Bool.false_ne_true, ← h.collected_eq]
    exact hcollected

/-- Whatever the consumer finds, nothing is lost. -/
theorem Sound.consume (h : Sound lister first p) : Balanced lister first p.consume := by
  have hb := h.balanced
  have hcase := p.consumeCase_consume
  generalize p.consume = q at hcase ⊢
  -- Only a consumer that takes in objects can be running.
  have hrunning (hp : p.consumer.progress = .running) : ∃ taken, p.Collects taken := by
    cases hb with
    | collecting taken hc => exact ⟨taken, hc⟩
    | closing ho hr hclosed =>
      rw [hp] at hclosed
      rcases hclosed with hclosed | ⟨batch, hclosed⟩ <;> cases hclosed
  cases hcase with
  | busy hp => exact hb
  | wait hp hu ha => exact hb
  | exhaust hp hu ha =>
    obtain ⟨taken, hc⟩ := hrunning hp
    have hclose := hc.close h.follows ha hp (by rw [hc.published_eq, hu, List.append_nil])
    rwa [← hu] at hclose
  | take item rest hp hu =>
    obtain ⟨taken, hc⟩ := hrunning hp
    cases item with
    | ok entry => exact hc.take hp hu
    | error error =>
      have hpub := hc.published_eq
      rw [hu] at hpub
      obtain ⟨hnil, ha⟩ := h.orderly.eq_nil_of_error hpub
      rw [hnil] at hpub ⊢
      exact hc.close h.follows ha hp (by rw [hpub, removable_append_error])

/-- An answer to the last call ends the run, to any other one it lets the run go on. -/
theorem Balanced.answer (h : Balanced lister first p) (hd : Consumer.Reaches deleter) :
    Balanced lister first (p.answer deleter) := by
  rw [Pipeline.answer]
  cases h with
  | collecting taken hc hp =>
    rcases hp with hp | ⟨batch, hp⟩
    · have hsame : p.consumer.answer deleter = p.consumer :=
        Consumer.answer_of_isAnswered (Consumer.isAnswered_of_running hp)
      rw [hsame, handOver_of_open (Or.inl hp)]
      exact .collecting taken hc (Or.inl hp)
    · obtain ⟨hbatches, hheld, hprogress⟩ := Consumer.answer_of_waiting hd hp
      rw [handOver_of_open (Or.inl hprogress)]
      refine .collecting taken ⟨hc.held, hc.cancelled, hc.published_eq, ?_⟩ (Or.inl hprogress)
      rw [← hc.collected_eq, Consumer.collected, hbatches, hheld, Consumer.collected]
  | closing ho hr hp =>
    rcases hp with hp | ⟨batch, hp⟩
    · have hended : p.consumer.hasEnded = true := by rw [Consumer.hasEnded, hp]
      have hsame : p.consumer.answer deleter = p.consumer :=
        Consumer.answer_of_isAnswered (Consumer.isAnswered_of_hasEnded hended)
      rw [hsame]
      exact .handOver ho hr (Or.inl hp)
    · obtain ⟨hbatches, _, hprogress⟩ := Consumer.answer_of_waiting hd hp
      exact .handOver ho (hbatches ▸ hr) (Or.inl hprogress)

/-- Every move of a pipeline whose store is reached keeps it sound. -/
theorem Sound.move (h : Sound lister first p) (hd : Consumer.Reaches deleter) (m : Move) :
    Sound lister first (p.move lister deleter m) := by
  obtain ⟨moves, hs, _⟩ := move_stream lister deleter p m
  refine ⟨hs ▸ h.follows.run moves, hs ▸ h.orderly.run lister moves, ?_⟩
  cases m with
  | step => exact h.balanced.produce (m := .step) rfl
  | produce => exact h.balanced.produce (m := .advance) rfl
  | consume => exact h.consume
  | answer => exact h.balanced.answer hd
  | cancelCaller => exact h.balanced.cancelCaller
  | read =>
    rw [Pipeline.move, Consumer.read_snd]
    exact h.balanced.congr rfl rfl rfl
  | unwatch => exact h.balanced.congr rfl rfl rfl

theorem Sound.run (h : Sound lister first p) (hd : Consumer.Reaches deleter)
    (moves : List Move) : Sound lister first (p.run lister deleter moves) := by
  induction moves generalizing p with
  | nil => exact h
  | cons m moves ih => exact ih (h.move hd m)

/-! ## What a sound pipeline has removed -/

/-- The calls that are made are for objects of the listing, in order. -/
theorem Sound.batches_prefix (h : Sound lister first p) :
    p.consumer.batches.flatten <+: removable p.stream.published := by
  cases h.balanced with
  | collecting taken hc hp =>
    rw [hc.published_eq, removable_append, ← hc.collected_eq, Consumer.collected,
      List.append_assoc]
    exact List.prefix_append ..
  | closing ho hr hp => exact hr ▸ List.prefix_rfl

/-- A run that has ended has removed what the listing has published, and it ends well. -/
theorem Sound.hasEnded (h : Sound lister first p) (hend : p.consumer.hasEnded = true) :
    Over lister first p.stream ∧
      p.consumer.batches.flatten = removable p.stream.published ∧
      p.consumer.verdict? = some (.ok p.consumer.summary) := by
  cases h.balanced with
  | collecting taken hc hp =>
    rcases hp with hp | ⟨batch, hp⟩ <;>
    · rw [Consumer.hasEnded, hp] at hend
      cases hend
  | closing ho hr hp =>
    rcases hp with hp | ⟨batch, hp⟩
    · refine ⟨ho, hr, ?_⟩
      rw [Consumer.verdict?, hp]
    · rw [Consumer.hasEnded, hp] at hend
      cases hend

/-- After the caller's cancellation the listing publishes no object. -/
theorem removable_run (lister : Lister) (deleter : Deleter) (hc : p.stream.isCancelled = true)
    (moves : List Move) :
    removable (p.run lister deleter moves).stream.published = removable p.stream.published := by
  rcases (run_halted lister deleter hc moves).published_eq with hpub | ⟨call, error, _, _, hpub⟩
  · rw [hpub]
  · rw [hpub, removable_append_error]

end ObjectStore.Removal.Pipeline
