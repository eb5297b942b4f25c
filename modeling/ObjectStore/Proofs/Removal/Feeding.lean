import ObjectStore.Proofs.Removal.Runs
import ObjectStore.Removal.Feed

/-!
# What a fed removal has called for

The consumer cuts what it takes in into full batches, and holds back what does not fill one.
At any moment the objects accepted are those of its calls, those held back and those still
in the channel, in this order. The end of the channel makes it call for what is held back,
if there is anything. Once it has ended, nothing is accepted and no call is made any more.
-/

namespace ObjectStore.Removal

/-! ## Full pieces and a rest -/

/-- A list as it is cut: full pieces, and a rest that does not fill one. -/
structure Cut (size : Nat) (ids : List ObjectId) (full : List (List ObjectId))
    (rest : List ObjectId) : Prop where
  /-- Every piece is full. -/
  length_eq : ∀ piece ∈ full, piece.length = size
  /-- The rest is not. -/
  length_rest_lt : rest.length < size
  /-- Together they are the list. -/
  flatten_append : full.flatten ++ rest = ids

namespace Cut

variable {size : Nat} {ids rest : List ObjectId} {full : List (List ObjectId)}

theorem length_flatten (h : ∀ piece ∈ full, piece.length = size) :
    full.flatten.length = full.length * size := by
  induction full with
  | nil => simp
  | cons piece full ih =>
    have hrest := ih fun p hp => h p (List.mem_cons_of_mem piece hp)
    rw [List.flatten_cons, List.length_append, hrest, h piece List.mem_cons_self,
      List.length_cons, Nat.succ_mul, Nat.add_comm]

theorem pieces_flatten (hs : 0 < size) (h : ∀ piece ∈ full, piece.length = size) :
    pieces size full.flatten = full := by
  induction full with
  | nil => simp
  | cons piece full ih =>
    rw [List.flatten_cons, pieces_append hs (h piece List.mem_cons_self),
      ih fun p hp => h p (List.mem_cons_of_mem piece hp)]

/-- The full pieces are as many as there are, and the rest is what remains. -/
theorem eq_take_drop (h : Cut size ids full rest) :
    full = pieces size (ids.take (ids.length / size * size)) ∧
      rest = ids.drop (ids.length / size * size) ∧ rest.length = ids.length % size := by
  obtain ⟨hfull, hrest, rfl⟩ := h
  have hs : 0 < size := Nat.zero_lt_of_lt hrest
  have hlength : (full.flatten ++ rest).length = size * full.length + rest.length := by
    rw [List.length_append, length_flatten hfull, Nat.mul_comm]
  have hdiv : (full.flatten ++ rest).length / size * size = full.flatten.length := by
    rw [hlength, Nat.mul_add_div hs, Nat.div_eq_of_lt hrest, Nat.add_zero, length_flatten hfull]
  refine ⟨?_, ?_, ?_⟩
  · rw [hdiv, List.take_left, pieces_flatten hs hfull]
  · rw [hdiv, List.drop_left]
  · rw [hlength, Nat.mul_add_mod, Nat.mod_eq_of_lt hrest]

end Cut

namespace Feed

variable {deleter : Deleter} {options : RemoveOptions} {f g : Feed}

/-! ## Rest -/

theorem isParked_iff : f.isParked = true ↔
    f.consumer.progress = .running ∧ f.channel.queue = [] ∧ f.channel.closed = false := by
  simp [isParked, and_assoc]

theorem isAtRest_iff : f.isAtRest = true ↔ f.isParked = true ∨ f.consumer.hasEnded = true :=
  Bool.or_eq_true_iff

theorem isAnswered_of_isAtRest (h : f.isAtRest = true) : f.consumer.IsAnswered := by
  rcases isAtRest_iff.mp h with h | h
  · exact Consumer.isAnswered_of_running (isParked_iff.mp h).1
  · exact Consumer.isAnswered_of_hasEnded h

/-! ## What the consumer's moves can do -/

/-- The ways in which the consumer's turn changes a feed. -/
inductive ConsumeCase (f : Feed) : Feed → Prop where
  /-- The consumer waits, or has ended. -/
  | idle (h : f.consumer.progress ≠ .running ∨ f.channel.queue = [] ∧ f.channel.closed = false) :
      ConsumeCase f f
  /-- It holds back an object. -/
  | hold (id : ObjectId) (rest : List ObjectId) (hp : f.consumer.progress = .running)
      (hq : f.channel.queue = id :: rest)
      (hroom : (f.consumer.held ++ [id]).length < f.consumer.batchSize) :
      ConsumeCase f { f with
        channel := { f.channel with queue := rest }
        consumer := { f.consumer with held := f.consumer.held ++ [id] } }
  /-- An object fills a batch, and a call is made for it. -/
  | fill (id : ObjectId) (rest : List ObjectId) (hp : f.consumer.progress = .running)
      (hq : f.channel.queue = id :: rest)
      (hfull : f.consumer.batchSize ≤ (f.consumer.held ++ [id]).length) :
      ConsumeCase f { f with
        channel := { f.channel with queue := rest }
        consumer := ({ f.consumer with held := f.consumer.held ++ [id] } : Consumer).submit false }
  /-- There is nothing more to take in, and a call is made for what is held back. -/
  | flush (hp : f.consumer.progress = .running) (hq : f.channel.queue = [])
      (hc : f.channel.closed = true) (hh : f.consumer.held ≠ []) :
      ConsumeCase f { f with consumer := f.consumer.submit true }
  /-- There is nothing more to take in, and nothing is held back. -/
  | finish (hp : f.consumer.progress = .running) (hq : f.channel.queue = [])
      (hc : f.channel.closed = true) (hh : f.consumer.held = []) :
      ConsumeCase f { f with
        channel := { queue := [], closed := true }
        consumer := { f.consumer with progress := .done } }

theorem handOver_of_hasEnded {c : Consumer} (h : c.hasEnded = true) :
    f.handOver c = { f with channel := { queue := [], closed := true }, consumer := c } :=
  if_pos h

theorem handOver_of_not_hasEnded {c : Consumer} (h : c.hasEnded = false) :
    f.handOver c = { f with consumer := c } :=
  if_neg (Bool.eq_false_iff.mp h)

theorem consumeCase_consume (f : Feed) : ConsumeCase f f.consume := by
  unfold consume
  split
  case isTrue hp =>
    have hgoing (held : List ObjectId) :
        ({ f.consumer with held } : Consumer).hasEnded = false := by
      rw [Consumer.hasEnded, hp]
    cases hq : f.channel.queue with
    | cons id rest =>
      change f.ConsumeCase (handOver _ (f.consumer.take id))
      by_cases hroom : (f.consumer.held ++ [id]).length < f.consumer.batchSize
      · rw [Consumer.take_of_room hp hroom, handOver_of_not_hasEnded (hgoing _)]
        exact .hold id rest hp hq hroom
      · have hfull := Nat.le_of_not_lt hroom
        rw [Consumer.take_of_full hp hfull, handOver_of_not_hasEnded rfl]
        exact .fill id rest hp hq hfull
    | nil =>
      cases hc : f.channel.closed with
      | false => exact .idle (.inr ⟨hq, hc⟩)
      | true =>
        rw [if_pos rfl]
        by_cases hh : f.consumer.held = []
        · rw [Consumer.close_of_nil hp hh, handOver_of_hasEnded rfl]
          exact .finish hp hq hc hh
        · rw [Consumer.close_of_held hp hh, handOver_of_not_hasEnded rfl]
          exact .flush hp hq hc hh
  case isFalse hp => exact .idle (.inl hp)

/-! ## What every move keeps -/

/-- What the calls are about, by how far the consumer has come. -/
inductive Balanced (size : Nat) (f : Feed) : Prop where
  /-- More objects may come: so far there are only full batches. -/
  | collecting (taken : List ObjectId) (hcut : Cut size taken f.consumer.batches f.consumer.held)
      (haccepted : f.accepted = taken ++ f.channel.queue)
      (hp : f.consumer.progress = .running ∨ ∃ batch, f.consumer.progress = .waiting batch false)
  /-- The channel is at its end: what did not fill a batch is the last one, if it is anything. -/
  | closing (full : List (List ObjectId)) (rest : List ObjectId)
      (hcut : Cut size f.accepted full rest)
      (hbatches : f.consumer.batches = full ++ if rest = [] then [] else [rest])
      (hc : f.channel.closed = true)
      (hp : f.consumer.progress = .done ∨ ∃ batch, f.consumer.progress = .waiting batch true)
  /-- The run was cut short. -/
  | broken (hp : (∃ error, f.consumer.progress = .stopped error) ∨
      ∃ words, f.consumer.progress = .died words)

/-- A feed whose consumer cuts what it takes in into batches. -/
structure Sound (size : Nat) (f : Feed) : Prop where
  /-- The consumer works with batches of this size. -/
  batchSize_eq : f.consumer.batchSize = size
  /-- It holds back less than a batch. -/
  length_held_lt : f.consumer.held.length < size
  /-- It calls for some objects each time, and not for too many. -/
  batches_mem : ∀ batch ∈ f.consumer.batches, batch ≠ [] ∧ batch.length ≤ size
  /-- Once it has ended there is nothing in the channel, nor will there be. -/
  released : f.consumer.hasEnded = true → f.channel = { queue := [], closed := true }
  /-- Its calls are about what it has taken in. -/
  balanced : Balanced size f

theorem sound_start (options : RemoveOptions) :
    Sound options.effectiveBatchSize (start options) where
  batchSize_eq := rfl
  length_held_lt := Consumer.effectiveBatchSize_pos options
  batches_mem := by
    intro batch h
    cases h
  released h := by cases h
  balanced := by
    refine .collecting [] ⟨?_, Consumer.effectiveBatchSize_pos options, rfl⟩ rfl (.inl rfl)
    intro piece h
    cases h

variable {size : Nat}

theorem Sound.push (h : Sound size f) (id : ObjectId) : Sound size (f.push id) := by
  unfold Feed.push
  split
  · exact h
  · next hopen =>
    refine ⟨h.batchSize_eq, h.length_held_lt, h.batches_mem, ?_, ?_⟩
    · intro hended
      rw [h.released hended] at hopen
      exact absurd rfl hopen
    · cases h.balanced with
      | collecting taken hcut haccepted hp =>
        exact .collecting taken hcut (by rw [haccepted, List.append_assoc]) hp
      | closing full rest hcut hbatches hc hp => exact absurd hc hopen
      | broken hp => exact .broken hp

theorem Sound.close (h : Sound size f) : Sound size f.close := by
  refine ⟨h.batchSize_eq, h.length_held_lt, h.batches_mem, ?_, ?_⟩
  · intro hended
    rw [Feed.close, h.released hended]
  · cases h.balanced with
    | collecting taken hcut haccepted hp => exact .collecting taken hcut haccepted hp
    | closing full rest hcut hbatches hc hp => exact .closing full rest hcut hbatches rfl hp
    | broken hp => exact .broken hp

/-- While the consumer is running, what it has taken in is cut into its batches. -/
theorem Balanced.cut_of_running (h : Balanced size f) (hp : f.consumer.progress = .running) :
    ∃ taken, Cut size taken f.consumer.batches f.consumer.held ∧
      f.accepted = taken ++ f.channel.queue := by
  cases h with
  | collecting taken hcut haccepted => exact ⟨taken, hcut, haccepted⟩
  | closing full rest hcut hbatches hc hq => simp [hp] at hq
  | broken hq => simp [hp] at hq

theorem ConsumeCase.sound (hc : ConsumeCase f g) (h : Sound size f) : Sound size g := by
  have hgoing {c : Consumer} (hp : c.progress = .running) : ¬c.hasEnded = true := by
    simp [Consumer.hasEnded, hp]
  cases hc with
  | idle => exact h
  | hold id rest hp hq hroom =>
    obtain ⟨taken, hcut, haccepted⟩ := h.balanced.cut_of_running hp
    rw [h.batchSize_eq] at hroom
    refine ⟨h.batchSize_eq, hroom, h.batches_mem, fun hended => absurd hended (hgoing hp), ?_⟩
    refine .collecting (taken ++ [id]) ⟨hcut.length_eq, hroom, ?_⟩ ?_ (.inl hp)
    · rw [← hcut.flatten_append, List.append_assoc]
    · rw [haccepted, hq, List.append_assoc, List.singleton_append]
  | fill id rest hp hq hfull =>
    obtain ⟨taken, hcut, haccepted⟩ := h.balanced.cut_of_running hp
    have hsize : (f.consumer.held ++ [id]).length = size := by
      have hlt := hcut.length_rest_lt
      rw [h.batchSize_eq] at hfull
      rw [List.length_append, List.length_singleton] at hfull ⊢
      omega
    have hpos : 0 < size := Nat.zero_lt_of_lt hcut.length_rest_lt
    refine ⟨h.batchSize_eq, hpos, ?_, fun hended => absurd hended Bool.false_ne_true, ?_⟩
    · intro batch hmem
      rcases List.mem_append.mp hmem with hmem | hmem
      · exact h.batches_mem batch hmem
      · rw [List.mem_singleton.mp hmem]
        exact ⟨List.append_ne_nil_of_right_ne_nil _ (List.cons_ne_nil _ _), hsize.le⟩
    · refine .collecting (taken ++ [id]) ⟨?_, hpos, ?_⟩ ?_ (.inr ⟨_, rfl⟩)
      · intro piece hmem
        rcases List.mem_append.mp hmem with hmem | hmem
        · exact hcut.length_eq piece hmem
        · rw [List.mem_singleton.mp hmem]
          exact hsize
      · rw [← hcut.flatten_append]
        simp [Consumer.submit]
      · rw [haccepted, hq, List.append_assoc, List.singleton_append]
  | flush hp hq hclosed hh =>
    obtain ⟨taken, hcut, haccepted⟩ := h.balanced.cut_of_running hp
    rw [hq, List.append_nil] at haccepted
    refine ⟨h.batchSize_eq, Nat.zero_lt_of_lt hcut.length_rest_lt, ?_,
      fun hended => absurd hended Bool.false_ne_true, ?_⟩
    · intro batch hmem
      rcases List.mem_append.mp hmem with hmem | hmem
      · exact h.batches_mem batch hmem
      · rw [List.mem_singleton.mp hmem]
        exact ⟨hh, Nat.le_of_lt hcut.length_rest_lt⟩
    · refine .closing _ _ (haccepted ▸ hcut) ?_ hclosed (.inr ⟨_, rfl⟩)
      rw [if_neg hh]
      rfl
  | finish hp hq hclosed hh =>
    obtain ⟨taken, hcut, haccepted⟩ := h.balanced.cut_of_running hp
    rw [hq, List.append_nil] at haccepted
    refine ⟨h.batchSize_eq, h.length_held_lt, h.batches_mem, fun _ => rfl, ?_⟩
    refine .closing _ _ (haccepted ▸ hcut) ?_ rfl (.inl rfl)
    rw [if_pos hh, List.append_nil]

theorem Sound.consume (h : Sound size f) : Sound size f.consume :=
  f.consumeCase_consume.sound h

/-- Where the consumer waits for no answer, there is none. -/
theorem Sound.answer_of_isAnswered (h : Sound size f) (hw : f.consumer.IsAnswered) :
    f.answer deleter = f := by
  rw [Feed.answer, Consumer.answer_of_isAnswered hw]
  cases hended : f.consumer.hasEnded with
  | false => exact handOver_of_not_hasEnded hended
  | true => rw [handOver_of_hasEnded hended, ← h.released hended]

/-- What the calls are about does not depend on what the answer says of them. -/
theorem Sound.handOver {batch : List ObjectId} {isLast : Bool} {c : Consumer} (h : Sound size f)
    (hw : f.consumer.progress = .waiting batch isLast) (hsize : c.batchSize = f.consumer.batchSize)
    (hheld : c.held = f.consumer.held) (hbatches : c.batches = f.consumer.batches)
    (hp : c.progress = (if isLast then .done else .running) ∨
      (∃ error, c.progress = .stopped error) ∨ ∃ words, c.progress = .died words) :
    Sound size (f.handOver c) := by
  have hbalanced : Balanced size (f.handOver c) := by
    rcases hp with hp | hp
    · cases h.balanced with
      | collecting taken hcut haccepted hprogress =>
        have hlast : isLast = false := by simpa [hw] using hprogress
        rw [hlast, if_neg Bool.false_ne_true] at hp
        rw [handOver_of_not_hasEnded (by rw [Consumer.hasEnded, hp])]
        rw [← hbatches, ← hheld] at hcut
        exact .collecting taken hcut haccepted (.inl hp)
      | closing full rest hcut hfull hc hprogress =>
        have hlast : isLast = true := by simpa [hw] using hprogress
        rw [hlast, if_pos rfl] at hp
        rw [handOver_of_hasEnded (by rw [Consumer.hasEnded, hp])]
        exact .closing full rest hcut (hbatches.trans hfull) rfl (.inl hp)
      | broken hprogress => simp [hw] at hprogress
    · rw [Feed.handOver]
      split
      all_goals exact .broken hp
  rw [Feed.handOver] at hbalanced ⊢
  split at hbalanced
  · next hended =>
    rw [if_pos hended]
    exact ⟨hsize.trans h.batchSize_eq, hheld ▸ h.length_held_lt, hbatches ▸ h.batches_mem,
      fun _ => rfl, hbalanced⟩
  · next hgoing =>
    rw [if_neg hgoing]
    exact ⟨hsize.trans h.batchSize_eq, hheld ▸ h.length_held_lt, hbatches ▸ h.batches_mem,
      fun hended => absurd hended hgoing, hbalanced⟩

theorem Sound.answer (h : Sound size f) : Sound size (f.answer deleter) := by
  rcases f.consumer.waiting_or_isAnswered with ⟨batch, isLast, hp⟩ | hw
  · rw [Feed.answer, Consumer.answer_eq_of_waiting hp]
    refine h.handOver hp rfl rfl rfl ?_
    simp only
    cases hend : (⟨batch, deleter (f.consumer.batches.length - 1) batch⟩ : Attempt).ending? with
    | none => exact .inl rfl
    | some progress => exact .inr (Attempt.eq_of_ending? hend)
  · rw [h.answer_of_isAnswered hw]
    exact h

/-- The reader of the failures changes nothing of what the calls are about. -/
theorem Sound.congr {c : Consumer} (h : Sound size f) (hsize : c.batchSize = f.consumer.batchSize)
    (hheld : c.held = f.consumer.held) (hbatches : c.batches = f.consumer.batches)
    (hp : c.progress = f.consumer.progress) : Sound size { f with consumer := c } := by
  refine ⟨hsize.trans h.batchSize_eq, hheld ▸ h.length_held_lt, hbatches ▸ h.batches_mem, ?_, ?_⟩
  · intro hended
    exact h.released (by rwa [Consumer.hasEnded, hp] at hended)
  · cases h.balanced with
    | collecting taken hcut haccepted hprogress =>
      exact .collecting taken (hbatches ▸ hheld ▸ hcut) haccepted (hp ▸ hprogress)
    | closing full rest hcut hfull hc hprogress =>
      exact .closing full rest hcut (hbatches.trans hfull) hc (hp ▸ hprogress)
    | broken hprogress => exact .broken (hp ▸ hprogress)

theorem Sound.move (h : Sound size f) (m : Move) : Sound size (f.move deleter m) := by
  cases m with
  | push id => exact h.push id
  | close => exact h.close
  | consume => exact h.consume
  | answer => exact h.answer
  | read => exact h.congr (by simp) (by simp) (by simp) (by simp)
  | unwatch => exact h.congr rfl rfl rfl rfl

theorem run_cons (f : Feed) (m : Move) (moves : List Move) :
    f.run deleter (m :: moves) = (f.move deleter m).run deleter moves := rfl

theorem run_append (f : Feed) (before after : List Move) :
    f.run deleter (before ++ after) = (f.run deleter before).run deleter after :=
  List.foldl_append

theorem Sound.run (h : Sound size f) (moves : List Move) : Sound size (f.run deleter moves) := by
  induction moves generalizing f with
  | nil => exact h
  | cons m moves ih =>
    rw [run_cons]
    exact ih (h.move m)

/-! ## What the calls are about -/

/--
Where the consumer waits for the owner of the channel or is done, it has called for all full
batches of what was accepted, and for the rest only at the end of the channel.
-/
theorem Sound.batches_eq (h : Sound size f)
    (hp : f.isParked = true ∨ f.consumer.progress = .done) :
    (∀ batch ∈ pieces size (f.accepted.take (f.accepted.length / size * size)),
      batch.length = size) ∧
    f.consumer.batches = pieces size (f.accepted.take (f.accepted.length / size * size)) ++
      if f.channel.closed = true ∧ f.accepted.length % size ≠ 0 then
        [f.accepted.drop (f.accepted.length / size * size)]
      else [] := by
  rcases hp with hp | hp
  · obtain ⟨hrunning, hq, hopen⟩ := isParked_iff.mp hp
    obtain ⟨taken, hcut, haccepted⟩ := h.balanced.cut_of_running hrunning
    rw [hq, List.append_nil] at haccepted
    rw [hopen, if_neg (fun hc => Bool.false_ne_true hc.1), List.append_nil, haccepted,
      ← hcut.eq_take_drop.1]
    exact ⟨hcut.length_eq, rfl⟩
  · cases h.balanced with
    | collecting taken hcut haccepted hprogress => simp [hp] at hprogress
    | broken hprogress => simp [hp] at hprogress
    | closing full rest hcut hbatches hclosed hprogress =>
      obtain ⟨hfull, hrest, hlength⟩ := hcut.eq_take_drop
      rw [hbatches, ← hfull, ← hrest, ← hlength, hclosed]
      refine ⟨hcut.length_eq, ?_⟩
      by_cases hnil : rest = [] <;> simp [hnil]

/-- After its end the consumer makes no call, and nothing is accepted. -/
theorem Sound.move_of_hasEnded (deleter : Deleter) (h : Sound size f)
    (hended : f.consumer.hasEnded = true) (m : Move) :
    (f.move deleter m).unwatch = f.unwatch := by
  have hchannel := h.released hended
  cases m with
  | push id =>
    rw [Feed.move, Feed.push, if_pos (by rw [hchannel])]
  | close =>
    rw [Feed.move, Feed.close, ← (by rw [hchannel] : f.channel = { f.channel with closed := true })]
  | consume => rw [Feed.move, Feed.consume, if_neg (Consumer.not_running_of_hasEnded hended)]
  | answer => rw [Feed.move, h.answer_of_isAnswered (Consumer.isAnswered_of_hasEnded hended)]
  | read => simp [Feed.move, Feed.read, Feed.unwatch, Consumer.unwatch]
  | unwatch => rfl

theorem Sound.run_of_hasEnded (h : Sound size f) (hended : f.consumer.hasEnded = true)
    (moves : List Move) : (f.run deleter moves).unwatch = f.unwatch := by
  induction moves generalizing f with
  | nil => rfl
  | cons m moves ih =>
    have hmove := h.move_of_hasEnded deleter hended m
    have hended' : (f.move deleter m).consumer.hasEnded = true :=
      (congrArg (·.consumer.hasEnded) hmove).trans hended
    rw [run_cons, ih (h.move m) hended', hmove]

end Feed

end ObjectStore.Removal
