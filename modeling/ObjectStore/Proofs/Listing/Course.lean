import ObjectStore.Proofs.Listing.Moves

/-!
# The producer follows the sequence of its lister

At every moment the calls of a stream are the first calls of the sequence that its
lister lays down. What is published are the items of these calls, as far as the producer
has come, and what the producer goes on with is what the sequence goes on with. Only a
cancellation makes the producer leave the sequence before its end.
-/

namespace ObjectStore.Listing

/-! ## How a sequence goes on -/

/-- After a number of calls, a listing that begins with `first` goes on with the call `next`. -/
def Lister.Continues (lister : Lister) (first : PageCall) (number : Nat)
    (next : Option PageCall) : Prop :=
  ∀ count, lister.exchanges first (number + count) =
    lister.exchanges first number ++ lister.exchangesFrom number next count

namespace Lister

variable {lister : Lister} {first call : PageCall} {number : Nat} {next : Option PageCall}

theorem continues_zero (lister : Lister) (first : PageCall) :
    lister.Continues first 0 (some first) := by
  intro count
  rw [Nat.zero_add]
  rfl

/-- The next call and its reply are the next exchange of the sequence. -/
theorem Continues.exchanges_succ (h : lister.Continues first number (some call)) :
    lister.exchanges first (number + 1) =
      lister.exchanges first number ++ [⟨call, lister number call⟩] := by
  rw [h 1, exchangesFrom, exchangesFrom_zero]

/-- After the next call, the sequence goes on with what the reply leads to. -/
theorem Continues.succ (h : lister.Continues first number (some call)) :
    lister.Continues first (number + 1) (⟨call, lister number call⟩ : Exchange).next? := by
  intro count
  rw [h.exchanges_succ, Nat.add_assoc, Nat.add_comm 1 count, h (count + 1), exchangesFrom,
    List.append_assoc, List.singleton_append]

/-- The items of the next call come after those of the calls before it. -/
theorem Continues.items_succ (h : lister.Continues first number (some call)) :
    lister.items first (number + 1) =
      lister.items first number ++ (⟨call, lister number call⟩ : Exchange).items := by
  rw [items_eq_flatMap, h.exchanges_succ, List.flatMap_append, List.flatMap_singleton,
    items_eq_flatMap]

theorem Continues.calls_succ (h : lister.Continues first number (some call)) :
    lister.calls first (number + 1) = lister.calls first number ++ [call] := by
  rw [calls, h.exchanges_succ, List.map_append]
  rfl

/-- A sequence that goes on with nothing is at its end. -/
theorem Continues.endsWithin (h : lister.Continues first number none) :
    lister.EndsWithin first number := by
  rw [EndsWithin, h 1, exchangesFrom_none, List.append_nil]
  exact length_exchangesFrom_le ..

/-- The items of fewer calls come first. -/
theorem items_isPrefix (lister : Lister) (first : PageCall) {few many : Nat} (h : few ≤ many) :
    lister.items first few <+: lister.items first many := by
  obtain ⟨more, rfl⟩ := Nat.exists_eq_add_of_le h
  obtain ⟨rest, hrest⟩ := exchangesFrom_isPrefix lister 0 (some first) few more
  refine ⟨rest.flatMap Exchange.items, ?_⟩
  rw [items_eq_flatMap, items_eq_flatMap, exchanges, exchanges, ← hrest, List.flatMap_append]

/-- Beyond its end a sequence has no calls. -/
theorem EndsWithin.exchanges_eq {count many : Nat} (h : lister.EndsWithin first count)
    (hm : count ≤ many) : lister.exchanges first many = lister.exchanges first count := by
  obtain ⟨more, rfl⟩ := Nat.exists_eq_add_of_le hm
  exact exchangesFrom_eq_of_length_le h more

end Lister

/-! ## Where the producer stands -/

namespace Stream

variable {lister : Lister} {first : PageCall} {s : Stream}

/-- The producer has dealt with all its calls, or was cut short by a cancellation. -/
def Settled (lister : Lister) (first : PageCall) (s : Stream) : Prop :=
  lister.Continues first s.requests.length none ∧
      s.published = lister.items first s.requests.length ∨
    s.isCancelled = true ∧ s.published <+: lister.items first s.requests.length

/-- What is published and what comes next, by where the producer stands. -/
def Stands (lister : Lister) (first : PageCall) (s : Stream) : Prop :=
  match s.producer with
  | .ready call =>
    lister.Continues first s.requests.length (some call) ∧
      s.published = lister.items first s.requests.length
  | .fetching call =>
    ∃ number, s.requests.length = number + 1 ∧ lister.Continues first number (some call) ∧
      s.published = lister.items first number
  | .publishing records next =>
    lister.Continues first s.requests.length next ∧
      s.published ++ records.map .ok = lister.items first s.requests.length
  | .ended => Settled lister first s
  | .died _ => Settled lister first s

/-- A stream whose producer keeps to the sequence of its lister. -/
structure Follows (lister : Lister) (first : PageCall) (s : Stream) : Prop where
  /-- The calls are the first ones of the sequence. -/
  requests_eq : s.requests = lister.calls first s.requests.length
  /-- What is published, and what comes next. -/
  stands : Stands lister first s
  /-- Without a reader the stream is cancelled. -/
  isCancelled_of_not_held : s.held = false → s.isCancelled = true

theorem follows_start (lister : Lister) (bucket : String) (options : ListOptions)
    (callerCancelled : Bool) :
    Follows lister { bucket, options } (.start bucket options callerCancelled) where
  requests_eq := rfl
  stands := ⟨lister.continues_zero _, rfl⟩
  isCancelled_of_not_held h := absurd h.symm Bool.false_ne_true

/-- The answer to a call leads on as the sequence does, and brings the next items of it. -/
theorem Follows.answered (h : Follows lister first s) {call : PageCall} {reply : Reply}
    (hp : s.producer = .fetching call) (hr : lister (s.requests.length - 1) call = reply) :
    lister.Continues first s.requests.length (⟨call, reply⟩ : Exchange).next? ∧
      s.published ++ (⟨call, reply⟩ : Exchange).items =
        lister.items first s.requests.length := by
  have hst := h.stands
  rw [Stands, hp] at hst
  obtain ⟨number, hn, hcont, hpub⟩ := hst
  rw [hn, Nat.add_sub_cancel] at hr
  subst hr
  rw [hn, hcont.items_succ, hpub]
  exact ⟨hcont.succ, rfl⟩

theorem StepCase.follows {t : Stream} (hs : StepCase lister s t) (h : Follows lister first s) :
    Follows lister first t := by
  have hr := h.requests_eq
  have hh := h.isCancelled_of_not_held
  have hst := h.stands
  rw [Stands] at hst
  cases hs with
  | stop call hp hc =>
    rw [hp] at hst
    exact ⟨hr, Or.inr ⟨hc, hst.2 ▸ List.prefix_rfl⟩, hh⟩
  | ask call hp hc =>
    rw [hp] at hst
    refine ⟨?_, ⟨s.requests.length, List.length_append, hst⟩, hh⟩
    rw [List.length_append, List.length_singleton, hst.1.calls_succ, ← hr]
  | turn call page hp hreply =>
    obtain ⟨hcont, hpub⟩ := h.answered hp hreply
    refine ⟨hr, ⟨hcont, ?_⟩, hh⟩
    exact (congrArg (s.published ++ ·) (List.append_nil _)).symm.trans hpub
  | fail call error hp hreply => exact ⟨hr, Or.inl (h.answered hp hreply), hh⟩
  | failUnheard call error hp hreply hu =>
    exact ⟨hr, Or.inr ⟨hh hu, _, (h.answered hp hreply).2⟩, hh⟩
  | crash call words hp hreply =>
    obtain ⟨hcont, hpub⟩ := h.answered hp hreply
    exact ⟨hr, Or.inl ⟨hcont, (List.append_nil _).symm.trans hpub⟩, hh⟩
  | publish record rest next hp =>
    rw [hp] at hst
    refine ⟨hr, ⟨hst.1, ?_⟩, hh⟩
    rw [List.append_assoc]
    exact hst.2
  | discard record rest next hp hc =>
    rw [hp] at hst
    exact ⟨hr, Or.inr ⟨hc.elim id hh, ⟨_, hst.2⟩⟩, hh⟩
  | goOn next hp =>
    rw [hp] at hst
    exact ⟨hr, ⟨hst.1, (List.append_nil _).symm.trans hst.2⟩, hh⟩
  | last hp =>
    rw [hp] at hst
    exact ⟨hr, Or.inl ⟨hst.1, (List.append_nil _).symm.trans hst.2⟩, hh⟩
  | rest hp => exact h

/-- Moves that leave the producer, its calls and its items alone do not lead off the sequence. -/
theorem Follows.congr {t : Stream} (h : Follows lister first s) (hp : t.producer = s.producer)
    (hr : t.requests = s.requests) (hpub : t.published = s.published)
    (hc : s.isCancelled = true → t.isCancelled = true)
    (hh : t.held = false → t.isCancelled = true) : Follows lister first t := by
  have hsettled (hs : Settled lister first s) : Settled lister first t := by
    rw [Settled, hr, hpub]
    exact hs.imp_right (And.imp_left hc)
  refine ⟨hr ▸ h.requests_eq, ?_, hh⟩
  have hst := h.stands
  unfold Stands at hst ⊢
  rw [hp, hr, hpub]
  cases hps : s.producer with
  | ended => exact hsettled (by simpa only [hps] using hst)
  | died words => exact hsettled (by simpa only [hps] using hst)
  | _ => simpa only [hps] using hst

/-- Whatever the moves, the producer keeps to its sequence. -/
theorem Follows.run (h : Follows lister first s) (moves : List Move) :
    Follows lister first (s.run lister moves).2 := by
  apply run_keeps_of_step _ _ _ _ _ moves h
  · intro s h
    exact (s.stepCase_step lister).follows h
  · intro s h
    exact h.congr rfl rfl rfl id h.isCancelled_of_not_held
  · intro s h
    have hc : s.cancel.isCancelled = true := rfl
    exact h.congr rfl rfl rfl (fun _ => hc) fun _ => hc
  · intro s h
    have hc : s.cancelCaller.isCancelled = true := Bool.or_true _
    exact h.congr rfl rfl rfl (fun _ => hc) fun _ => hc
  · intro s h
    have hc : s.drop.isCancelled = true := rfl
    exact h.congr rfl rfl rfl (fun _ => hc) fun _ => hc

/-! ## What a stream has published -/

/-- What is published begins the sequence. -/
theorem Follows.published_isPrefix (h : Follows lister first s) :
    s.published <+: lister.items first s.requests.length := by
  have hst := h.stands
  have hsettled (hs : Settled lister first s) :
      s.published <+: lister.items first s.requests.length :=
    hs.elim (fun hs => hs.2 ▸ List.prefix_rfl) And.right
  unfold Stands at hst
  cases hp : s.producer with
  | ready call =>
    rw [hp] at hst
    exact hst.2 ▸ List.prefix_rfl
  | fetching call => exact ⟨_, (h.answered hp rfl).2⟩
  | publishing records next =>
    rw [hp] at hst
    exact ⟨_, hst.2⟩
  | ended => exact hsettled (by simpa only [hp] using hst)
  | died words => exact hsettled (by simpa only [hp] using hst)

/-- A producer that stops uncancelled has come to the end of the sequence. -/
theorem Follows.complete (h : Follows lister first s) (hp : s.producer.isAlive = false)
    (hc : s.isCancelled = false) :
    lister.EndsWithin first s.requests.length ∧
      s.published = lister.items first s.requests.length := by
  have hst := h.stands
  have hsettled : Settled lister first s := by
    unfold Stands at hst
    cases hps : s.producer with
    | ended => simpa only [hps] using hst
    | died words => simpa only [hps] using hst
    | _ =>
      rw [hps] at hp
      cases hp
  rcases hsettled with ⟨hcont, hpub⟩ | ⟨hct, _⟩
  · exact ⟨hcont.endsWithin, hpub⟩
  · exact absurd hct (by rw [hc]; decide)

/-- A listing that ends makes no more calls than it needs. -/
theorem Follows.length_requests_le (h : Follows lister first s) {count : Nat}
    (he : lister.EndsWithin first count) : s.requests.length ≤ count := by
  have hl : (lister.exchanges first s.requests.length).length = s.requests.length := by
    rw [← List.length_map (f := Exchange.call)]
    exact congrArg List.length h.requests_eq.symm
  rcases Nat.le_total s.requests.length count with hle | hge
  · exact hle
  · rw [he.exchanges_eq hge] at hl
    exact hl ▸ lister.length_exchangesFrom_le 0 (some first) count

end Stream

end ObjectStore.Listing
