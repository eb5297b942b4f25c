import ObjectStore.Listing.Session
import ObjectStore.Proofs.Listing.Delivery

/-!
# Cancelled listings

From the moment of its cancellation a listing makes no call and publishes no record. Of
the call it may be waiting for, only a failure is still published; a page is dropped whole.
What was published before is handed out as ever. The stream is cancelled along with its
caller, but nothing that is done to the stream cancels the caller.
-/

namespace ObjectStore.Listing

namespace Stream

variable {lister : Lister} {s t : Stream}

/-- What a cancelled stream can still come to. -/
structure Halted (lister : Lister) (s t : Stream) : Prop where
  /-- It stays cancelled. -/
  isCancelled : t.isCancelled = true
  /-- No call is made. -/
  requests_eq : t.requests = s.requests
  /-- Until the answer to the call that was being waited for, nothing is published. -/
  waiting {call : PageCall} (h : t.producer = .fetching call) :
    s.producer = .fetching call ∧ t.published = s.published
  /-- Nothing is published but the failure of that call. -/
  published_eq : t.published = s.published ∨
    ∃ call error, s.producer = .fetching call ∧
      lister (s.requests.length - 1) call = .failed error ∧
      t.published = s.published ++ [.error error]

theorem halted_self (lister : Lister) (h : s.isCancelled = true) : Halted lister s s where
  isCancelled := h
  requests_eq := rfl
  waiting hp := ⟨hp, rfl⟩
  published_eq := Or.inl rfl

/-- No step of the producer undoes a cancellation. -/
theorem Halted.step {u : Stream} (h : Halted lister s t) (hs : StepCase lister t u) :
    Halted lister s u := by
  have hc : u.isCancelled = true := hs.isCancelled_eq.trans h.isCancelled
  have hr := h.requests_eq
  have hpub := h.published_eq
  cases hs with
  | ask call hp hf => exact absurd (hf.symm.trans h.isCancelled) Bool.false_ne_true
  | publish record rest next hp hf =>
    exact absurd (hf.symm.trans h.isCancelled) Bool.false_ne_true
  | fail call error hp hreply =>
    obtain ⟨hps, hpubs⟩ := h.waiting hp
    refine ⟨hc, hr, ?_, Or.inr ⟨call, error, hps, ?_, ?_⟩⟩
    · intro call hu
      cases hu
    · rw [← hr]
      exact hreply
    · rw [← hpubs]
  | rest hp => exact h
  | _ =>
    refine ⟨hc, hr, ?_, hpub⟩
    intro call hu
    cases hu

theorem Halted.congr {u : Stream} (h : Halted lister s t) (hp : u.producer = t.producer)
    (hr : u.requests = t.requests) (hpub : u.published = t.published)
    (hc : u.isCancelled = true) : Halted lister s u where
  isCancelled := hc
  requests_eq := hr.trans h.requests_eq
  waiting hu := by
    rw [hpub]
    exact h.waiting (hp.symm.trans hu)
  published_eq := by
    rw [hpub]
    exact h.published_eq

/-- Whatever is done to a cancelled stream, it stays halted. -/
theorem Halted.run (h : Halted lister s t) (moves : List Move) :
    Halted lister s (t.run lister moves).2 := by
  apply run_keeps_of_step _ _ _ _ _ moves h
  · intro t h
    exact h.step (t.stepCase_step lister)
  · intro t h
    exact h.congr rfl rfl rfl h.isCancelled
  · intro t h
    exact h.congr rfl rfl rfl rfl
  · intro t h
    exact h.congr rfl rfl rfl (Bool.or_true _)
  · intro t h
    exact h.congr rfl rfl rfl rfl

/-- A producer that still waits for an answer waits for the one that it waited for. -/
theorem Halted.producer_eq (h : Halted lister s t) (hf : t.producer.isFetching = true) :
    t.producer = s.producer := by
  cases hp : t.producer with
  | fetching call => exact (h.waiting hp).1.symm
  | _ =>
    rw [hp] at hf
    cases hf

/-! ## The caller -/

/-- No other move than the caller's own cancels the caller. -/
theorem callerCancelled_move (lister : Lister) (s : Stream) (m : Move) :
    (s.move lister m).callerCancelled = true ↔ s.callerCancelled = true ∨ m = .cancelCaller := by
  by_cases hm : m = .cancelCaller
  · subst hm
    simp [move, cancelCaller]
  · have hsame : (s.move lister m).callerCancelled = s.callerCancelled := by
      cases m with
      | step => exact (s.move_flags lister rfl).2.1
      | advance => exact (s.move_flags lister rfl).2.1
      | read => rw [move, read_snd]
      | cancelCaller => exact absurd rfl hm
      | _ => rfl
    rw [hsame]
    exact (or_iff_left hm).symm

theorem callerCancelled_run (lister : Lister) (s : Stream) (moves : List Move) :
    (s.run lister moves).2.callerCancelled = true ↔
      s.callerCancelled = true ∨ .cancelCaller ∈ moves := by
  induction moves generalizing s with
  | nil => simp
  | cons m moves ih =>
    rw [run_cons_snd, ih, callerCancelled_move, List.mem_cons, or_assoc, eq_comm (a := m)]

/-! ## The reader -/

/-- A reader who keeps the stream gets what is published, in order, each time there is some. -/
theorem published_take_prefix (lister : Lister) (bucket : String) (options : ListOptions)
    (callerCancelled : Bool) {before after : List Move}
    (hm : ∀ m ∈ before ++ after, m.isLettingGo = false) :
    let s := (start bucket options callerCancelled).run lister before
    let last := (start bucket options callerCancelled).run lister (before ++ after)
    s.2.published.take (s.1.length + after.count .read) <+: last.1 ∧
      last.1 <+: last.2.published := by
  intro s last
  have hbefore : ∀ m ∈ before, m.isLettingGo = false := by
    intro m h
    exact hm m (List.mem_append_left after h)
  have hrest : ∀ m ∈ after, m.isLettingGo = false := by
    intro m h
    exact hm m (List.mem_append_right before h)
  obtain ⟨new, hnew, hread⟩ :=
    (start bucket options callerCancelled).run_delivers lister hbefore
  obtain ⟨all, hall, hreadAll⟩ := (start bucket options callerCancelled).run_delivers lister hm
  have hs : s.1 ++ s.2.unread = s.2.published := hread.trans hnew.symm
  have hlast : last.1 ++ last.2.unread = last.2.published := hreadAll.trans hall.symm
  have hafter := s.2.take_unread_prefix_handed lister hrest
  have hsplit : last.1 = s.1 ++ (s.2.run lister after).1 :=
    congrArg Prod.fst (run_append (start bucket options callerCancelled) before after)
  constructor
  · rw [← hs, List.take_length_add_append, hsplit]
    exact (List.prefix_append_right_inj s.1).mpr hafter
  · exact ⟨last.2.unread, hlast⟩

end Stream

/-! ## Whole listings -/

theorem callerCancelled_settle (lister : Lister) (permits : Nat) (s : Stream) :
    (settle lister permits s).2.callerCancelled = s.callerCancelled := by
  induction permits generalizing s with
  | zero => rfl
  | succ permits ih =>
    rw [settle]
    split
    · rw [ih]
      exact (s.move_flags (m := .advance) lister rfl).2.1
    · rfl

namespace Session

@[simp] theorem callerCancelled_settle (s : Session) :
    s.settle.stream.callerCancelled = s.stream.callerCancelled := by
  unfold settle
  split <;> exact Listing.callerCancelled_settle ..

theorem callerCancelled_close (s : Session) :
    s.close.2.stream.callerCancelled = s.stream.callerCancelled := by
  rw [close, callerCancelled_settle]
  rfl

theorem callerCancelled_take (s : Session) (limit : Nat) :
    (s.take limit).2.stream.callerCancelled = s.stream.callerCancelled := by
  unfold take
  rw [callerCancelled_close]
  split
  · rfl
  · exact callerCancelled_settle _

theorem callerCancelled_takeRemovable (s : Session) :
    s.takeRemovable.2.stream.callerCancelled = s.stream.callerCancelled :=
  callerCancelled_settle _

end Session

/--
A listing from the moment of its cancellation, by whomever, before its start or at any time
after. No call is made, so that the producer waits at most for the answer that it waited for.
No record is published, and nothing else but the failure of that call. A reader who keeps the
stream gets all that was published before, in order and before anything else. At no time is
the caller cancelled but by the caller.
-/
theorem Stream.cancelled_listing (lister : Lister) (bucket : String) (options : ListOptions)
    (callerCancelled : Bool) (before after : List Move) :
    let handed := ((start bucket options callerCancelled).run lister before).1
    let s := ((start bucket options callerCancelled).run lister before).2
    let items := ((start bucket options callerCancelled).run lister (before ++ after)).1
    let last := ((start bucket options callerCancelled).run lister (before ++ after)).2
    (s.isCancelled = true →
      last.isCancelled = true ∧
      last.requests = s.requests ∧
      (last.producer.isFetching = true → last.producer = s.producer) ∧
      (last.published = s.published ∨
        ∃ call error, s.producer = .fetching call ∧
          lister (s.requests.length - 1) call = .failed error ∧
          last.published = s.published ++ [.error error]) ∧
      ((∀ m ∈ before ++ after, m.isLettingGo = false) →
        s.published.take (handed.length + after.count .read) <+: items ∧
          items <+: last.published)) ∧
    (last.callerCancelled = true ↔ callerCancelled = true ∨ .cancelCaller ∈ before ++ after) ∧
    ∀ (session : Session) (limit : Nat),
      session.close.2.stream.callerCancelled = session.stream.callerCancelled ∧
      (session.take limit).2.stream.callerCancelled = session.stream.callerCancelled ∧
      session.takeRemovable.2.stream.callerCancelled = session.stream.callerCancelled := by
  intro handed s items last
  constructor
  · intro hc
    have hlast : Halted lister s last := by
      have hrun := (halted_self lister hc).run after
      rwa [← congrArg Prod.snd (run_append _ before after)] at hrun
    refine ⟨hlast.isCancelled, hlast.requests_eq, hlast.producer_eq, hlast.published_eq, ?_⟩
    intro hm
    exact published_take_prefix lister bucket options callerCancelled hm
  · constructor
    · exact callerCancelled_run lister _ (before ++ after)
    · intro session limit
      exact ⟨session.callerCancelled_close, session.callerCancelled_take limit,
        session.callerCancelled_takeRemovable⟩

/-- Cancelled before an empty page comes in, a listing does not go on with its token. -/
theorem Stream.cancelled_listing_empty_page :
    let lister := scripted
      [.page { objects := [{ key := "a", size := 1 }], next := some "t" },
        .page { next := some "u" }]
    let stream := start "bucket" { keyPrefix := "" }
    let before : List Move := [.advance, .advance, .cancel]
    let after : List Move := [.advance, .read]
    (stream.run lister before).2.isCancelled = true ∧
    (stream.run lister (before ++ after)).2.requests = (stream.run lister before).2.requests ∧
    [.ok { key := "a", size := 1 }] <+: (stream.run lister (before ++ after)).1 := by
  intro lister stream before after
  have hc : (stream.run lister before).2.isCancelled = true := rfl
  have hm : ∀ m ∈ before ++ after, m.isLettingGo = false := by decide
  obtain ⟨hcancelled, _⟩ :=
    Stream.cancelled_listing lister "bucket" { keyPrefix := "" } false before after
  obtain ⟨_, hrequests, _, _, hread⟩ := hcancelled hc
  exact ⟨hc, hrequests, (hread hm).1⟩

end ObjectStore.Listing
