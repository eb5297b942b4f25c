import ObjectStore.Listing.Session
import ObjectStore.Proofs.Listing.Cancellation
import ObjectStore.Proofs.Listing.Progress

/-!
# How a cancelled listing ends

A cancelled listing is at its end after at most three moves of its producer. A reader who keeps
it gets what was published before the cancellation, and after that nothing but the error of
the call that was outstanding, if this call fails: the producer looks at the cancellation before
it publishes a record, but not before it publishes an error.
-/

namespace ObjectStore.Listing

namespace Stream

variable {lister : Lister} {s t : Stream}

/-- The error that the answer which the producer waits for brings, if it brings one. -/
def impending? (lister : Lister) (s : Stream) : Option Error :=
  match s.producer with
  | .fetching call => (⟨call, lister (s.requests.length - 1) call⟩ : Exchange).error?
  | _ => none

/-- What a cancelled stream has published once it is at its end. -/
def final (lister : Lister) (s : Stream) : List Item :=
  s.published ++ (s.impending? lister).toList.map .error

theorem impending?_of_not_fetching (h : ∀ call, s.producer ≠ .fetching call) :
    s.impending? lister = none := by
  unfold impending?
  split
  · next call hp => exact absurd hp (h call)
  · rfl

/-- At its end a stream has published all that it ever publishes. -/
theorem final_of_not_isAlive (h : s.producer.isAlive = false) :
    s.final lister = s.published := by
  have hnone : s.impending? lister = none := by
    apply impending?_of_not_fetching
    intro call hp
    rw [hp] at h
    cases h
  rw [final, hnone]
  exact List.append_nil _

/-! ## What a cancelled stream still publishes -/

/-- A step of a cancelled stream publishes what was impending, or nothing. -/
theorem StepCase.final_eq (hs : StepCase lister s t) (hc : s.isCancelled = true)
    (hh : s.held = true) : t.final lister = s.final lister := by
  -- Outside a call nothing is impending, so that it is enough to compare what is published.
  have hidle {u : Stream} (hu : ∀ call, u.producer ≠ .fetching call) :
      u.final lister = u.published := by
    rw [final, impending?_of_not_fetching hu]
    exact List.append_nil _
  have hwaiting {call : PageCall} (hp : s.producer = .fetching call) :
      s.impending? lister =
        (⟨call, lister (s.requests.length - 1) call⟩ : Exchange).error? := by
    rw [impending?, hp]
  cases hs with
  | ask call hp hf => exact absurd (hf.symm.trans hc) Bool.false_ne_true
  | publish record rest next hp hf => exact absurd (hf.symm.trans hc) Bool.false_ne_true
  | failUnheard call error hp hreply hf => exact absurd (hf.symm.trans hh) Bool.false_ne_true
  | rest hp => rfl
  | fail call error hp hreply =>
    rw [hidle (by simp), final, hwaiting hp, hreply]
    rfl
  | turn call page hp hreply =>
    rw [hidle (by simp), final, hwaiting hp, hreply]
    exact (List.append_nil _).symm
  | crash call words hp hreply =>
    rw [hidle (by simp), final, hwaiting hp, hreply]
    exact (List.append_nil _).symm
  | goOn next hp => rw [hidle (by simp), hidle (by simp [hp])]
  | _ =>
    rw [hidle (by simp [finish]), hidle (by simp [*])]
    rfl

/-- A cancelled stream that is kept, as it was at some moment of its cancellation. -/
structure Bound (lister : Lister) (s t : Stream) : Prop where
  /-- It stays cancelled. -/
  isCancelled : t.isCancelled = true
  /-- Its reader keeps it. -/
  held : t.held = true
  /-- What it comes to is settled. -/
  final_eq : t.final lister = s.final lister

theorem Bound.step (h : Bound lister s t) : Bound lister s (t.step lister) where
  isCancelled := (t.stepCase_step lister).isCancelled_eq.trans h.isCancelled
  held := (t.stepCase_step lister).flags.2.2.trans h.held
  final_eq := ((t.stepCase_step lister).final_eq h.isCancelled h.held).trans h.final_eq

/-- Unless its reader gives it up, whatever is done to a cancelled stream leaves it its end. -/
theorem Bound.run {moves : List Move} (h : Bound lister s t)
    (hm : ∀ m ∈ moves, m.isLettingGo = false) : Bound lister s (t.run lister moves).2 := by
  apply run_keeps _ h
  intro u m hmem hu
  have hkeep := hm m hmem
  cases m with
  | step => exact hu.step
  | advance => exact advance_of_step (fun _ => Bound.step) hu.step
  | read =>
    rw [move, read_snd]
    exact ⟨hu.isCancelled, hu.held, hu.final_eq⟩
  | cancel => exact ⟨rfl, hu.held, hu.final_eq⟩
  | cancelCaller => exact ⟨Bool.or_true _, hu.held, hu.final_eq⟩
  | drop => cases hkeep
  | close => cases hkeep

/-- Whatever is done to a listing, its reader holds it until it is given up. -/
theorem run_held {moves : List Move} (h : s.held = true)
    (hm : ∀ m ∈ moves, m.isLettingGo = false) : (s.run lister moves).2.held = true := by
  apply run_keeps (P := fun t => t.held = true) _ h
  intro u m hmem hu
  have hkeep := hm m hmem
  cases m with
  | step => exact (u.move_flags (m := .step) lister rfl).2.2.trans hu
  | advance => exact (u.move_flags (m := .advance) lister rfl).2.2.trans hu
  | read =>
    rw [move, read_snd]
    exact hu
  | cancel => exact hu
  | cancelCaller => exact hu
  | drop => cases hkeep
  | close => cases hkeep

/-! ## How soon a cancelled stream is at its end -/

/-- A producer in its last phase is done. -/
theorem not_isAlive_of_phase (h : 3 ≤ s.producer.phase) : s.producer.isAlive = false := by
  cases ha : s.producer.isAlive with
  | false => rfl
  | true => exact absurd (h.trans (Producer.phase_le_two ha)) (by decide)

/-- The producer of a cancelled stream passes through its phases once. -/
theorem StepCase.phase_lt (hs : StepCase lister s t) (hc : s.isCancelled = true) :
    min 3 (s.producer.phase + 1) ≤ t.producer.phase := by
  cases hs with
  | ask call hp hf => exact absurd (hf.symm.trans hc) Bool.false_ne_true
  | publish record rest next hp hf => exact absurd (hf.symm.trans hc) Bool.false_ne_true
  | rest hp =>
    cases hps : s.producer with
    | ended => decide
    | died words => exact Nat.min_le_left _ _
    | _ =>
      rw [hps] at hp
      cases hp
  | _ => simp [finish, Producer.phase, *]

/-- Each move of the producer of a cancelled stream takes it to a further phase. -/
theorem move_phase (lister : Lister) (m : Move) (hc : s.isCancelled = true) :
    min 3 (s.producer.phase + if m.isProducing then 1 else 0) ≤
      (s.move lister m).producer.phase := by
  cases m with
  | step => exact (s.stepCase_step lister).phase_lt hc
  | advance =>
    let further (t : Stream) : Prop :=
      t.isCancelled = true ∧ min 3 (s.producer.phase + 1) ≤ t.producer.phase
    have hstep : ∀ t, further t → further (t.step lister) := by
      rintro t ⟨ht, hp⟩
      have hs := t.stepCase_step lister
      refine ⟨hs.isCancelled_eq.trans ht, ?_⟩
      have hlt := hs.phase_lt ht
      omega
    have hfirst : further (s.step lister) :=
      ⟨(s.stepCase_step lister).isCancelled_eq.trans hc, (s.stepCase_step lister).phase_lt hc⟩
    exact (advance_of_step hstep hfirst).2
  | read =>
    rw [move, read_snd]
    exact Nat.min_le_right _ _
  | _ => exact Nat.min_le_right _ _

theorem run_phase (lister : Lister) (moves : List Move) (hc : s.isCancelled = true) :
    min 3 (s.producer.phase + moves.countP Move.isProducing) ≤
      (s.run lister moves).2.producer.phase := by
  induction moves generalizing s with
  | nil => exact Nat.min_le_right _ _
  | cons m moves ih =>
    have hcancelled : (s.move lister m).isCancelled = true :=
      ((halted_self lister hc).run [m]).isCancelled
    have hmove := move_phase lister m hc
    have hrest := ih hcancelled
    rw [run_cons_snd, List.countP_cons]
    omega

/-- Three moves of its producer bring a cancelled stream to its end. -/
theorem not_isAlive_of_isCancelled (lister : Lister) {moves : List Move}
    (hc : s.isCancelled = true) (hmoves : 3 ≤ moves.countP Move.isProducing) :
    (s.run lister moves).2.producer.isAlive = false := by
  have hphase := run_phase lister moves hc
  exact not_isAlive_of_phase (by omega)

/-! ## What the reader gets -/

/--
The end of a listing that was cancelled, before its start or at any time after, by its reader or
its caller, and that its reader keeps. The reader gets what was published before the cancellation,
and then finds the end; only if the call that was outstanding fails, its error comes in between.
At no time does the reader get another error than one published before, or that one. The end
is there after three moves of the producer and as many readings as there are items.
-/
theorem cancelled_listing_ends (lister : Lister) (bucket : String) (options : ListOptions)
    (callerCancelled : Bool) (before after : List Move)
    (hm : ∀ m ∈ before ++ after, m.isLettingGo = false)
    (hc : ((start bucket options callerCancelled).run lister before).2.isCancelled = true) :
    let s := ((start bucket options callerCancelled).run lister before).2
    let items := ((start bucket options callerCancelled).run lister (before ++ after)).1
    let last := ((start bucket options callerCancelled).run lister (before ++ after)).2
    (last.read.1 = .ended → items = s.published ++ (s.impending? lister).toList.map .error) ∧
    items <+: s.published ++ (s.impending? lister).toList.map .error ∧
    (3 ≤ after.countP Move.isProducing → ∀ more, (∀ m ∈ more, m.isLettingGo = false) →
      s.published.length + 1 ≤ more.count .read →
      ((start bucket options callerCancelled).run lister (before ++ after ++ more)).1 =
        s.published ++ (s.impending? lister).toList.map .error ∧
      ((start bucket options callerCancelled).run lister (before ++ after ++ more)).2.read.1 =
        .ended) := by
  intro s items last
  change (last.read.1 = .ended → items = s.final lister) ∧ items <+: s.final lister ∧ _
  have hbefore : ∀ m ∈ before, m.isLettingGo = false := by
    intro m h
    exact hm m (List.mem_append_left after h)
  have hafter : ∀ m ∈ after, m.isLettingGo = false := by
    intro m h
    exact hm m (List.mem_append_right before h)
  have hself : Bound lister s s := ⟨hc, run_held rfl hbefore, rfl⟩
  have hlast : Bound lister s last := by
    have hrun := hself.run hafter
    rwa [← congrArg Prod.snd (run_append _ before after)] at hrun
  have hitems : items ++ last.unread = last.published :=
    kept_handed_append_unread lister bucket options callerCancelled hm
  have hpublished : last.published <+: s.final lister := by
    rw [← hlast.final_eq]
    exact List.prefix_append ..
  refine ⟨?_, ?_, ?_⟩
  · intro hend
    obtain ⟨hunread, hd⟩ := (read_fst_eq_ended_iff last).mp hend
    rw [hunread, List.append_nil] at hitems
    rw [hitems, ← hlast.final_eq, final_of_not_isAlive hd]
  · exact (List.prefix_append items last.unread).trans (hitems ▸ hpublished)
  · intro hmoves more hmore hr
    have hall : ∀ m ∈ before ++ after ++ more, m.isLettingGo = false := by
      intro m h
      exact (List.mem_append.mp h).elim (hm m) (hmore m)
    have hd : last.producer.isAlive = false := by
      have hrun := not_isAlive_of_isCancelled lister hc hmoves
      rwa [← congrArg Prod.snd (run_append _ before after)] at hrun
    have hrest : Bound lister s
        ((start bucket options callerCancelled).run lister (before ++ after ++ more)).2 := by
      have hrun := hlast.run hmore
      rwa [← congrArg Prod.snd (run_append _ (before ++ after) more)] at hrun
    have hd' : ((start bucket options callerCancelled).run lister
        (before ++ after ++ more)).2.producer.isAlive = false := by
      rw [run_append]
      exact run_not_isAlive more hd
    have hshort : (s.final lister).length ≤ more.count .read := by
      have hone : (s.impending? lister).toList.length ≤ 1 := by
        cases s.impending? lister <;> simp
      rw [final, List.length_append, List.length_map]
      omega
    obtain ⟨hread, hunread⟩ := kept_handed_eq_published lister bucket options callerCancelled hall
      ((final_of_not_isAlive hd).symm.trans hlast.final_eq)
      ((final_of_not_isAlive hd').symm.trans hrest.final_eq) hshort
    exact ⟨hread, (read_fst_eq_ended_iff _).mpr ⟨hunread, hd'⟩⟩

/-- Cancelled while a call is outstanding that fails, a listing tells its reader of the failure. -/
theorem cancelled_listing_ends_failing :
    let lister := scripted
      [.page { objects := [{ key := "a", size := 0 }], next := some "1" },
        .failed (.transport "connection reset by peer")]
    let stream := start "bucket" { keyPrefix := "" }
    let before : List Move := [.advance, .advance, .read, .cancel]
    let after : List Move := [.advance, .read]
    (∀ m ∈ before ++ after, m.isLettingGo = false) ∧
    (stream.run lister before).2.isCancelled = true ∧
    (stream.run lister (before ++ after)).2.read.1 = .ended ∧
    (stream.run lister (before ++ after)).1 = (stream.run lister before).2.published ++
      [.error (.transport "connection reset by peer")] := by
  intro lister stream before after
  have hm : ∀ m ∈ before ++ after, m.isLettingGo = false := by decide
  have hc : (stream.run lister before).2.isCancelled = true := rfl
  have hend : (stream.run lister (before ++ after)).2.read.1 = .ended :=
    (read_fst_eq_ended_iff _).mpr (by decide +kernel)
  obtain ⟨hitems, _⟩ :=
    cancelled_listing_ends lister "bucket" { keyPrefix := "" } false before after hm hc
  exact ⟨hm, hc, hend, hitems hend⟩

/-- A cancelled listing need not end with what was published before its cancellation. -/
theorem exists_error_after_cancellation :
    ¬ ∀ (lister : Lister) (bucket : String) (options : ListOptions) (before after : List Move),
      (∀ m ∈ before ++ after, m.isLettingGo = false) →
      ((start bucket options).run lister before).2.isCancelled = true →
      ((start bucket options).run lister (before ++ after)).2.read.1 = .ended →
      ((start bucket options).run lister (before ++ after)).1 =
        ((start bucket options).run lister before).2.published := by
  intro h
  have hfail := h (scripted [.failed (.transport "connection reset by peer")]) "bucket"
    { keyPrefix := "" } [.advance, .cancel] [.advance, .read] (by decide) rfl rfl
  cases hfail

end Stream

end ObjectStore.Listing
