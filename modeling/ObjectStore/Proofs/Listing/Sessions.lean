import ObjectStore.Listing.Session
import ObjectStore.Proofs.Listing.Ending
import ObjectStore.Proofs.Listing.Taking

/-!
# Sessions take one of the courses of their listing

A session lets the producer run from wait to wait, and against a script the producer comes to
its end within one call more than the script has answers. A session that takes records is
therefore one way in which a reader and a producer can move: the producer to its end if the
reader has to wait, the reader until it lets go, and the producer again.
-/

namespace ObjectStore.Listing

/-- The producer waits for an answer, or is done. -/
def Producer.Waits (p : Producer) : Prop := p.isFetching = true ∨ p.isAlive = false

theorem Producer.exists_of_isFetching {p : Producer} (h : p.isFetching = true) :
    ∃ call, p = .fetching call := by
  cases p with
  | fetching call => exact ⟨call, rfl⟩
  | _ => cases h

namespace Stream

variable {lister : Lister} {s : Stream}

/-! ## From wait to wait -/

theorem steps_of_not_isAlive (h : s.producer.isAlive = false) (count : Nat) :
    steps lister count s = s := by
  have hstep : s.step lister = s := move_of_not_isAlive lister (m := .step) rfl h
  induction count with
  | zero => rfl
  | succ count ih => rw [steps, hstep, ih]

/-- A call that is due is made, or is the end. -/
theorem waits_request (s : Stream) (call : PageCall) : (s.request call).producer.Waits := by
  rw [request]
  split
  · exact .inr rfl
  · exact .inl rfl

/-- A producer with records to publish is soon at its next wait. -/
theorem waits_steps_of_publishing {records : List ObjectEntry} {next : Option PageCall}
    (hp : s.producer = .publishing records next) :
    (steps lister (records.length + 2) s).producer.Waits := by
  induction records generalizing s with
  | nil =>
    cases next with
    | none =>
      have hstep : s.step lister = s.finish := by rw [step, hp]
      rw [List.length_nil, Nat.zero_add, steps, hstep, steps_of_not_isAlive rfl]
      exact .inr rfl
    | some call =>
      have hstep : s.step lister = { s with producer := .ready call } := by rw [step, hp]
      rw [List.length_nil, Nat.zero_add, steps, hstep]
      exact waits_request _ call
  | cons record rest ih =>
    rw [List.length_cons, Nat.add_right_comm, steps]
    by_cases hc : (s.isCancelled || !s.held) = true
    · have hstep : s.step lister = s.finish := by
        rw [step, hp]
        exact if_pos hc
      rw [hstep, steps_of_not_isAlive rfl]
      exact .inr rfl
    · have hstep : s.step lister =
          { s.publish (.ok record) with producer := .publishing rest next } := by
        rw [step, hp]
        exact if_neg hc
      rw [hstep]
      exact ih rfl

/-- The producer moves on to a wait, or to its end. -/
theorem waits_advance (lister : Lister) (s : Stream) : (s.advance lister).producer.Waits := by
  rw [advance]
  generalize s.step lister = t
  cases hp : t.producer with
  | ready call =>
    have hstep : t.step lister = t.request call := by rw [step, hp]
    rw [Producer.stepsToWait, steps, hstep]
    exact waits_request t call
  | fetching call => exact .inl (congrArg Producer.isFetching hp)
  | publishing records next => exact waits_steps_of_publishing hp
  | ended => exact .inr (congrArg Producer.isAlive hp)
  | died words => exact .inr (congrArg Producer.isAlive hp)

/-- Once it has its answer, the producer of a cancelled stream comes to its end in one go. -/
theorem not_isAlive_advance (lister : Lister) (s : Stream) (hc : s.isCancelled = true) :
    (s.advance lister).producer.isAlive = false := by
  refine (waits_advance lister s).resolve_left fun hf => ?_
  obtain ⟨call, hcall⟩ := Producer.exists_of_isFetching hf
  have hphase := move_phase lister .advance hc
  rw [move, hcall] at hphase
  simp [Listing.Move.isProducing, Producer.phase] at hphase

/-- How many calls the producer has made, and how far it is with the last one. -/
def stage (s : Stream) : Nat := 3 * s.requests.length + s.producer.phase

theorem StepCase.stage_le {t : Stream} (hs : StepCase lister s t) : s.stage ≤ t.stage := by
  cases hs with
  | rest => exact Nat.le_refl _
  | _ =>
    simp only [stage, finish, List.length_append, List.length_singleton, Producer.phase, *]
    omega

/-- From a wait to the next one the producer makes a call. -/
theorem length_requests_lt_advance (hf : s.producer.isFetching = true)
    (hw : (s.advance lister).producer.isFetching = true) :
    s.requests.length < (s.advance lister).requests.length := by
  obtain ⟨call, hcall⟩ := Producer.exists_of_isFetching hf
  obtain ⟨next, hnext⟩ := Producer.exists_of_isFetching hw
  have hlt : s.stage < (s.advance lister).stage := by
    apply advance_of_step (P := fun t => s.stage < t.stage)
    · intro t ht
      exact ht.trans_le (t.stepCase_step lister).stage_le
    · have hs := s.stepCase_step lister
      generalize s.step lister = t at hs ⊢
      cases hs with
      | rest hp => simp [hcall, Producer.isAlive] at hp
      | _ => simp_all [stage, finish, Producer.phase]
  rw [stage, stage, hcall, hnext] at hlt
  simp only [Producer.phase] at hlt
  omega

end Stream

/-! ## A script -/

/-- A listing against a script needs at most one call more than there are answers. -/
theorem endsWithin_scripted (script : List Reply) (first : PageCall) :
    (scripted script).EndsWithin first (script.length + 1) := by
  rw [Lister.EndsWithin]
  by_contra hlong
  have hlast := List.getElem?_eq_getElem (Nat.lt_of_not_le hlong)
  obtain ⟨hreply, hnext⟩ := Lister.exchangesFrom_getElem?
    (List.getElem?_eq_getElem (Nat.lt_of_succ_lt (Nat.lt_of_not_le hlong)))
  have hfailed := hnext _ hlast
  have hbeyond (call : PageCall) : scripted script (0 + script.length) call =
      .failed (.other "script exhausted") := by
    simp [scripted]
  rw [Exchange.next?, hreply, hbeyond] at hfailed
  cases hfailed

/-- To let calls be answered is to let the producer move on some number of times. -/
theorem settle_eq_iterate (lister : Lister) (permits : Nat) (s : Stream) :
    ∃ count, (settle lister permits s).2 = (Stream.advance lister)^[count] s := by
  induction permits generalizing s with
  | zero => exact ⟨0, rfl⟩
  | succ permits ih =>
    rw [settle]
    split
    · obtain ⟨count, hcount⟩ := ih (s.advance lister)
      exact ⟨count + 1, hcount⟩
    · exact ⟨0, rfl⟩

theorem settle_of_not_isAlive {lister : Lister} {s : Stream} (h : s.producer.isAlive = false)
    (permits : Nat) : (settle lister permits s).2 = s := by
  have hf : s.producer.isFetching = false := by
    cases hp : s.producer with
    | fetching call =>
      rw [hp] at h
      cases h
    | _ => rfl
  cases permits with
  | zero => rfl
  | succ permits => rw [settle, hf, if_neg Bool.false_ne_true]

/-- More answers than a script has bring the producer to its end. -/
theorem not_isAlive_settle_of_isFetching {script : List Reply} {first : PageCall} {s : Stream}
    (hf : Stream.Follows (scripted script) first s) (hs : s.producer.isFetching = true)
    {permits : Nat} (hp : script.length + 2 ≤ permits + s.requests.length) :
    (settle (scripted script) permits s).2.producer.isAlive = false := by
  induction permits generalizing s with
  | zero =>
    have hle := hf.length_requests_le (endsWithin_scripted script first)
    omega
  | succ permits ih =>
    rw [settle, if_pos hs]
    rcases Stream.waits_advance (scripted script) s with hnext | hend
    · have hlt := Stream.length_requests_lt_advance hs hnext
      exact ih (hf.run [.advance]) hnext (by omega)
    · rwa [settle_of_not_isAlive hend]

/-- As many answers as a script has, and one more, bring a producer at a wait to its end. -/
theorem not_isAlive_settle {script : List Reply} {first : PageCall} {s : Stream}
    (hf : Stream.Follows (scripted script) first s) (hw : s.producer.Waits) :
    (settle (scripted script) (script.length + 1) s).2.producer.isAlive = false := by
  rcases hw with hs | hend
  · obtain ⟨call, hcall⟩ := Producer.exists_of_isFetching hs
    have hst := hf.stands
    rw [Stream.Stands, hcall] at hst
    obtain ⟨number, hnumber, _⟩ := hst
    exact not_isAlive_settle_of_isFetching hf hs (by omega)
  · rwa [settle_of_not_isAlive hend]

/-- A cancelled stream needs no more than one answer. -/
theorem not_isAlive_settle_of_isCancelled (lister : Lister) {s : Stream}
    (hc : s.isCancelled = true) (hw : s.producer.Waits) (permits : Nat) :
    (settle lister (permits + 1) s).2.producer.isAlive = false := by
  rw [settle]
  split
  · have hend := s.not_isAlive_advance lister hc
    rwa [settle_of_not_isAlive hend]
  · next hs => exact hw.resolve_left hs

/-! ## A session that takes records -/

namespace Taking

open Session

variable {lister : Lister} {t : Taking}

theorem run_advances (lister : Lister) (t : Taking) (count : Nat) :
    t.run lister (List.replicate count .advance) =
      { t with stream := (Stream.advance lister)^[count] t.stream } := by
  induction count generalizing t with
  | zero => rfl
  | succ count ih => rw [List.replicate_succ, run_cons, ih, move, Function.iterate_succ_apply]

theorem take_of_full {taken : List ObjectEntry} (ht : t.taker = .reading taken)
    (hl : t.limit ≤ taken.length) : t.take = t.letGo (.ok taken) := by
  simp only [take, ht, if_neg (Nat.not_lt.mpr hl)]

theorem take_of_ended {taken : List ObjectEntry} (ht : t.taker = .reading taken)
    (hl : taken.length < t.limit) (hu : t.stream.unread = [])
    (ha : t.stream.producer.isAlive = false) : t.take = t.letGo (.ok taken) := by
  simp [take, ht, hl, Stream.read, hu, ha]

theorem take_of_error {taken : List ObjectEntry} {error : Error} {rest : List Item}
    (ht : t.taker = .reading taken) (hl : taken.length < t.limit)
    (hu : t.stream.unread = .error error :: rest) : t.take = t.letGo (.error error) := by
  simp only [take, ht, if_pos hl, Stream.read, hu]
  rfl

theorem take_of_record {taken : List ObjectEntry} {entry : ObjectEntry} {rest : List Item}
    (ht : t.taker = .reading taken) (hl : taken.length < t.limit)
    (hu : t.stream.unread = .ok entry :: rest) :
    t.take = { t with
      stream := { t.stream with unread := rest }, taker := .reading (taken ++ [entry]) } := by
  simp only [take, ht, if_pos hl, Stream.read, hu]

/-- A reader who need not wait takes what it finds, and lets go. -/
theorem run_takes (lister : Lister) {taken : List ObjectEntry} {wanted : Nat} {items : List Item}
    (ht : t.taker = .reading taken) (hl : taken.length + wanted = t.limit)
    (hu : t.stream.unread = items)
    (h : (collect wanted items).isSome = true ∨ t.stream.producer.isAlive = false) :
    ∃ count, t.run lister (List.replicate count .take) =
      t.letGo (((collect wanted items).getD (.ok (entries items))).map (taken ++ ·)) := by
  -- The records that are found are those that the session collects, one by one.
  fun_induction collect wanted items generalizing t taken with
  | case1 items =>
    refine ⟨1, (take_of_full ht (Nat.le_of_eq hl.symm)).trans ?_⟩
    simp [Except.map]
  | case2 wanted =>
    have ha : t.stream.producer.isAlive = false := by simpa using h
    refine ⟨1, (take_of_ended ht (by omega) hu ha).trans ?_⟩
    simp [Except.map, entries]
  | case3 wanted error rest => exact ⟨1, take_of_error ht (by omega) hu⟩
  | case4 wanted entry rest ih =>
    have htake := take_of_record ht (by omega) hu
    have hnext : (collect wanted rest).isSome = true ∨ t.take.stream.producer.isAlive = false := by
      rw [htake]
      simpa using h
    have hreading : t.take.taker = .reading (taken ++ [entry]) := by rw [htake]
    have hlimit : (taken ++ [entry]).length + wanted = t.take.limit := by
      rw [htake, List.length_append, List.length_singleton]
      change _ = t.limit
      omega
    obtain ⟨count, hcount⟩ := ih hreading hlimit (by rw [htake]) hnext
    refine ⟨count + 1, ?_⟩
    rw [List.replicate_succ, run_cons]
    refine hcount.trans ?_
    have hsame (outcome : Except Error (List ObjectEntry)) :
        t.take.letGo outcome = t.letGo outcome := by
      rw [htake]
      rfl
    rw [hsame]
    cases collect wanted rest with
    | none => simp [Except.map, entries]
    | some outcome => cases outcome <;> simp [Except.map]

/-- A reader who has let go, and whose producer then comes to its end, gives its result. -/
theorem result?_of_joined (lister : Lister) (t : Taking)
    (outcome : Except Error (List ObjectEntry)) {count : Nat}
    (ha : ((Stream.advance lister)^[count] t.stream.close).producer.isAlive = false) :
    ((t.letGo outcome).run lister (List.replicate count .advance ++ [.take])).result? =
      some (((Stream.advance lister)^[count] t.stream.close).verdict.bind fun _ => outcome) := by
  rw [run_append, run_advances, run_cons, move, take, letGo]
  simp only [ha]
  rfl

/-- What a session takes is the result of one course of reader and producer. -/
theorem exists_run_session {script : List Reply} {first : PageCall} {s : Stream}
    (hf : Stream.Follows (scripted script) first s) (hw : s.producer.Waits)
    (permits : Option Nat) (limit : Nat) :
    ∃ moves, .cancelCaller ∉ moves ∧
      ((start limit s).run (scripted script) moves).result? =
        some ((⟨script, permits, s⟩ : Session).take limit).1 := by
  -- The producer moves first if the reader would have to wait.
  obtain ⟨ready, before, hready, hsame, hprovided, hwaits⟩ :
      ∃ (ready : Stream) (before : Nat),
        ready = (Stream.advance (scripted script))^[before] s ∧
        ((⟨script, permits, s⟩ : Session).take limit).1 =
          ((settle (scripted script) (script.length + 1) ready.close).2.verdict.bind fun _ =>
            (collect limit ready.unread).getD (.ok (entries ready.unread))) ∧
        ((collect limit ready.unread).isSome = true ∨ ready.producer.isAlive = false) ∧
        ready.producer.Waits := by
    cases hc : collect limit s.unread with
    | some outcome =>
      refine ⟨s, 0, rfl, ?_, .inl (by rw [hc]; rfl), hw⟩
      simp only [Session.take, grantAll, hc]
      rfl
    | none =>
      obtain ⟨before, hbefore⟩ := settle_eq_iterate (scripted script) (script.length + 1) s
      have hend := not_isAlive_settle hf hw
      refine ⟨(settle (scripted script) (script.length + 1) s).2, before, hbefore, ?_,
        .inr hend, .inr hend⟩
      simp only [Session.take, grantAll, hc]
      rfl
  have hreading : (start limit ready).taker = .reading [] := rfl
  obtain ⟨takes, htakes⟩ :=
    run_takes (scripted script) hreading (Nat.zero_add limit) rfl hprovided
  have hmap (outcome : Except Error (List ObjectEntry)) : outcome.map ([] ++ ·) = outcome := by
    cases outcome <;> rfl
  rw [hmap] at htakes
  obtain ⟨after, hafter⟩ := settle_eq_iterate (scripted script) (script.length + 1) ready.close
  have hcancelled : ready.close.isCancelled = true := rfl
  have hend :=
    not_isAlive_settle_of_isCancelled (scripted script) hcancelled hwaits script.length
  rw [hafter] at hend
  refine ⟨List.replicate before .advance ++
    (List.replicate takes .take ++ (List.replicate after .advance ++ [.take])), by simp, ?_⟩
  have hfirst : (start limit s).run (scripted script) (List.replicate before .advance) =
      start limit ready := by
    rw [run_advances, hready]
    rfl
  rw [run_append, hfirst, run_append, htakes, hsame, hafter]
  exact result?_of_joined (scripted script) (start limit ready) _ hend

end Taking

end ObjectStore.Listing
