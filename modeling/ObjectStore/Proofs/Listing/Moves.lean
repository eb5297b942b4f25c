import ObjectStore.Listing.Sequence

/-!
# What the moves of a listing do

`StepCase` says once what a step of the producer can do; later facts about steps go
through its cases. A property that steps and the moves of the reader and of the caller
keep holds after every run (`move_keeps`, `run_keeps`).
-/

namespace ObjectStore.Listing

/-- A page leads on to the call that its exchange is followed by. -/
theorem Exchange.map_continuation (call : PageCall) (page : Page) :
    (page.continuation.map fun token => { call with token := some token }) =
      (⟨call, .page page⟩ : Exchange).next? := by
  rcases page with ⟨objects, commonPrefixes, _ | token⟩
  · rfl
  · by_cases he : token = ""
    · subst he
      rfl
    · simp [Page.continuation, next?, he]

namespace Stream

variable {lister : Lister} {s : Stream}

/-- The ways in which a step of the producer changes the stream. -/
inductive StepCase (lister : Lister) (s : Stream) : Stream → Prop where
  /-- No call is made any more. -/
  | stop (call : PageCall) (hp : s.producer = .ready call) (hc : s.isCancelled = true) :
      StepCase lister s s.finish
  /-- A call is made. -/
  | ask (call : PageCall) (hp : s.producer = .ready call) (hc : s.isCancelled = false) :
      StepCase lister s { s with producer := .fetching call, requests := s.requests ++ [call] }
  /-- The call brings a page. -/
  | turn (call : PageCall) (page : Page) (hp : s.producer = .fetching call)
      (hr : lister (s.requests.length - 1) call = .page page) :
      StepCase lister s
        { s with producer := .publishing page.records (⟨call, .page page⟩ : Exchange).next? }
  /-- The call fails, which the reader is told. -/
  | fail (call : PageCall) (error : Error) (hp : s.producer = .fetching call)
      (hr : lister (s.requests.length - 1) call = .failed error) (hh : s.held = true) :
      StepCase lister s { s with
        producer := .ended
        published := s.published ++ [.error error]
        unread := s.unread ++ [.error error] }
  /-- The call fails, and there is nobody to be told. -/
  | failUnheard (call : PageCall) (error : Error) (hp : s.producer = .fetching call)
      (hr : lister (s.requests.length - 1) call = .failed error) (hh : s.held = false) :
      StepCase lister s s.finish
  /-- The lister breaks down. -/
  | crash (call : PageCall) (words : String) (hp : s.producer = .fetching call)
      (hr : lister (s.requests.length - 1) call = .crashed words) :
      StepCase lister s { s with producer := .died words }
  /-- A record is published. -/
  | publish (record : ObjectEntry) (rest : List ObjectEntry) (next : Option PageCall)
      (hp : s.producer = .publishing (record :: rest) next)
      (hc : s.isCancelled = false) (hh : s.held = true) :
      StepCase lister s { s with
        producer := .publishing rest next
        published := s.published ++ [.ok record]
        unread := s.unread ++ [.ok record] }
  /-- The rest of a page is dropped. -/
  | discard (record : ObjectEntry) (rest : List ObjectEntry) (next : Option PageCall)
      (hp : s.producer = .publishing (record :: rest) next)
      (hc : s.isCancelled = true ∨ s.held = false) :
      StepCase lister s s.finish
  /-- A page is followed by another one. -/
  | goOn (next : PageCall) (hp : s.producer = .publishing [] (some next)) :
      StepCase lister s { s with producer := .ready next }
  /-- The last page is dealt with. -/
  | last (hp : s.producer = .publishing [] none) : StepCase lister s s.finish
  /-- There is nothing left to do. -/
  | rest (hp : s.producer.isAlive = false) : StepCase lister s s

theorem stepCase_step (lister : Lister) (s : Stream) : StepCase lister s (s.step lister) := by
  unfold step
  split
  case h_1 call hp =>
    rw [request]
    split
    · next hc => exact .stop call hp hc
    · next hc => exact .ask call hp (by simpa using hc)
  case h_2 call hp =>
    cases hr : lister (s.requests.length - 1) call with
    | page page =>
      simp only [receive, Exchange.map_continuation]
      exact .turn call page hp hr
    | failed error =>
      simp only [receive, Stream.publish]
      split
      · next hh => exact .fail call error hp hr hh
      · next hh => exact .failUnheard call error hp hr (by simpa using hh)
    | crashed words => exact .crash call words hp hr
  case h_3 next hp => exact .goOn next hp
  case h_4 hp => exact .last hp
  case h_5 record rest next hp =>
    split
    · next hc =>
      refine .discard record rest next hp ?_
      simpa only [Bool.or_eq_true, Bool.not_eq_true'] using hc
    · next hc =>
      simp only [Bool.or_eq_true, Bool.not_eq_true', not_or, Bool.not_eq_true,
        Bool.not_eq_false] at hc
      rw [Stream.publish, if_pos hc.2]
      exact .publish record rest next hp hc.1 hc.2
  case h_6 hp => exact .rest (by rw [hp]; rfl)
  case h_7 hp => exact .rest (by rw [hp]; rfl)

/-- Steps of the producer neither cancel nor let go. -/
theorem StepCase.flags {t : Stream} (h : StepCase lister s t) :
    t.cancelled = s.cancelled ∧ t.callerCancelled = s.callerCancelled ∧ t.held = s.held := by
  cases h <;> exact ⟨rfl, rfl, rfl⟩

theorem StepCase.isCancelled_eq {t : Stream} (h : StepCase lister s t) :
    t.isCancelled = s.isCancelled := by
  rw [isCancelled, h.flags.1, h.flags.2.1, isCancelled]

/-! ## Single moves -/

@[simp] theorem read_snd (s : Stream) : s.read.2 = { s with unread := s.unread.tail } := by
  unfold read
  split
  case h_1 item rest h => rw [h, List.tail_cons]
  case h_2 h => rw [h, List.tail_nil, ← h]

/-- What holds after one step and is kept by steps holds at the next wait. -/
theorem advance_of_step {P : Stream → Prop} (hstep : ∀ t, P t → P (t.step lister))
    (h : P (s.step lister)) : P (s.advance lister) := by
  have hsteps : ∀ (count : Nat) (t : Stream), P t → P (steps lister count t) := by
    intro count
    induction count with
    | zero =>
      intro t h
      exact h
    | succ count ih =>
      intro t h
      exact ih _ (hstep t h)
  exact hsteps _ _ h

/-- The producer neither cancels nor lets go. -/
theorem move_flags (lister : Lister) (s : Stream) {m : Move} (hm : m.isProducing = true) :
    (s.move lister m).cancelled = s.cancelled ∧
      (s.move lister m).callerCancelled = s.callerCancelled ∧
      (s.move lister m).held = s.held := by
  have hstep (t : Stream) := (t.stepCase_step lister).flags
  cases m with
  | step => exact hstep s
  | advance =>
    let same (t : Stream) : Prop :=
      t.cancelled = s.cancelled ∧ t.callerCancelled = s.callerCancelled ∧ t.held = s.held
    have hsame : ∀ t, same t → same (t.step lister) := by
      rintro t ⟨hc, hcc, hh⟩
      obtain ⟨hc', hcc', hh'⟩ := hstep t
      exact ⟨hc'.trans hc, hcc'.trans hcc, hh'.trans hh⟩
    exact advance_of_step hsame (hstep s)
  | _ => cases hm

/-- What is kept by steps, by reading, by cancelling and by letting go is kept by every move. -/
theorem move_keeps {P : Stream → Prop} (hstep : ∀ s, P s → P (s.step lister))
    (hread : ∀ s, P s → P { s with unread := s.unread.tail }) (hcancel : ∀ s, P s → P s.cancel)
    (hcaller : ∀ s, P s → P s.cancelCaller) (hdrop : ∀ s, P s → P s.drop)
    (m : Move) (h : P s) : P (s.move lister m) := by
  cases m with
  | step => exact hstep s h
  | advance => exact advance_of_step hstep (hstep s h)
  | read =>
    rw [move, read_snd]
    exact hread s h
  | cancel => exact hcancel s h
  | cancelCaller => exact hcaller s h
  | drop => exact hdrop s h
  | close => exact hdrop _ (hcancel s h)

/-! ## Runs -/

@[simp] theorem run_nil (s : Stream) : s.run lister [] = ([], s) := rfl

@[simp] theorem run_cons_fst (s : Stream) (m : Move) (moves : List Move) :
    (s.run lister (m :: moves)).1 =
      (s.handed? m).toList ++ ((s.move lister m).run lister moves).1 := rfl

@[simp] theorem run_cons_snd (s : Stream) (m : Move) (moves : List Move) :
    (s.run lister (m :: moves)).2 = ((s.move lister m).run lister moves).2 := rfl

/-- A run goes on from where its first part ends. -/
theorem run_append (s : Stream) (before after : List Move) :
    s.run lister (before ++ after) =
      ((s.run lister before).1 ++ ((s.run lister before).2.run lister after).1,
        ((s.run lister before).2.run lister after).2) := by
  induction before generalizing s with
  | nil => rfl
  | cons m before ih =>
    rw [List.cons_append]
    ext1
    · rw [run_cons_fst, ih, run_cons_fst, run_cons_snd, List.append_assoc]
    · rw [run_cons_snd, ih, run_cons_snd]

/-- What each move of a run keeps holds at its end. -/
theorem run_keeps {P : Stream → Prop} {moves : List Move}
    (hmove : ∀ s, ∀ m ∈ moves, P s → P (s.move lister m)) (h : P s) :
    P (s.run lister moves).2 := by
  induction moves generalizing s with
  | nil => exact h
  | cons m moves ih =>
    rw [run_cons_snd]
    exact ih (fun s m' hm' => hmove s m' (List.mem_cons_of_mem m hm'))
      (hmove s m List.mem_cons_self h)

/-- What steps, reading, cancelling and letting go keep holds at the end of every run. -/
theorem run_keeps_of_step {P : Stream → Prop} (hstep : ∀ s, P s → P (s.step lister))
    (hread : ∀ s, P s → P { s with unread := s.unread.tail }) (hcancel : ∀ s, P s → P s.cancel)
    (hcaller : ∀ s, P s → P s.cancelCaller) (hdrop : ∀ s, P s → P s.drop)
    (moves : List Move) (h : P s) : P (s.run lister moves).2 :=
  run_keeps (fun _ m _ hs => move_keeps hstep hread hcancel hcaller hdrop m hs) h

end Stream

end ObjectStore.Listing
