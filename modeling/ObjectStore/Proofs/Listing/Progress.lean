import ObjectStore.Proofs.Listing.Course
import ObjectStore.Proofs.Listing.Delivery

/-!
# A listing comes to its end

Each move of a live producer takes it further: it makes a call, takes in an answer,
publishes an item, turns to what comes next, or stops. The calls and the items of a
sequence that ends are finitely many, so that enough moves of the producer, whatever comes
between them, bring the listing to its end.
-/

namespace ObjectStore.Listing

/-- How far the producer is with the call it is at: waiting, publishing, about to go on, or done. -/
def Producer.phase : Producer → Nat
  | fetching _ => 0
  | publishing _ _ => 1
  | ready _ => 2
  | ended => 3
  | died _ => 3

theorem Producer.phase_le_three (p : Producer) : p.phase ≤ 3 := by
  cases p <;> simp [phase]

theorem Producer.phase_le_two {p : Producer} (h : p.isAlive = true) : p.phase ≤ 2 := by
  cases p with
  | ended => cases h
  | died words => cases h
  | _ => simp [phase]

/-- A move that does not cancel leaves the reader with the stream. -/
theorem Move.isLettingGo_eq_false {m : Move} (h : m.isCancelling = false) :
    m.isLettingGo = false := by
  cases m with
  | drop => cases h
  | close => cases h
  | _ => rfl

namespace Stream

variable {lister : Lister} {s : Stream}

/-- A move that does not cancel leaves the stream uncancelled. -/
theorem move_isCancelled {m : Move} (hm : m.isCancelling = false) (h : s.isCancelled = false) :
    (s.move lister m).isCancelled = false := by
  have hproduce (hm : m.isProducing = true) : (s.move lister m).isCancelled = false := by
    obtain ⟨hc, hcc, _⟩ := s.move_flags lister hm
    rw [isCancelled, hc, hcc]
    exact h
  cases m with
  | step => exact hproduce rfl
  | advance => exact hproduce rfl
  | read =>
    rw [move, read_snd]
    exact h
  | cancel => cases hm
  | cancelCaller => cases hm
  | drop => cases hm
  | close => cases hm

theorem run_isCancelled {moves : List Move} (hm : ∀ m ∈ moves, m.isCancelling = false)
    (h : s.isCancelled = false) : (s.run lister moves).2.isCancelled = false := by
  apply run_keeps (P := fun t => t.isCancelled = false) _ h
  intro t m hmem ht
  exact move_isCancelled (hm m hmem) ht

/-! ## Done for good -/

theorem StepCase.not_isAlive {t : Stream} (hs : StepCase lister s t)
    (h : s.producer.isAlive = false) : t.producer.isAlive = false := by
  cases hs <;> simp_all [Producer.isAlive]

/-- A producer that is done does nothing. -/
theorem move_of_not_isAlive (lister : Lister) {m : Move} (hm : m.isProducing = true)
    (h : s.producer.isAlive = false) : s.move lister m = s := by
  have hstep : s.step lister = s := by
    unfold step
    cases hp : s.producer with
    | ended => rfl
    | died words => rfl
    | _ =>
      rw [hp] at h
      cases h
  cases m with
  | step => exact hstep
  | advance =>
    rw [move, advance, hstep]
    cases hp : s.producer with
    | ended => rfl
    | died words => rfl
    | _ =>
      rw [hp] at h
      cases h
  | _ => cases hm

/-- A producer that is done stays done. -/
theorem move_not_isAlive (lister : Lister) (m : Move) (h : s.producer.isAlive = false) :
    (s.move lister m).producer.isAlive = false := by
  apply move_keeps (P := fun t => t.producer.isAlive = false) _ _ _ _ _ m h
  · intro t ht
    exact (t.stepCase_step lister).not_isAlive ht
  all_goals
    intro t ht
    exact ht

theorem run_not_isAlive (moves : List Move) (h : s.producer.isAlive = false) :
    (s.run lister moves).2.producer.isAlive = false := by
  apply run_keeps (P := fun t => t.producer.isAlive = false) _ h
  intro t m _ ht
  exact move_not_isAlive lister m ht

/-! ## Progress -/

/-- How far a listing has come. -/
def progress (s : Stream) : Nat := 3 * s.requests.length + s.published.length + s.producer.phase

/-- Each step of a live producer leads on. -/
theorem StepCase.progress_lt {t : Stream} (hs : StepCase lister s t)
    (ha : s.producer.isAlive = true) : s.progress < t.progress := by
  cases hs with
  | rest hp => exact absurd ha (by rw [hp]; exact Bool.false_ne_true)
  | _ =>
    simp only [progress, finish, List.length_append, List.length_singleton, Producer.phase, *]
    omega

/-- No step leads back. -/
theorem StepCase.progress_le {t : Stream} (hs : StepCase lister s t) :
    s.progress ≤ t.progress := by
  cases ha : s.producer.isAlive with
  | true => exact Nat.le_of_lt (hs.progress_lt ha)
  | false =>
    cases hs with
    | rest hp => exact Nat.le_refl _
    | _ => simp_all [Producer.isAlive]

theorem progress_lt_advance (lister : Lister) (ha : s.producer.isAlive = true) :
    s.progress < (s.advance lister).progress := by
  apply advance_of_step (P := fun t => s.progress < t.progress)
  · intro t ht
    exact ht.trans_le (t.stepCase_step lister).progress_le
  · exact (s.stepCase_step lister).progress_lt ha

/-- Each move of a live producer leads on, and no other move leads back. -/
theorem move_progress (lister : Lister) (m : Move) (ha : s.producer.isAlive = true) :
    s.progress + (if m.isProducing then 1 else 0) ≤ (s.move lister m).progress := by
  cases m with
  | step => exact (s.stepCase_step lister).progress_lt ha
  | advance => exact progress_lt_advance lister ha
  | read =>
    rw [move, read_snd]
    exact Nat.le_refl _
  | _ => exact Nat.le_refl _

/-- A listing whose producer is still at work has come as far as the producer has moved. -/
theorem run_progress {moves : List Move} (ha : (s.run lister moves).2.producer.isAlive = true) :
    s.progress + moves.countP Move.isProducing ≤ (s.run lister moves).2.progress := by
  induction moves generalizing s with
  | nil => exact Nat.le_refl _
  | cons m moves ih =>
    rw [run_cons_snd] at ha ⊢
    have halive : s.producer.isAlive = true := by
      cases hs : s.producer.isAlive with
      | true => rfl
      | false =>
        rw [run_not_isAlive moves (move_not_isAlive lister m hs)] at ha
        cases ha
    have hstep := move_progress lister m halive
    have hrest := ih ha
    rw [List.countP_cons]
    omega

/-- A listing that ends comes no further than its calls and items. -/
theorem Follows.weight_le {first : PageCall} {count : Nat} (h : Follows lister first s)
    (he : lister.EndsWithin first count) :
    s.requests.length ≤ count ∧ s.published.length ≤ (lister.items first count).length := by
  have hreq := h.length_requests_le he
  exact ⟨hreq, (h.published_isPrefix.trans (lister.items_isPrefix first hreq)).length_le⟩

/-- Enough moves of the producer bring a listing that ends to its end. -/
theorem not_isAlive_of_lt_countP {first : PageCall} {count : Nat} {moves : List Move}
    (hf : Follows lister first s) (he : lister.EndsWithin first count)
    (hlt : 3 * count + (lister.items first count).length + 2 <
      s.progress + moves.countP Move.isProducing) :
    (s.run lister moves).2.producer.isAlive = false := by
  cases ha : (s.run lister moves).2.producer.isAlive with
  | false => rfl
  | true =>
    have hprog := hlt.trans_le (run_progress ha)
    obtain ⟨hreq, hpub⟩ := (hf.run moves).weight_le he
    have hphase := Producer.phase_le_two ha
    rw [progress] at hprog
    omega

end Stream

end ObjectStore.Listing
