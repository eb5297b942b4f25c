import Mathlib.Data.List.Infix
import ObjectStore.Proofs.Listing.Moves

/-!
# Every published item is handed out in order

Whatever is published joins the end of what is unread, and the reader takes from its
front. As long as the reader holds the stream, what was handed out and what is unread
are together what was published, and reading often enough hands it all out.
-/

namespace ObjectStore.Listing.Stream

variable (lister : Lister)

/-- A step publishes for the reader whatever it publishes at all. -/
theorem StepCase.delivers {lister : Lister} {s t : Stream} (h : StepCase lister s t) :
    ∃ new, t.published = s.published ++ new ∧ t.unread = s.unread ++ new := by
  cases h with
  | fail call error => exact ⟨[.error error], rfl, rfl⟩
  | publish record => exact ⟨[.ok record], rfl, rfl⟩
  | _ => exact ⟨[], (List.append_nil _).symm, (List.append_nil _).symm⟩

/-- Unless the reader gives up the stream, a move loses nothing that is published. -/
theorem move_delivers (s : Stream) {m : Move} (hm : m.isLettingGo = false) :
    ∃ new, (s.move lister m).published = s.published ++ new ∧
      (s.handed? m).toList ++ (s.move lister m).unread = s.unread ++ new := by
  cases m with
  | step => exact (s.stepCase_step lister).delivers
  | advance =>
    let grown (t : Stream) : Prop :=
      ∃ new, t.published = s.published ++ new ∧ t.unread = s.unread ++ new
    have hstep : ∀ t, grown t → grown (t.step lister) := by
      rintro t ⟨new, hp, hu⟩
      obtain ⟨more, hp', hu'⟩ := (t.stepCase_step lister).delivers
      exact ⟨new ++ more, by rw [hp', hp, List.append_assoc], by rw [hu', hu, List.append_assoc]⟩
    exact advance_of_step hstep (s.stepCase_step lister).delivers
  | read =>
    refine ⟨[], ?_, ?_⟩
    · rw [move, read_snd, List.append_nil]
    · rw [move, read_snd, handed?, List.append_nil]
      cases s.unread <;> rfl
  | cancel => exact ⟨[], (List.append_nil _).symm, (List.append_nil _).symm⟩
  | cancelCaller => exact ⟨[], (List.append_nil _).symm, (List.append_nil _).symm⟩
  | drop => cases hm
  | close => cases hm

/-- The producer publishes for the reader whatever it publishes at all. -/
theorem produce_delivers (s : Stream) {m : Move} (hm : m.isProducing = true) :
    ∃ new, (s.move lister m).published = s.published ++ new ∧
      (s.move lister m).unread = s.unread ++ new := by
  cases m with
  | step => exact s.move_delivers lister rfl
  | advance => exact s.move_delivers lister rfl
  | _ => cases hm

/-- What was unread and what is published since are handed out, or still unread. -/
theorem run_delivers (s : Stream) {moves : List Move} (hm : ∀ m ∈ moves, m.isLettingGo = false) :
    ∃ new, (s.run lister moves).2.published = s.published ++ new ∧
      (s.run lister moves).1 ++ (s.run lister moves).2.unread = s.unread ++ new := by
  induction moves generalizing s with
  | nil => exact ⟨[], (List.append_nil _).symm, (List.append_nil _).symm⟩
  | cons m moves ih =>
    obtain ⟨new, hp, hu⟩ := s.move_delivers lister (hm m List.mem_cons_self)
    obtain ⟨more, hp', hu'⟩ := ih (s.move lister m) fun m' h => hm m' (List.mem_cons_of_mem m h)
    refine ⟨new ++ more, ?_, ?_⟩
    · rw [run_cons_snd, hp', hp, List.append_assoc]
    · rw [run_cons_fst, run_cons_snd, List.append_assoc, hu', ← List.append_assoc, hu,
        List.append_assoc]

/-- Each reading hands out what is unread for as long as there is any. -/
theorem take_unread_prefix_handed (s : Stream) {moves : List Move}
    (hm : ∀ m ∈ moves, m.isLettingGo = false) :
    s.unread.take (moves.count .read) <+: (s.run lister moves).1 := by
  induction moves generalizing s with
  | nil => exact List.nil_prefix
  | cons m moves ih =>
    have hrest := ih (s.move lister m) fun m' h => hm m' (List.mem_cons_of_mem m h)
    by_cases he : m = .read
    · subst he
      rw [List.count_cons_self, run_cons_fst, handed?]
      rw [move, read_snd] at hrest ⊢
      cases hu : s.unread with
      | nil => exact List.nil_prefix
      | cons item rest =>
        rw [hu, List.tail_cons] at hrest
        rw [List.take_succ_cons, List.head?_cons, Option.toList_some, List.tail_cons,
          List.singleton_append]
        exact List.cons_prefix_cons.mpr ⟨rfl, hrest⟩
    · obtain ⟨new, _, hu⟩ := s.move_delivers lister (hm m List.mem_cons_self)
      have hn : s.handed? m = none := by
        cases m with
        | read => exact absurd rfl he
        | _ => rfl
      rw [hn, Option.toList_none, List.nil_append] at hu
      rw [List.count_cons_of_ne he, run_cons_fst, hn, Option.toList_none, List.nil_append]
      rw [hu] at hrest
      exact (List.IsPrefix.take (List.prefix_append s.unread new) _).trans hrest

/-- What is handed out by a listing that its reader keeps begins what is published; the rest is unread. -/
theorem kept_handed_append_unread (bucket : String) (options : ListOptions)
    (callerCancelled : Bool) {moves : List Move} (hm : ∀ m ∈ moves, m.isLettingGo = false) :
    ((start bucket options callerCancelled).run lister moves).1 ++
        ((start bucket options callerCancelled).run lister moves).2.unread =
      ((start bucket options callerCancelled).run lister moves).2.published := by
  obtain ⟨new, hp, hu⟩ := (start bucket options callerCancelled).run_delivers lister hm
  rw [hp, hu]
  rfl

/-- Where nothing more is published, a reader who keeps the listing gets all of it in time. -/
theorem kept_handed_eq_published (bucket : String) (options : ListOptions)
    (callerCancelled : Bool) {moves more : List Move} {items : List Item}
    (hm : ∀ m ∈ moves ++ more, m.isLettingGo = false)
    (hbefore : ((start bucket options callerCancelled).run lister moves).2.published = items)
    (hafter :
      ((start bucket options callerCancelled).run lister (moves ++ more)).2.published = items)
    (hr : items.length ≤ more.count .read) :
    ((start bucket options callerCancelled).run lister (moves ++ more)).1 = items ∧
      ((start bucket options callerCancelled).run lister (moves ++ more)).2.unread = [] := by
  have hmoves : ∀ m ∈ moves, m.isLettingGo = false := by
    intro m h
    exact hm m (List.mem_append_left more h)
  have hmore : ∀ m ∈ more, m.isLettingGo = false := by
    intro m h
    exact hm m (List.mem_append_right moves h)
  have hfirst :=
    (kept_handed_append_unread lister bucket options callerCancelled hmoves).trans hbefore
  have htotal := (kept_handed_append_unread lister bucket options callerCancelled hm).trans hafter
  have hread := ((start bucket options callerCancelled).run lister moves).2.take_unread_prefix_handed
    lister hmore
  have hshort :
      ((start bucket options callerCancelled).run lister moves).2.unread.length ≤ items.length := by
    rw [← hfirst, List.length_append]
    exact Nat.le_add_left _ _
  rw [List.take_of_length_le (hshort.trans hr)] at hread
  obtain ⟨rest, hrest⟩ := hread
  rw [run_append] at htotal ⊢
  rw [← hrest, ← List.append_assoc, hfirst, List.append_assoc] at htotal
  obtain ⟨hnil, hunread⟩ := List.append_eq_nil_iff.mp (List.self_eq_append_right.mp htotal.symm)
  refine ⟨?_, hunread⟩
  rw [← hrest, ← List.append_assoc, hfirst, hnil, List.append_nil]

/-- A reader finds the end where nothing is unread and the producer is done. -/
theorem read_fst_eq_ended_iff (s : Stream) :
    s.read.1 = .ended ↔ s.unread = [] ∧ s.producer.isAlive = false := by
  unfold read
  cases s.unread with
  | nil => cases s.producer.isAlive <;> simp
  | cons item rest => simp

/-! ## The error that ends a stream -/

/-- What is published are records, and after them an error only if the producer is done. -/
def Orderly (s : Stream) : Prop :=
  ∃ (records : List ObjectEntry) (error? : Option Error),
    s.published = records.map .ok ++ error?.toList.map .error ∧
      (s.producer.isAlive = true → error? = none)

theorem orderly_start (bucket : String) (options : ListOptions) (callerCancelled : Bool) :
    (start bucket options callerCancelled).Orderly :=
  ⟨[], none, rfl, fun _ => rfl⟩

/-- A live producer has published records only. -/
theorem Orderly.records {s : Stream} (h : s.Orderly) (ha : s.producer.isAlive = true) :
    ∃ records : List ObjectEntry, s.published = records.map .ok := by
  obtain ⟨records, error?, hpub, hnone⟩ := h
  refine ⟨records, ?_⟩
  rw [hpub, hnone ha]
  exact List.append_nil _

theorem StepCase.orderly {lister : Lister} {s t : Stream} (hs : StepCase lister s t)
    (h : s.Orderly) : t.Orderly := by
  have hlive (call : PageCall) (hp : s.producer = .fetching call) :
      s.producer.isAlive = true := by
    rw [hp]
    rfl
  cases hs with
  | rest hp => exact h
  | fail call error hp =>
    obtain ⟨records, hpub⟩ := h.records (hlive call hp)
    exact ⟨records, some error, congrArg (· ++ _) hpub, fun ha => absurd ha Bool.false_ne_true⟩
  | publish record rest next hp =>
    obtain ⟨records, hpub⟩ := h.records (by rw [hp]; rfl)
    refine ⟨records ++ [record], none, ?_, fun _ => rfl⟩
    simp [hpub]
  | _ =>
    obtain ⟨records, hpub⟩ := h.records (by simp [Producer.isAlive, *])
    exact ⟨records, none, hpub.trans (List.append_nil _).symm, fun _ => rfl⟩

/-- Whatever the moves, nothing is published after an error. -/
theorem Orderly.run {s : Stream} (h : s.Orderly) (moves : List Move) :
    (s.run lister moves).2.Orderly := by
  apply run_keeps_of_step _ _ _ _ _ moves h
  · intro s h
    exact (s.stepCase_step lister).orderly h
  all_goals
    intro s h
    exact h

/-- Where an error comes next, it is all there is. -/
theorem Orderly.eq_nil_of_error {s : Stream} (h : s.Orderly) {taken : List ObjectEntry}
    {error : Error} {rest : List Item}
    (hpub : s.published = taken.map .ok ++ .error error :: rest) :
    rest = [] ∧ s.producer.isAlive = false := by
  obtain ⟨records, error?, hrecords, hnone⟩ := h
  have hsplit : ∀ taken records : List ObjectEntry,
      (taken.map .ok ++ .error error :: rest : List Item) =
        records.map .ok ++ error?.toList.map .error →
      rest = [] ∧ error? = some error := by
    intro taken
    induction taken with
    | nil =>
      intro records heq
      cases records <;> cases error? <;> simp_all
    | cons entry taken ih =>
      intro records heq
      cases records with
      | nil => cases error? <;> simp at heq
      | cons record records => exact ih records (List.cons.inj heq).2
  obtain ⟨hnil, hsome⟩ := hsplit taken records (hpub.symm.trans hrecords)
  refine ⟨hnil, ?_⟩
  cases ha : s.producer.isAlive with
  | false => rfl
  | true =>
    rw [hnone ha] at hsome
    cases hsome

end ObjectStore.Listing.Stream
