import Mathlib.Algebra.Order.BigOperators.Group.List
import ObjectStore.Proofs.Listing.Sessions
import ObjectStore.Proofs.Listing.Undisturbed

/-!
# The first records of a listing

A reader who takes a limited number of records gets what is settled by the lister alone, in
whatever order it and the producer move. It gets it in time: a producer that has its turn again
and again provides all that is wanted, the reader takes it and lets go, and the producer of
the cancelled stream soon ends. A session that takes records takes one of these courses.
-/

namespace ObjectStore.Listing

namespace Taking

variable {lister : Lister} {first : PageCall} {read : List Item} {t : Taking}

/-! ## Coming to a result -/

/-- The reader need not wait for a record: as many as it wants are unread, or no more will come. -/
def IsProvided (t : Taking) : Prop :=
  ∀ taken, t.taker = .reading taken →
    t.stream.producer.isAlive = false ∨ t.limit ≤ taken.length + t.stream.unread.length

/-- A number of turns in which a reader who need not wait lets go of the stream. -/
def wanted (t : Taking) : Nat :=
  match t.taker with
  | .reading taken => t.limit - taken.length + 1
  | _ => 0

/-- A producer that has come far enough has provided for the reader. -/
theorem Sound.isProvided (h : Sound lister first read t) {count : Nat}
    (hs : lister.Settles first read.length t.limit count)
    (hlt : 3 * count + (lister.items first count).length + 2 < t.stream.progress) :
    t.IsProvided := by
  intro taken ht
  cases ha : t.stream.producer.isAlive with
  | false => exact .inl rfl
  | true =>
    right
    have hphase := Producer.phase_le_two ha
    have hmany : count < t.stream.requests.length := by
      by_contra hfew
      have hle := (h.follows.published_isPrefix.trans
        (lister.items_isPrefix first (Nat.le_of_not_lt hfew))).length_le
      rw [Stream.progress] at hlt
      omega
    rcases hs with hends | hlong
    · exact absurd (h.follows.length_requests_le hends) (Nat.not_le_of_lt hmany)
    · have hle := ((lister.items_isPrefix first (Nat.le_sub_one_of_lt hmany)).trans
        h.answered).length_le
      cases h.stands with
      | reading other ho hr =>
        cases ht.symm.trans ho
        rw [hr.published_eq, List.length_append, List.length_append, List.length_map] at hle
        omega
      | settled outcome other ho => rcases ho with ho | ho <;> cases ht.symm.trans ho

/-- A reader who is provided for stays so, and each of its turns leads on. -/
theorem IsProvided.move (h : t.IsProvided) (lister : Lister) (m : Move) :
    (t.move lister m).IsProvided ∧
      (t.move lister m).wanted ≤ t.wanted - if m = .take then 1 else 0 := by
  have hproduce {m : Listing.Move} (hm : m.isProducing = true) :
      IsProvided { t with stream := t.stream.move lister m } := by
    intro taken ht
    rcases h taken ht with ha | hmany
    · exact .inl (Stream.move_not_isAlive lister m ha)
    · obtain ⟨new, _, hunread⟩ := t.stream.produce_delivers lister hm
      right
      rw [hunread, List.length_append, ← Nat.add_assoc]
      exact Nat.le_add_right_of_le hmany
  cases m with
  | step => exact ⟨hproduce (m := .step) rfl, Nat.le_refl _⟩
  | advance => exact ⟨hproduce (m := .advance) rfl, Nat.le_refl _⟩
  | cancelCaller => exact ⟨h, Nat.le_refl _⟩
  | take =>
    rw [Taking.move, if_pos rfl]
    have hcase := t.takeCase_take
    generalize t.take = u at hcase ⊢
    have hover (outcome : Except Error (List ObjectEntry)) : (t.letGo outcome).IsProvided := by
      intro taken ht
      cases ht
    cases hcase with
    | record taken entry rest ht hl hu =>
      refine ⟨?_, ?_⟩
      · intro other ho
        cases ho
        refine (h taken ht).imp_right fun hmany => ?_
        rw [hu] at hmany
        simp only [List.length_append, List.length_cons, List.length_nil] at hmany ⊢
        omega
      · simp only [wanted, ht, List.length_append, List.length_singleton]
        omega
    | error => exact ⟨hover _, Nat.zero_le _⟩
    | ended => exact ⟨hover _, Nat.zero_le _⟩
    | full => exact ⟨hover _, Nat.zero_le _⟩
    | wait taken ht hl hu ha =>
      rcases h taken ht with hd | hmany
      · rw [ha] at hd
        cases hd
      · rw [hu] at hmany
        exact absurd hl (Nat.not_lt.mpr hmany)
    | join outcome ht => exact ⟨h, by simp [wanted, ht]⟩
    | give outcome ht =>
      refine ⟨?_, Nat.zero_le _⟩
      intro taken ho
      cases ho
    | rest result ht => exact ⟨h, by simp [wanted, ht]⟩

theorem IsProvided.run (h : t.IsProvided) (lister : Lister) (moves : List Move) :
    (t.run lister moves).IsProvided ∧
      (t.run lister moves).wanted ≤ t.wanted - moves.count .take := by
  induction moves generalizing t with
  | nil => exact ⟨h, Nat.le_refl _⟩
  | cons m moves ih =>
    obtain ⟨hmove, hless⟩ := h.move lister m
    obtain ⟨hrest, hle⟩ := ih hmove
    refine ⟨hrest, ?_⟩
    rw [run_cons, List.count_cons]
    simp only [beq_iff_eq]
    omega

/-- A reader who has let go of a listing that is at its end gives its result at its next turn. -/
theorem result_of_take_mem {moves : List Move} (hw : t.wanted = 0)
    (ha : t.stream.producer.isAlive = false) (hm : .take ∈ moves) :
    (t.run lister moves).result?.isSome = true := by
  have hprovided : t.IsProvided := fun taken ht => .inl ha
  induction moves generalizing t with
  | nil => cases hm
  | cons m moves ih =>
    rw [run_cons]
    by_cases htake : m = .take
    · have hdone : ∃ result, (t.move lister m).taker = .done result := by
        subst htake
        rw [move, take]
        cases ht : t.taker with
        | reading taken => simp [wanted, ht] at hw
        | closing outcome => exact ⟨_, by simp [ha]; rfl⟩
        | done result => exact ⟨result, ht⟩
      obtain ⟨result, hdone⟩ := hdone
      rw [result?_eq_some_iff.mpr (taker_run_of_done hdone moves)]
      rfl
    · obtain ⟨streamMoves, hstream, _⟩ := t.move_stream lister m
      have hover : (t.move lister m).stream.producer.isAlive = false := by
        rw [hstream]
        exact Stream.run_not_isAlive streamMoves ha
      obtain ⟨hnext, hless⟩ := hprovided.move lister m
      refine ih ?_ hover ?_ hnext
      · omega
      · exact (List.mem_cons.mp hm).resolve_left (Ne.symm htake)

/--
A reader gets its result where the producer moves often enough to provide for it, then the reader
often enough to take what it wants, and then the producer again to come to its end.
-/
theorem Sound.result_of_turns (h : Sound lister first read t) (hl : lister.NeverCrashes)
    {count : Nat} (hs : lister.Settles first read.length t.limit count)
    {provide want join give : List Move} (hm : .cancelCaller ∉ provide ++ want)
    (hprovide : 3 * count + (lister.items first count).length + 2 <
      provide.countP Move.isProducing)
    (hwant : t.limit < want.count .take) (hjoin : 3 ≤ join.countP Move.isProducing)
    (hgive : .take ∈ give) :
    (t.run lister (provide ++ want ++ join ++ give)).result?.isSome = true := by
  rw [List.mem_append, not_or] at hm
  have hprovide : (t.run lister provide).IsProvided := by
    obtain ⟨streamMoves, hstream, hcount⟩ := t.run_stream lister provide
    cases ha : (t.run lister provide).stream.producer.isAlive with
    | false => exact fun _ _ => .inl ha
    | true =>
      have hs' : lister.Settles first read.length (t.run lister provide).limit count := by
        rwa [limit_run]
      refine (h.run hl hm.1).isProvided hs' ?_
      rw [hstream] at ha ⊢
      have hprogress := Stream.run_progress ha
      omega
  rw [run_append, run_append, run_append]
  have hstart : (t.run lister provide).wanted ≤ t.limit + 1 := by
    rw [wanted]
    split
    · rw [limit_run]
      omega
    · exact Nat.zero_le _
  obtain ⟨hwanted, hless⟩ := hprovide.run lister want
  have hzero : ((t.run lister provide).run lister want).wanted = 0 := by omega
  have hcancelled : ((t.run lister provide).run lister want).stream.isCancelled = true := by
    cases ((h.run hl hm.1).run hl hm.2).stands with
    | reading taken ht => simp [wanted, ht] at hzero
    | settled outcome other ht hc => exact hc
  obtain ⟨streamMoves, hstream, hcount⟩ :=
    ((t.run lister provide).run lister want).run_stream lister join
  have hlast := (hwanted.run lister join).2
  refine result_of_take_mem (by omega) ?_ hgive
  rw [hstream]
  exact Stream.not_isAlive_of_isCancelled lister hcancelled (by omega)

/-- Rounds in each of which something happens make it happen as often as there are rounds. -/
theorem length_le_countP_flatten {p : Move → Bool} {rounds : List (List Move)}
    (h : ∀ round ∈ rounds, ∃ m ∈ round, p m = true) :
    rounds.length ≤ rounds.flatten.countP p := by
  rw [List.countP_flatten]
  refine (List.length_map (List.countP p)).symm.le.trans (List.length_le_sum_of_one_le _ ?_)
  intro count hcount
  obtain ⟨round, hround, rfl⟩ := List.mem_map.mp hcount
  exact List.countP_pos_iff.mpr (h round hround)

/-- A reader gets its result where it and the producer both have their turn in every round. -/
theorem Sound.result_of_rounds (h : Sound lister first read t) (hl : lister.NeverCrashes)
    {count : Nat} (hs : lister.Settles first read.length t.limit count)
    {rounds : List (List Move)} (hm : ∀ round ∈ rounds, .cancelCaller ∉ round)
    (htake : ∀ round ∈ rounds, .take ∈ round)
    (hproduce : ∀ round ∈ rounds, ∃ m ∈ round, m.isProducing = true)
    (hlong : 3 * count + (lister.items first count).length + t.limit + 8 ≤ rounds.length) :
    (t.run lister rounds.flatten).result?.isSome = true := by
  let provide := rounds.take (3 * count + (lister.items first count).length + 3)
  let others := rounds.drop (3 * count + (lister.items first count).length + 3)
  let want := others.take (t.limit + 1)
  let join := (others.drop (t.limit + 1)).take 3
  let give := (others.drop (t.limit + 1)).drop 3
  have hsplit : rounds = provide ++ want ++ join ++ give := by
    simp only [provide, want, join, give, others, List.append_assoc, List.take_append_drop]
  have hmem {round : List Move}
      (hr : round ∈ provide ∨ round ∈ want ∨ round ∈ join ∨ round ∈ give) : round ∈ rounds := by
    rw [hsplit]
    simp only [List.mem_append]
    tauto
  have hproduces {some : List (List Move)} (hsub : ∀ round ∈ some, round ∈ rounds) :
      some.length ≤ some.flatten.countP Move.isProducing :=
    length_le_countP_flatten fun round hr => hproduce round (hsub round hr)
  have hprovide := hproduces fun round hr => hmem (.inl hr)
  have hjoin := hproduces fun round hr => hmem (.inr (.inr (.inl hr)))
  have hwant : want.length ≤ want.flatten.count .take :=
    length_le_countP_flatten fun round hr =>
      ⟨.take, htake round (hmem (.inr (.inl hr))), beq_self_eq_true _⟩
  have hgive : .take ∈ give.flatten := by
    have hpos : 0 < give.length := by
      simp only [give, others, List.length_drop]
      omega
    refine List.mem_flatten.mpr ⟨give[0], List.getElem_mem hpos, ?_⟩
    exact htake _ (hmem (.inr (.inr (.inr (List.getElem_mem hpos)))))
  have hlength : provide.length = 3 * count + (lister.items first count).length + 3 ∧
      want.length = t.limit + 1 ∧ join.length = 3 := by
    simp only [provide, want, join, others, List.length_take, List.length_drop]
    omega
  rw [hsplit, List.flatten_append, List.flatten_append, List.flatten_append]
  refine h.result_of_turns hl hs ?_ (by omega) (by omega) (by omega) hgive
  rw [← List.flatten_append]
  intro hcancel
  obtain ⟨round, hround, hin⟩ := List.mem_flatten.mp hcancel
  rcases List.mem_append.mp hround with hr | hr
  · exact hm round (hmem (.inl hr)) hin
  · exact hm round (hmem (.inr (.inl hr))) hin

/-! ## Listings -/

/-- What a reader has read of an undisturbed listing begins what is settled of it. -/
theorem handed_isPrefix_of_settles (lister : Lister) (bucket : String) (options : ListOptions)
    {before : List Listing.Move} (hb : ∀ m ∈ before, m.isCancelling = false) {limit count : Nat}
    (hs : lister.Settles { bucket, options }
      ((Stream.start bucket options).run lister before).1.length limit count) :
    ((Stream.start bucket options).run lister before).1 <+:
      lister.items { bucket, options } count := by
  rcases hs with hends | hlong
  · refine Stream.handed_isPrefix lister bucket options hb ?_
    exact ((Stream.follows_start lister bucket options false).run before).length_requests_le hends
  · obtain hle | hle := Nat.le_total
      ((Stream.start bucket options).run lister before).2.requests.length count
    · exact Stream.handed_isPrefix lister bucket options hb hle
    · refine List.prefix_of_prefix_length_le
        (Stream.handed_isPrefix lister bucket options hb (Nat.le_refl _))
        (lister.items_isPrefix _ hle) (by omega)

/-- A reader who has read any number of items of an undisturbed listing has lost nothing of it. -/
theorem sound_start_of_run (lister : Lister) (bucket : String) (options : ListOptions)
    {before : List Listing.Move} (hl : lister.NeverCrashes)
    (hb : ∀ m ∈ before, m.isCancelling = false) (limit : Nat) :
    Sound lister { bucket, options } ((Stream.start bucket options).run lister before).1
      (start limit ((Stream.start bucket options).run lister before).2) := by
  have hfirst := Stream.follows_start lister bucket options false
  have hkeep : ∀ m ∈ before, m.isLettingGo = false := by
    intro m hm
    exact Move.isLettingGo_eq_false (hb m hm)
  refine sound_start limit (hfirst.run before)
    ((Stream.orderly_start bucket options false).run lister before)
    (hfirst.answered_run List.prefix_rfl before)
    (Stream.not_died_run hl (by simp [Stream.start]) before)
    (Stream.run_held rfl hkeep) (Stream.run_isCancelled hb rfl) ?_
  exact (Stream.handed_append_unread lister bucket options hb).symm

/--
The first records of a listing that nobody has cancelled, of which any number of items was read
before, for a lister that does not break down. What is left to read is settled by enough calls:
all that the listing needs, or as many as bring the records that are wanted. Whatever the order of
the moves, the result is an error exactly where this error comes after fewer records than are
wanted, and otherwise the first of what is left. It comes in time where producer and reader both
have their turn in every round, and once it is there no call is made any more. What a session
takes is such a result.
-/
theorem taken_of_listing (lister : Lister) (bucket : String) (options : ListOptions)
    (before : List Listing.Move) (limit : Nat) (moves : List Move) (hl : lister.NeverCrashes)
    (hb : ∀ m ∈ before, m.isCancelling = false) (hm : .cancelCaller ∉ moves) :
    let first : PageCall := { bucket, options }
    let handed := ((Stream.start bucket options).run lister before).1
    let s := ((Stream.start bucket options).run lister before).2
    let left := fun count => (lister.items first count).drop handed.length
    let t := (start limit s).run lister moves
    (∀ count, lister.Settles first handed.length limit count →
      lister.items first count = handed ++ left count ∧
      (∀ result, t.result? = some result →
        (∀ error, result = .error error ↔ ∃ records : List ObjectEntry,
          records.length < limit ∧ records.map .ok ++ [.error error] <+: left count) ∧
        ∀ records, result = .ok records ↔ (left count).take limit = records.map .ok) ∧
      ∀ rounds : List (List Move), (∀ round ∈ rounds, .cancelCaller ∉ round) →
        (∀ round ∈ rounds, .take ∈ round) →
        (∀ round ∈ rounds, ∃ m ∈ round, m.isProducing = true) →
        3 * count + (lister.items first count).length + limit + 8 ≤ rounds.length →
        (t.run lister rounds.flatten).result?.isSome = true) ∧
    (∀ result, t.result? = some result →
      (∃ count, lister.Settles first handed.length limit count) ∧
      ∀ more, (t.run lister more).result? = some result ∧
        (t.run lister more).stream.requests = t.stream.requests) ∧
    ∀ script permits, lister = scripted script → s.producer.Waits →
      ∃ course, .cancelCaller ∉ course ∧ ((start limit s).run lister course).result? =
        some ((⟨script, permits, s⟩ : Session).take limit).1 := by
  intro first handed s left t
  have hstart : Sound lister first handed (start limit s) :=
    sound_start_of_run lister bucket options hl hb limit
  have hsound : Sound lister first handed t := hstart.run hl hm
  have hlimit : t.limit = limit := limit_run lister (start limit s) moves
  refine ⟨?_, ?_, ?_⟩
  · intro count hs
    have hs' : lister.Settles first handed.length t.limit count := hlimit.symm ▸ hs
    refine ⟨?_, ?_, ?_⟩
    · exact (List.prefix_iff_eq_append.mp
        (handed_isPrefix_of_settles lister bucket options hb hs)).symm
    · intro result hresult
      obtain ⟨herror, hok⟩ := (hsound.result hresult).2 count hs'
      rw [hlimit] at herror hok
      exact ⟨herror, hok⟩
    · intro rounds hcaller htake hproduce hlong
      exact hsound.result_of_rounds hl hs' hcaller htake hproduce (hlimit.symm ▸ hlong)
  · intro result hresult
    obtain ⟨hsettled, _⟩ := hsound.result hresult
    exact ⟨hlimit ▸ hsettled, hsound.run_of_result hresult⟩
  · rintro script permits rfl hw
    exact exists_run_session hstart.follows hw permits limit

/-- An error right after the last record that is wanted is published, but not given. -/
theorem taken_of_listing_full :
    let lister := scripted
      [.page { objects := [{ key := "a", size := 1 }], next := some "t" },
        .page { objects := [{ key := "b", size := 1 }], next := some "u" },
        .failed (.operation "denied")]
    let before : List Listing.Move := [.advance, .advance, .read]
    let moves : List Move := [.advance, .advance, .take, .take, .take]
    let s := ((Stream.start "bucket" { keyPrefix := "" }).run lister before).2
    let t := (start 1 s).run lister moves
    lister.NeverCrashes ∧ (∀ m ∈ before, m.isCancelling = false) ∧ .cancelCaller ∉ moves ∧
    s.unread = [] ∧ .error (.operation "denied") ∈ t.stream.published ∧
    t.result? = some (.ok [{ key := "b", size := 1 }]) := by
  intro lister before moves s t
  have hl : lister.NeverCrashes := by
    intro number call words
    rcases number with _ | _ | _ | number <;> simp [lister, scripted]
  have hb : ∀ m ∈ before, m.isCancelling = false := by decide
  have hm : .cancelCaller ∉ moves := by decide
  obtain ⟨hsettled, _, _⟩ :=
    taken_of_listing lister "bucket" { keyPrefix := "" } before 1 moves hl hb hm
  obtain ⟨_, hgives, _⟩ := hsettled 4 (.inl (endsWithin_scripted _ _))
  obtain ⟨result, hresult⟩ := Option.isSome_iff_exists.mp
    (show t.result?.isSome = true by decide +kernel)
  have hfirst : ((lister.items { bucket := "bucket", options := { keyPrefix := "" } } 4).drop
      ((Stream.start "bucket" { keyPrefix := "" }).run lister before).1.length).take 1 =
        [({ key := "b", size := 1 } : ObjectEntry)].map .ok := by decide +kernel
  refine ⟨hl, hb, hm, by decide +kernel, by decide +kernel, ?_⟩
  rw [hresult, ((hgives result hresult).2 _).mpr hfirst]

end Taking

end ObjectStore.Listing
