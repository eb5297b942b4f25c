import ObjectStore.Listing.Taking
import ObjectStore.Proofs.Listing.Cancellation
import ObjectStore.Proofs.Listing.Progress

/-!
# What a reader with a limit takes

What a reader gets who wants a limited number of records is said of items alone (`Gives`). A
number of calls of a listing settles it when the listing needs no more of them, or when they
bring as many items as are wanted; all numbers that settle it agree (`front_eq`). Whatever the
order in which producer and reader move, what was taken and what is unread are together what
is published, and once the reader lets go its result is the one that is settled.
-/

namespace ObjectStore.Listing

/-! ## Results -/

/-- What a reader gets from items who wants at most `limit` records of them. -/
structure Gives (limit : Nat) (items : List Item) (result : Except Error (List ObjectEntry)) :
    Prop where
  /-- The result is an error where one comes before there are as many records as are wanted. -/
  error_iff (error : Error) : result = .error error ↔
    ∃ records : List ObjectEntry, records.length < limit ∧
      records.map .ok ++ [.error error] <+: items
  /-- Otherwise the result is the first items, which are all records. -/
  ok_iff (records : List ObjectEntry) : result = .ok records ↔
    items.take limit = records.map .ok

/-- An error comes before there are as many records as are wanted when the first items hold it. -/
theorem error_prefix_take_iff {limit : Nat} {items : List Item} {records : List ObjectEntry}
    {error : Error} :
    records.map .ok ++ [.error error] <+: items.take limit ↔
      records.length < limit ∧ records.map .ok ++ [.error error] <+: items := by
  rw [List.prefix_take_iff, and_comm, List.length_append, List.length_map,
    List.length_singleton, Nat.succ_le_iff]

/-- Items whose first ones are records give these. -/
theorem gives_ok {limit : Nat} {items : List Item} {records : List ObjectEntry}
    (h : items.take limit = records.map .ok) : Gives limit items (.ok records) where
  error_iff error := by
    refine iff_of_false (by simp) ?_
    rintro ⟨before, hlt, hp⟩
    have hmem : (.error error : Item) ∈ items.take limit :=
      (error_prefix_take_iff.mpr ⟨hlt, hp⟩).subset (by simp)
    rw [h] at hmem
    simp at hmem
  ok_iff other := by
    rw [h, (List.map_injective_iff.mpr fun _ _ => Except.ok.inj).eq_iff, Except.ok.injEq]

/-- Only one error comes first. -/
theorem eq_of_error_isPrefix {before after : List ObjectEntry} {error other : Error}
    {items : List Item} (h : before.map .ok ++ [.error error] <+: items)
    (h' : after.map .ok ++ [.error other] <+: items) : error = other := by
  induction items generalizing before after with
  | nil => simp at h
  | cons item items ih =>
    cases before with
    | nil =>
      cases after with
      | nil =>
        simp only [List.map_nil, List.nil_append, List.cons_prefix_cons] at h h'
        exact Except.error.inj (h.1.trans h'.1.symm)
      | cons entry after =>
        simp only [List.map_nil, List.nil_append, List.map_cons, List.cons_append,
          List.cons_prefix_cons] at h h'
        cases h.1.trans h'.1.symm
    | cons record before =>
      cases after with
      | nil =>
        simp only [List.map_nil, List.nil_append, List.map_cons, List.cons_append,
          List.cons_prefix_cons] at h h'
        cases h.1.trans h'.1.symm
      | cons entry after =>
        simp only [List.map_cons, List.cons_append, List.cons_prefix_cons] at h h'
        exact ih h.2 h'.2

/-- Items in which an error comes early enough give it. -/
theorem gives_error {limit : Nat} {items : List Item} {records : List ObjectEntry} {error : Error}
    (hlt : records.length < limit) (h : records.map .ok ++ [.error error] <+: items) :
    Gives limit items (.error error) where
  error_iff other := by
    constructor
    · intro he
      cases he
      exact ⟨records, hlt, h⟩
    · rintro ⟨before, _, hp⟩
      rw [eq_of_error_isPrefix h hp]
  ok_iff others := by
    refine iff_of_false (by simp) fun htake => ?_
    have hmem : (.error error : Item) ∈ items.take limit :=
      (error_prefix_take_iff.mpr ⟨hlt, h⟩).subset (by simp)
    rw [htake] at hmem
    simp at hmem

/-- Only the first items count. -/
theorem Gives.congr {limit : Nat} {items others : List Item}
    {result : Except Error (List ObjectEntry)} (h : Gives limit items result)
    (heq : items.take limit = others.take limit) : Gives limit others result where
  error_iff error := by
    rw [h.error_iff]
    simp only [← error_prefix_take_iff, heq]
  ok_iff records := by rw [h.ok_iff, heq]

/-- So many calls decide what the `limit` items after the first `read` ones are. -/
def Lister.Settles (lister : Lister) (first : PageCall) (read limit count : Nat) : Prop :=
  lister.EndsWithin first count ∨ read + limit ≤ (lister.items first count).length

/-- All numbers of calls that decide it decide it alike. -/
theorem Lister.front_eq {lister : Lister} {first : PageCall} {read limit count other : Nat}
    (h : lister.Settles first read limit count) (h' : lister.Settles first read limit other) :
    ((lister.items first count).drop read).take limit =
      ((lister.items first other).drop read).take limit := by
  have hle {few many : Nat} (hf : lister.Settles first read limit few) (hm : few ≤ many) :
      ((lister.items first few).drop read).take limit =
        ((lister.items first many).drop read).take limit := by
    rcases hf with hends | hlong
    · rw [items, items, hends.exchanges_eq hm]
    · obtain ⟨more, hmore⟩ := lister.items_isPrefix first hm
      rw [← hmore, List.drop_append_of_le_length (by omega),
        List.take_append_of_le_length (by rw [List.length_drop]; omega)]
  rcases Nat.le_total count other with hco | hoc
  · exact hle h hco
  · exact (hle h' hoc).symm

/-- A lister that does not break down. -/
def Lister.NeverCrashes (lister : Lister) : Prop :=
  ∀ number call words, lister number call ≠ .crashed words

namespace Stream

variable {lister : Lister} {s : Stream}

/-- The items of all calls but the last one are published before the last one is made. -/
theorem Follows.answered_run {first : PageCall} (hf : Follows lister first s)
    (h : lister.items first (s.requests.length - 1) <+: s.published) (moves : List Move) :
    lister.items first ((s.run lister moves).2.requests.length - 1) <+:
      (s.run lister moves).2.published := by
  let answered (t : Stream) : Prop :=
    Follows lister first t ∧ lister.items first (t.requests.length - 1) <+: t.published
  suffices hrun : answered (s.run lister moves).2 from hrun.2
  apply run_keeps_of_step _ _ _ _ _ moves ⟨hf, h⟩
  · rintro t ⟨hf, h⟩
    have hs := t.stepCase_step lister
    refine ⟨hs.follows hf, ?_⟩
    have hst := hf.stands
    generalize t.step lister = u at hs ⊢
    cases hs with
    | ask call hp hc =>
      rw [Stands, hp] at hst
      simp only [List.length_append, List.length_singleton, Nat.add_sub_cancel]
      exact hst.2 ▸ List.prefix_rfl
    | fail => exact h.trans (List.prefix_append _ _)
    | publish => exact h.trans (List.prefix_append _ _)
    | _ => exact h
  · rintro t ⟨hf, h⟩
    exact ⟨hf.congr rfl rfl rfl id hf.isCancelled_of_not_held, h⟩
  · rintro t ⟨hf, h⟩
    exact ⟨hf.run [.cancel], h⟩
  · rintro t ⟨hf, h⟩
    exact ⟨hf.run [.cancelCaller], h⟩
  · rintro t ⟨hf, h⟩
    exact ⟨hf.run [.drop], h⟩

/-- A producer dies with its lister only. -/
theorem not_died_run (hl : lister.NeverCrashes) (h : ∀ words, s.producer ≠ .died words)
    (moves : List Move) : ∀ words, (s.run lister moves).2.producer ≠ .died words := by
  apply run_keeps_of_step (P := fun t => ∀ words, t.producer ≠ .died words) _ _ _ _ _ moves h
  · intro t ht words
    have hs := t.stepCase_step lister
    generalize t.step lister = u at hs ⊢
    cases hs with
    | crash call last hp hr => exact absurd hr (hl _ _ _)
    | rest hp => exact ht words
    | _ => simp [finish]
  all_goals
    intro t ht
    exact ht

end Stream

namespace Taking

variable {lister : Lister} {first : PageCall} {read : List Item} {t : Taking}

/-! ## Moves -/

/-- The ways in which the reader's turn changes a taking. -/
inductive TakeCase (t : Taking) : Taking → Prop where
  /-- It takes a record. -/
  | record (taken : List ObjectEntry) (entry : ObjectEntry) (rest : List Item)
      (ht : t.taker = .reading taken) (hl : taken.length < t.limit)
      (hu : t.stream.unread = .ok entry :: rest) :
      TakeCase t
        { t with stream := { t.stream with unread := rest }, taker := .reading (taken ++ [entry]) }
  /-- It meets an error. -/
  | error (taken : List ObjectEntry) (error : Error) (rest : List Item)
      (ht : t.taker = .reading taken) (hl : taken.length < t.limit)
      (hu : t.stream.unread = .error error :: rest) : TakeCase t (t.letGo (.error error))
  /-- There is nothing to take yet. -/
  | wait (taken : List ObjectEntry) (ht : t.taker = .reading taken) (hl : taken.length < t.limit)
      (hu : t.stream.unread = []) (ha : t.stream.producer.isAlive = true) : TakeCase t t
  /-- It meets the end. -/
  | ended (taken : List ObjectEntry) (ht : t.taker = .reading taken)
      (hl : taken.length < t.limit) (hu : t.stream.unread = [])
      (ha : t.stream.producer.isAlive = false) : TakeCase t (t.letGo (.ok taken))
  /-- It has all the records that it wants. -/
  | full (taken : List ObjectEntry) (ht : t.taker = .reading taken)
      (hl : t.limit ≤ taken.length) : TakeCase t (t.letGo (.ok taken))
  /-- The producer has not ended yet. -/
  | join (outcome : Except Error (List ObjectEntry)) (ht : t.taker = .closing outcome)
      (ha : t.stream.producer.isAlive = true) : TakeCase t t
  /-- It gives its result. -/
  | give (outcome : Except Error (List ObjectEntry)) (ht : t.taker = .closing outcome)
      (ha : t.stream.producer.isAlive = false) :
      TakeCase t { t with taker := .done (t.stream.verdict.bind fun _ => outcome) }
  /-- It is done. -/
  | rest (result : Except Error (List ObjectEntry)) (ht : t.taker = .done result) : TakeCase t t

theorem takeCase_take (t : Taking) : TakeCase t t.take := by
  unfold take
  cases ht : t.taker with
  | done result => exact .rest result ht
  | closing outcome =>
    cases ha : t.stream.producer.isAlive with
    | true => exact .join outcome ht ha
    | false => exact .give outcome ht ha
  | reading taken =>
    simp only
    split
    · next hl =>
      unfold Stream.read
      cases hu : t.stream.unread with
      | cons item rest =>
        cases item with
        | ok entry => exact .record taken entry rest ht hl hu
        | error error => exact .error taken error rest ht hl hu
      | nil =>
        cases ha : t.stream.producer.isAlive with
        | true => exact .wait taken ht hl hu ha
        | false => exact .ended taken ht hl hu ha
    · next hl => exact .full taken ht (Nat.le_of_not_lt hl)

theorem run_cons (t : Taking) (m : Move) (moves : List Move) :
    t.run lister (m :: moves) = (t.move lister m).run lister moves := rfl

theorem run_append (t : Taking) (before after : List Move) :
    t.run lister (before ++ after) = (t.run lister before).run lister after :=
  List.foldl_append

/-- The reader keeps to its limit. -/
@[simp] theorem limit_move (lister : Lister) (t : Taking) (m : Move) :
    (t.move lister m).limit = t.limit := by
  cases m with
  | take =>
    rw [move]
    have hcase := t.takeCase_take
    generalize t.take = u at hcase ⊢
    cases hcase <;> rfl
  | _ => rfl

@[simp] theorem limit_run (lister : Lister) (t : Taking) (moves : List Move) :
    (t.run lister moves).limit = t.limit := by
  induction moves generalizing t with
  | nil => rfl
  | cons m moves ih => rw [run_cons, ih, limit_move]

/-- A reader lets go of the stream in one way. -/
theorem letGo_stream (lister : Lister) (t : Taking) (outcome : Except Error (List ObjectEntry)) :
    (t.letGo outcome).stream = (t.stream.run lister [.close]).2 := rfl

/-- To the listing a taking does nothing but what can be done to a listing on its own. -/
theorem move_stream (lister : Lister) (t : Taking) (m : Move) :
    ∃ moves, (t.move lister m).stream = (t.stream.run lister moves).2 ∧
      moves.countP Listing.Move.isProducing = if m.isProducing then 1 else 0 := by
  cases m with
  | step => exact ⟨[.step], rfl, rfl⟩
  | advance => exact ⟨[.advance], rfl, rfl⟩
  | cancelCaller => exact ⟨[.cancelCaller], rfl, rfl⟩
  | take =>
    rw [move]
    have hcase := t.takeCase_take
    generalize t.take = u at hcase ⊢
    cases hcase with
    | record taken entry rest ht hl hu =>
      refine ⟨[.read], ?_, rfl⟩
      rw [Stream.run_cons_snd, Stream.run_nil, Stream.move, Stream.read_snd, hu, List.tail_cons]
    | error => exact ⟨[.close], letGo_stream .., rfl⟩
    | ended => exact ⟨[.close], letGo_stream .., rfl⟩
    | full => exact ⟨[.close], letGo_stream .., rfl⟩
    | _ => exact ⟨[], rfl, rfl⟩

theorem run_stream (lister : Lister) (t : Taking) (moves : List Move) :
    ∃ streamMoves, (t.run lister moves).stream = (t.stream.run lister streamMoves).2 ∧
      streamMoves.countP Listing.Move.isProducing = moves.countP Move.isProducing := by
  induction moves generalizing t with
  | nil => exact ⟨[], rfl, rfl⟩
  | cons m moves ih =>
    obtain ⟨before, hb, hcb⟩ := t.move_stream lister m
    obtain ⟨after, ha, hca⟩ := ih (t.move lister m)
    refine ⟨before ++ after, ?_, ?_⟩
    · rw [run_cons, ha, hb, Stream.run_append]
    · rw [List.countP_append, hcb, hca, List.countP_cons, Nat.add_comm]

/-! ## What the reader has -/

/-- The listing while the reader takes records. -/
structure Reads (read : List Item) (t : Taking) (taken : List ObjectEntry) : Prop where
  /-- The reader keeps the stream. -/
  held : t.stream.held = true
  /-- Nobody has cancelled it. -/
  isCancelled : t.stream.isCancelled = false
  /-- No more is taken than is wanted. -/
  length_le : taken.length ≤ t.limit
  /-- What is published was read before, was taken, or is unread. -/
  published_eq : t.stream.published = read ++ taken.map .ok ++ t.stream.unread

/-- Where the reader stands, and what it has. -/
inductive Stands (lister : Lister) (first : PageCall) (read : List Item) (t : Taking) : Prop where
  /-- It takes records. -/
  | reading (taken : List ObjectEntry) (ht : t.taker = .reading taken) (h : Reads read t taken)
  /-- It has let go of the stream, and its result is settled. -/
  | settled (outcome : Except Error (List ObjectEntry)) (count : Nat)
      (ht : t.taker = .closing outcome ∨ t.taker = .done outcome)
      (hc : t.stream.isCancelled = true)
      (hs : lister.Settles first read.length t.limit count)
      (hg : Gives t.limit ((lister.items first count).drop read.length) outcome)

/-- A taking whose listing keeps to its sequence and whose reader loses nothing. -/
structure Sound (lister : Lister) (first : PageCall) (read : List Item) (t : Taking) : Prop where
  /-- The listing keeps to its sequence. -/
  follows : Stream.Follows lister first t.stream
  /-- Nothing is published after an error. -/
  orderly : t.stream.Orderly
  /-- The items of all calls but the last one are published. -/
  answered : lister.items first (t.stream.requests.length - 1) <+: t.stream.published
  /-- The producer has not broken down. -/
  not_died : ∀ words, t.stream.producer ≠ .died words
  /-- The reader loses nothing. -/
  stands : Stands lister first read t

/-- A reader who begins with a stream that is kept and not cancelled has lost nothing. -/
theorem sound_start {s : Stream} (limit : Nat) (hf : Stream.Follows lister first s)
    (ho : s.Orderly) (ha : lister.items first (s.requests.length - 1) <+: s.published)
    (hd : ∀ words, s.producer ≠ .died words) (hh : s.held = true) (hc : s.isCancelled = false)
    (hp : s.published = read ++ s.unread) : Sound lister first read (start limit s) where
  follows := hf
  orderly := ho
  answered := ha
  not_died := hd
  stands := .reading [] rfl ⟨hh, hc, Nat.zero_le _, by simpa [start] using hp⟩

/-! ## Letting go -/

/-- What is published while the reader takes records begins the sequence. -/
theorem Sound.isPrefix (h : Sound lister first read t) {taken : List ObjectEntry}
    (hr : Reads read t taken) :
    read ++ (taken.map .ok ++ t.stream.unread) <+:
      lister.items first t.stream.requests.length := by
  have hp := h.follows.published_isPrefix
  rwa [hr.published_eq, List.append_assoc] at hp

/-- A reader who has all the records that it wants may let go. -/
theorem Sound.letGo_full (h : Sound lister first read t) {taken : List ObjectEntry}
    (hr : Reads read t taken) (hl : t.limit ≤ taken.length) :
    Stands lister first read (t.letGo (.ok taken)) := by
  obtain ⟨more, hmore⟩ := h.isPrefix hr
  have hlen : taken.length = t.limit := Nat.le_antisymm hr.length_le hl
  refine .settled (.ok taken) t.stream.requests.length (.inl rfl) rfl (.inr ?_) (gives_ok ?_)
  · change read.length + t.limit ≤ _
    rw [← hmore, ← hlen]
    simp only [List.length_append, List.length_map]
    omega
  · have hmap : (taken.map (.ok : ObjectEntry → Item)).length = t.limit := by
      rw [List.length_map, hlen]
    change (List.drop read.length _).take t.limit = _
    rw [← hmore, List.append_assoc, List.drop_left, List.append_assoc, ← hmap, List.take_left]

/-- A reader who meets the end has the rest of the sequence. -/
theorem Sound.letGo_ended (h : Sound lister first read t) {taken : List ObjectEntry}
    (hr : Reads read t taken) (hu : t.stream.unread = [])
    (ha : t.stream.producer.isAlive = false) :
    Stands lister first read (t.letGo (.ok taken)) := by
  obtain ⟨hends, hitems⟩ := h.follows.complete ha hr.isCancelled
  rw [hr.published_eq, hu, List.append_nil] at hitems
  refine .settled (.ok taken) t.stream.requests.length (.inl rfl) rfl (.inl hends) (gives_ok ?_)
  rw [← hitems, List.drop_left]
  apply List.take_of_length_le
  rw [List.length_map]
  exact hr.length_le

/-- A reader who meets an error has met it early enough. -/
theorem Sound.letGo_error (h : Sound lister first read t) {taken : List ObjectEntry}
    {error : Error} {rest : List Item} (hr : Reads read t taken)
    (hl : taken.length < t.limit) (hu : t.stream.unread = .error error :: rest) :
    Stands lister first read (t.letGo (.error error)) := by
  have hpub := hr.published_eq
  rw [hu] at hpub
  -- A producer that is still at work has published records only.
  have hlast : t.stream.producer.isAlive = false := by
    cases ha : t.stream.producer.isAlive with
    | false => rfl
    | true =>
      obtain ⟨records, hrecords⟩ := h.orderly.records ha
      have hmem : (.error error : Item) ∈ t.stream.published := by
        rw [hpub]
        simp
      rw [hrecords] at hmem
      simp at hmem
  obtain ⟨hends, hitems⟩ := h.follows.complete hlast hr.isCancelled
  refine .settled (.error error) t.stream.requests.length (.inl rfl) rfl (.inl hends)
    (gives_error hl ?_)
  rw [← hitems, hpub, List.append_assoc, List.drop_left]
  exact (List.prefix_append_right_inj _).mpr (by simp)

/-! ## What each move keeps -/

/-- What the producer publishes for a reader who takes records can be taken. -/
theorem Stands.produce {m : Listing.Move} (h : Stands lister first read t)
    (hm : m.isProducing = true) :
    Stands lister first read { t with stream := t.stream.move lister m } := by
  obtain ⟨hcancelled, hcaller, hheld⟩ := t.stream.move_flags lister hm
  have hc : (t.stream.move lister m).isCancelled = t.stream.isCancelled := by
    rw [Stream.isCancelled, hcancelled, hcaller, Stream.isCancelled]
  cases h with
  | reading taken ht hr =>
    obtain ⟨new, hpub, hunread⟩ := t.stream.produce_delivers lister hm
    refine .reading taken ht ⟨hheld.trans hr.held, hc.trans hr.isCancelled, hr.length_le, ?_⟩
    rw [hpub, hunread, hr.published_eq, List.append_assoc]
  | settled outcome count ht hcancel hs hg =>
    exact .settled outcome count ht (hc.trans hcancel) hs hg

/-- The reader's turn loses nothing. -/
theorem Sound.take (h : Sound lister first read t) : Stands lister first read t.take := by
  have hcase := t.takeCase_take
  generalize t.take = u at hcase ⊢
  -- A reader who takes records is not also at another place.
  have hreading {taken : List ObjectEntry} (ht : t.taker = .reading taken) :
      Reads read t taken := by
    cases h.stands with
    | reading other ho hr =>
      cases ht.symm.trans ho
      exact hr
    | settled outcome count ho => rcases ho with ho | ho <;> cases ht.symm.trans ho
  cases hcase with
  | record taken entry rest ht hl hu =>
    obtain ⟨hheld, hc, _, hpub⟩ := hreading ht
    refine .reading (taken ++ [entry]) rfl ⟨hheld, hc, ?_, ?_⟩
    · rw [List.length_append]
      exact hl
    · rw [hpub, hu]
      simp
  | error taken error rest ht hl hu => exact h.letGo_error (hreading ht) hl hu
  | ended taken ht hl hu ha => exact h.letGo_ended (hreading ht) hu ha
  | full taken ht hl => exact h.letGo_full (hreading ht) hl
  | give outcome ht ha =>
    have hverdict : t.stream.verdict = .ok () := by
      rw [Stream.verdict]
      split
      · next words hp => exact absurd hp (h.not_died words)
      · rfl
    cases h.stands with
    | reading taken ho hr => cases ht.symm.trans ho
    | settled other count ho hc hs hg =>
      have he : other = outcome := by
        rcases ho with ho | ho
        · cases ht.symm.trans ho
          rfl
        · cases ht.symm.trans ho
      rw [hverdict]
      exact .settled outcome count (.inr rfl) hc hs (he ▸ hg)
  | _ => exact h.stands

/-- Whoever moves, unless it is the caller who cancels, nothing is lost. -/
theorem Sound.move (h : Sound lister first read t) (hl : lister.NeverCrashes) {m : Move}
    (hm : m ≠ .cancelCaller) : Sound lister first read (t.move lister m) := by
  obtain ⟨moves, hstream, _⟩ := t.move_stream lister m
  refine ⟨?_, ?_, ?_, ?_, ?_⟩
  · rw [hstream]
    exact h.follows.run moves
  · rw [hstream]
    exact h.orderly.run lister moves
  · rw [hstream]
    exact h.follows.answered_run h.answered moves
  · rw [hstream]
    exact Stream.not_died_run hl h.not_died moves
  · cases m with
    | step => exact h.stands.produce (m := .step) rfl
    | advance => exact h.stands.produce (m := .advance) rfl
    | take => exact h.take
    | cancelCaller => exact absurd rfl hm

theorem Sound.run (h : Sound lister first read t) (hl : lister.NeverCrashes) {moves : List Move}
    (hm : .cancelCaller ∉ moves) : Sound lister first read (t.run lister moves) := by
  induction moves generalizing t with
  | nil => exact h
  | cons m moves ih =>
    rw [List.mem_cons, not_or] at hm
    exact ih (h.move hl (Ne.symm hm.1)) hm.2

/-! ## The result -/

theorem result?_eq_some_iff {result : Except Error (List ObjectEntry)} :
    t.result? = some result ↔ t.taker = .done result := by
  rw [result?]
  cases t.taker <;> simp

/-- A result is there only once it is settled, and it is the settled one. -/
theorem Sound.result (h : Sound lister first read t)
    {result : Except Error (List ObjectEntry)} (hr : t.result? = some result) :
    (∃ count, lister.Settles first read.length t.limit count) ∧
      ∀ count, lister.Settles first read.length t.limit count →
        Gives t.limit ((lister.items first count).drop read.length) result := by
  have hdone := result?_eq_some_iff.mp hr
  cases h.stands with
  | reading taken ht => cases hdone.symm.trans ht
  | settled outcome count ht hc hs hg =>
    have he : outcome = result := by
      rcases ht with ht | ht <;> cases hdone.symm.trans ht
      rfl
    refine ⟨⟨count, hs⟩, ?_⟩
    intro other ho
    exact he ▸ hg.congr (Lister.front_eq hs ho)

/-- A reader who is done stays so. -/
theorem taker_run_of_done {result : Except Error (List ObjectEntry)} (ht : t.taker = .done result)
    (moves : List Move) : (t.run lister moves).taker = .done result := by
  induction moves generalizing t with
  | nil => exact ht
  | cons m moves ih =>
    refine ih ?_
    cases m with
    | take =>
      rw [move, take, ht]
      exact ht
    | _ => exact ht

/-- Once a reader is done no call is made any more, and its result stays as it is. -/
theorem Sound.run_of_result (h : Sound lister first read t)
    {result : Except Error (List ObjectEntry)} (hr : t.result? = some result)
    (moves : List Move) :
    (t.run lister moves).result? = some result ∧
      (t.run lister moves).stream.requests = t.stream.requests := by
  have ht := result?_eq_some_iff.mp hr
  refine ⟨result?_eq_some_iff.mpr (taker_run_of_done ht moves), ?_⟩
  cases h.stands with
  | reading taken ho => cases ht.symm.trans ho
  | settled outcome count ho hc =>
    obtain ⟨streamMoves, hstream, _⟩ := t.run_stream lister moves
    rw [hstream]
    exact ((Stream.halted_self lister hc).run streamMoves).requests_eq

end Taking

end ObjectStore.Listing
