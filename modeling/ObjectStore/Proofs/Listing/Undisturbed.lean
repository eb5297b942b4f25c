import ObjectStore.Listing.Session
import ObjectStore.Proofs.Listing.Progress

/-!
# Undisturbed listings

A listing that is neither cancelled nor let go of makes the calls and delivers the items
that its lister lays down, whatever the order in which the producer moves and the reader
reads. If there are only finitely many pages it comes to its end, and then exactly the
items of the sequence have been delivered.
-/

namespace ObjectStore.Listing.Stream

variable {lister : Lister} {first : PageCall} {s : Stream}

/-- What has been handed out begins what is published, and is all of it once nothing is unread. -/
theorem handed_append_unread (lister : Lister) (bucket : String) (options : ListOptions)
    {moves : List Move} (hm : ∀ m ∈ moves, m.isCancelling = false) :
    ((start bucket options).run lister moves).1 ++
        ((start bucket options).run lister moves).2.unread =
      ((start bucket options).run lister moves).2.published := by
  have hkeep : ∀ m ∈ moves, m.isLettingGo = false := by
    intro m h
    exact Move.isLettingGo_eq_false (hm m h)
  exact kept_handed_append_unread lister bucket options false hkeep

/-- The first call is the one that the listing was made for. -/
theorem Follows.head_requests (h : Follows lister first s) {call : PageCall}
    (hc : s.requests[0]? = some call) : call = first := by
  rw [h.requests_eq, Lister.calls, List.getElem?_map, Option.map_eq_some_iff] at hc
  obtain ⟨x, hx, rfl⟩ := hc
  exact (Option.some.inj (Lister.call_of_exchangesFrom_zero hx)).symm

/-- Each further call has the token of the page before it, and asks for the same in all else. -/
theorem Follows.next_request (h : Follows lister first s) {number : Nat} {call next : PageCall}
    (hc : s.requests[number]? = some call) (hn : s.requests[number + 1]? = some next) :
    ∃ page token, lister number call = .page page ∧ page.next = some token ∧ token ≠ "" ∧
      next = { call with token := some token } := by
  rw [h.requests_eq, Lister.calls, List.getElem?_map, Option.map_eq_some_iff] at hc hn
  obtain ⟨x, hx, rfl⟩ := hc
  obtain ⟨y, hy, rfl⟩ := hn
  obtain ⟨hreply, hnext⟩ := Lister.exchangesFrom_getElem? hx
  obtain ⟨page, token, hpage, htoken⟩ := Exchange.exists_of_next?_eq_some (hnext y hy)
  rw [Nat.zero_add] at hreply
  exact ⟨page, token, hreply.symm.trans hpage, htoken⟩

/-- Where nothing more is published, reading often enough hands out all of it. -/
theorem handed_eq_published (lister : Lister) (bucket : String) (options : ListOptions)
    {moves more : List Move} {items : List Item} (hm : ∀ m ∈ moves, m.isCancelling = false)
    (hmore : ∀ m ∈ more, m.isCancelling = false)
    (hbefore : ((start bucket options).run lister moves).2.published = items)
    (hafter : ((start bucket options).run lister (moves ++ more)).2.published = items)
    (hr : items.length ≤ more.count .read) :
    ((start bucket options).run lister (moves ++ more)).1 = items ∧
      ((start bucket options).run lister (moves ++ more)).2.unread = [] := by
  have hkeep : ∀ m ∈ moves ++ more, m.isLettingGo = false := by
    intro m h
    exact Move.isLettingGo_eq_false ((List.mem_append.mp h).elim (hm m) (hmore m))
  exact kept_handed_eq_published lister bucket options false hkeep hbefore hafter hr

/-- Where an undisturbed listing is done, it has come to the end of the sequence. -/
theorem undisturbed_complete (lister : Lister) (bucket : String) (options : ListOptions)
    {moves : List Move} (hm : ∀ m ∈ moves, m.isCancelling = false)
    (hd : ((start bucket options).run lister moves).2.producer.isAlive = false) :
    let last := ((start bucket options).run lister moves).2
    lister.EndsWithin { bucket, options } last.requests.length ∧
      last.published = lister.items { bucket, options } last.requests.length := by
  exact ((follows_start lister bucket options false).run moves).complete hd
    (run_isCancelled hm rfl)

/-- A listing that ends within a number of calls makes them all before it is done. -/
theorem undisturbed_exchanges (lister : Lister) (bucket : String) (options : ListOptions)
    {moves : List Move} {count : Nat} (hm : ∀ m ∈ moves, m.isCancelling = false)
    (hd : ((start bucket options).run lister moves).2.producer.isAlive = false)
    (he : lister.EndsWithin { bucket, options } count) :
    lister.exchanges { bucket, options }
        ((start bucket options).run lister moves).2.requests.length =
      lister.exchanges { bucket, options } count := by
  have hlast := (follows_start lister bucket options false).run moves
  obtain ⟨hends, _⟩ := undisturbed_complete lister bucket options hm hd
  exact (hends.exchanges_eq (hlast.length_requests_le he)).symm

/-- A reader who finds the end has got the whole sequence. -/
theorem handed_of_ended (lister : Lister) (bucket : String) (options : ListOptions)
    {moves : List Move} (hm : ∀ m ∈ moves, m.isCancelling = false)
    (hend : ((start bucket options).run lister moves).2.read.1 = .ended) :
    let last := ((start bucket options).run lister moves).2
    lister.EndsWithin { bucket, options } last.requests.length ∧
      ((start bucket options).run lister moves).1 =
        lister.items { bucket, options } last.requests.length := by
  intro last
  obtain ⟨hunread, hd⟩ := (read_fst_eq_ended_iff last).mp hend
  obtain ⟨hends, hpub⟩ := undisturbed_complete lister bucket options hm hd
  have hitems := handed_append_unread lister bucket options hm
  rw [hunread, List.append_nil] at hitems
  exact ⟨hends, hitems.trans hpub⟩

/-- Enough moves of the producer, and then enough readings, hand out a sequence that ends. -/
theorem handed_of_moves (lister : Lister) (bucket : String) (options : ListOptions)
    {moves more : List Move} {count : Nat} (hm : ∀ m ∈ moves, m.isCancelling = false)
    (hmore : ∀ m ∈ more, m.isCancelling = false)
    (he : lister.EndsWithin { bucket, options } count)
    (hlt : 3 * count + (lister.items { bucket, options } count).length <
      moves.countP Move.isProducing)
    (hr : (lister.items { bucket, options } count).length ≤ more.count .read) :
    let final := ((start bucket options).run lister (moves ++ more)).2
    ((start bucket options).run lister (moves ++ more)).1 =
        lister.items { bucket, options } count ∧
      final.read.1 = .ended ∧ final.requests = lister.calls { bucket, options } count := by
  have hall : ∀ m ∈ moves ++ more, m.isCancelling = false := by
    intro m h
    exact (List.mem_append.mp h).elim (hm m) (hmore m)
  have hd : ((start bucket options).run lister moves).2.producer.isAlive = false := by
    refine not_isAlive_of_lt_countP (follows_start lister bucket options false) he ?_
    rw [Nat.add_comm (progress _)]
    exact Nat.add_lt_add_right hlt 2
  have hd' : ((start bucket options).run lister (moves ++ more)).2.producer.isAlive = false := by
    rw [run_append]
    exact run_not_isAlive more hd
  have hseq := undisturbed_exchanges lister bucket options hm hd he
  have hseq' := undisturbed_exchanges lister bucket options hall hd' he
  have hpub := (undisturbed_complete lister bucket options hm hd).2
  have hpub' := (undisturbed_complete lister bucket options hall hd').2
  rw [Lister.items, hseq] at hpub
  rw [Lister.items, hseq'] at hpub'
  obtain ⟨hread, hunread⟩ := handed_eq_published lister bucket options hm hmore hpub hpub' hr
  refine ⟨hread, (read_fst_eq_ended_iff _).mpr ⟨hunread, hd'⟩, ?_⟩
  rw [((follows_start lister bucket options false).run (moves ++ more)).requests_eq,
    Lister.calls, hseq']
  rfl

/-- What has been handed out begins the sequence. -/
theorem handed_isPrefix (lister : Lister) (bucket : String) (options : ListOptions)
    {moves : List Move} {count : Nat} (hm : ∀ m ∈ moves, m.isCancelling = false)
    (hcount : ((start bucket options).run lister moves).2.requests.length ≤ count) :
    ((start bucket options).run lister moves).1 <+: lister.items { bucket, options } count := by
  have hread : ((start bucket options).run lister moves).1 <+:
      ((start bucket options).run lister moves).2.published :=
    ⟨_, handed_append_unread lister bucket options hm⟩
  have hlast := (follows_start lister bucket options false).run moves
  exact (hread.trans hlast.published_isPrefix).trans (lister.items_isPrefix _ hcount)

/--
An undisturbed listing. At every moment the items read begin the items of the sequence.
Its first call has no token; each further one has the token of the page before it, which is
not empty, and asks for the same bucket with the same options. A reader who finds the end has
got the whole sequence. If the sequence ends, then after enough moves of the producer and
enough readings, in whatever order, the reader has got exactly its items and finds the end.
-/
theorem undisturbed_listing (lister : Lister) (bucket : String) (options : ListOptions)
    (moves : List Move) (hm : ∀ m ∈ moves, m.isCancelling = false) :
    let first : PageCall := { bucket, options }
    let items := ((start bucket options).run lister moves).1
    let last := ((start bucket options).run lister moves).2
    (∀ count, last.requests.length ≤ count → items <+: lister.items first count) ∧
    (∀ call, last.requests[0]? = some call → call = { bucket, options, token := none }) ∧
    (∀ number call next, last.requests[number]? = some call →
      last.requests[number + 1]? = some next →
      ∃ page token, lister number call = .page page ∧ page.next = some token ∧ token ≠ "" ∧
        next = { call with token := some token }) ∧
    (last.read.1 = .ended →
      lister.EndsWithin first last.requests.length ∧
        items = lister.items first last.requests.length) ∧
    (∀ count, lister.EndsWithin first count →
      3 * count + (lister.items first count).length < moves.countP Move.isProducing →
      ∀ more, (∀ m ∈ more, m.isCancelling = false) →
        (lister.items first count).length ≤ more.count .read →
        ((start bucket options).run lister (moves ++ more)).1 = lister.items first count ∧
        ((start bucket options).run lister (moves ++ more)).2.read.1 = .ended ∧
        ((start bucket options).run lister (moves ++ more)).2.requests =
          lister.calls first count) := by
  intro first items last
  have hlast : Follows lister first last := (follows_start lister bucket options false).run moves
  refine ⟨?_, fun call => hlast.head_requests, fun number call next => hlast.next_request, ?_, ?_⟩
  · intro count hcount
    exact handed_isPrefix lister bucket options hm hcount
  · intro hend
    exact handed_of_ended lister bucket options hm hend
  · intro count he hlt more hmore hr
    exact handed_of_moves lister bucket options hm hmore he hlt hr

/-- A page of objects, an empty page, and a page of common beginnings, before a call fails. -/
theorem undisturbed_listing_failing :
    let lister := scripted
      [.page { objects := [{ key := "a", size := 1 }], next := some "t" },
        .page { next := some "u" }, .page { commonPrefixes := ["b/"], next := some "v" },
        .failed (.operation "denied")]
    let moves : List Move := .read :: .advance :: .read :: List.replicate 16 .step
    let more : List Move := [.read, .advance, .read, .read]
    (∀ m ∈ moves, m.isCancelling = false) ∧ (∀ m ∈ more, m.isCancelling = false) ∧
    ((start "bucket" { keyPrefix := "" }).run lister (moves ++ more)).1 =
      [.ok { key := "a", size := 1 }, .ok (.commonPrefix "b/"), .error (.operation "denied")] := by
  intro lister moves more
  have hm : ∀ m ∈ moves, m.isCancelling = false := by decide
  have hmore : ∀ m ∈ more, m.isCancelling = false := by decide
  have hitems : lister.items { bucket := "bucket", options := { keyPrefix := "" } } 4 =
      [.ok { key := "a", size := 1 }, .ok (.commonPrefix "b/"), .error (.operation "denied")] := by
    simp [lister, scripted, Lister.items, Lister.exchanges, Lister.exchangesFrom, Exchange.next?,
      Exchange.records, Exchange.error?, Page.records, interleave]
  have h := undisturbed_listing lister "bucket" { keyPrefix := "" } moves hm
  have hlast := h.2.2.2.2 4 (Nat.le_refl 4)
  rw [hitems] at hlast
  exact ⟨hm, hmore, (hlast (by decide) more hmore (by decide)).1⟩

end ObjectStore.Listing.Stream
