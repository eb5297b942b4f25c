import ObjectStore.Proofs.Listing.Merging
import ObjectStore.Proofs.Listing.Undisturbed

/-!
# Where a listing is cut into pages

A store answers with pages in key order: the keys ascend on each page, and from each page to
the next. The records of such pages are those of one page with all that they name, so that a
reader cannot tell from the records where the pages were cut.
-/

namespace ObjectStore.Listing

variable {page : Page} {pages : List Page}

namespace Page

/-- The keys that a page names, of objects and of common beginnings. -/
def keys (page : Page) : List String := page.objects.map ObjectEntry.key ++ page.commonPrefixes

/-- All that pages name, on one page. -/
def joined (pages : List Page) : Page where
  objects := pages.flatMap objects
  commonPrefixes := pages.flatMap commonPrefixes

/-- The entries of a page have its keys. -/
theorem key_mem_keys {entry : ObjectEntry}
    (h : entry ∈ page.objects ++ page.commonPrefixes.map .commonPrefix) :
    entry.key ∈ page.keys := by
  rw [keys, List.mem_append]
  rcases List.mem_append.mp h with h | h
  · exact .inl (List.mem_map_of_mem h)
  · obtain ⟨key, hkey, rfl⟩ := List.mem_map.mp h
    exact .inr hkey

/-- The keys of joined pages come from the pages. -/
theorem exists_of_mem_keys_joined {key : String} (h : key ∈ (joined pages).keys) :
    ∃ page ∈ pages, key ∈ page.keys := by
  simp only [keys, joined, List.mem_append, List.mem_map, List.mem_flatMap] at h ⊢
  rcases h with ⟨entry, ⟨page, hpage, hentry⟩, rfl⟩ | ⟨page, hpage, hkey⟩
  · exact ⟨page, hpage, .inl ⟨entry, hentry, rfl⟩⟩
  · exact ⟨page, hpage, .inr hkey⟩

/-- A page whose two lists are in key order has its records in key order. -/
theorem pairwise_records (hobjects : page.objects.Pairwise fun a b => a.key ≤ b.key)
    (hprefixes : page.commonPrefixes.Pairwise (· ≤ ·)) :
    page.records.Pairwise fun a b => a.key ≤ b.key := by
  rw [records_eq_interleave]
  exact pairwise_interleave hobjects (List.pairwise_map.mpr hprefixes)

end Page

/-! ## Pages in key order -/

/-- Pages in key order. -/
structure InKeyOrder (pages : List Page) : Prop where
  /-- The objects of a page are in the order of their keys. -/
  objects : ∀ page ∈ pages, page.objects.Pairwise fun a b => a.key ≤ b.key
  /-- So are its common beginnings. -/
  commonPrefixes : ∀ page ∈ pages, page.commonPrefixes.Pairwise (· ≤ ·)
  /-- All keys of a page come before all keys of later ones. -/
  apart : pages.Pairwise fun page later => ∀ key ∈ page.keys, ∀ other ∈ later.keys, key < other

namespace InKeyOrder

theorem tail (h : InKeyOrder (page :: pages)) : InKeyOrder pages where
  objects other hm := h.objects other (List.mem_cons_of_mem page hm)
  commonPrefixes other hm := h.commonPrefixes other (List.mem_cons_of_mem page hm)
  apart := h.apart.tail

/-- The first page and the joined rest can be interleaved apart. -/
theorem key_lt_key (h : InKeyOrder (page :: pages)) {a b : ObjectEntry}
    (ha : a ∈ page.objects ++ page.commonPrefixes.map .commonPrefix)
    (hb : b ∈ (Page.joined pages).objects ++
      (Page.joined pages).commonPrefixes.map .commonPrefix) : a.key < b.key := by
  obtain ⟨later, hlater, hkey⟩ := Page.exists_of_mem_keys_joined (Page.key_mem_keys hb)
  exact List.rel_of_pairwise_cons h.apart hlater a.key (Page.key_mem_keys ha) b.key hkey

/-- Pages in key order have the records of one page with all that they name. -/
theorem records_joined (h : InKeyOrder pages) :
    (Page.joined pages).records = pages.flatMap Page.records := by
  induction pages with
  | nil => rfl
  | cons page pages ih =>
    calc (Page.joined (page :: pages)).records
      _ = interleave (page.objects ++ (Page.joined pages).objects)
            (page.commonPrefixes.map .commonPrefix ++
              (Page.joined pages).commonPrefixes.map .commonPrefix) := by
          rw [Page.records_eq_interleave, ← List.map_append]
          rfl
      _ = page.records ++ (Page.joined pages).records := by
          rw [interleave_append fun a ha b hb => h.key_lt_key ha hb,
            ← Page.records_eq_interleave, ← Page.records_eq_interleave]
      _ = (page :: pages).flatMap Page.records := by
          rw [ih h.tail, List.flatMap_cons]

/-- The records of pages in key order are in key order, from the first page to the last. -/
theorem pairwise_records_joined (h : InKeyOrder pages) :
    (Page.joined pages).records.Pairwise fun a b => a.key ≤ b.key := by
  have hkey {page : Page} {entry : ObjectEntry} (hm : entry ∈ page.records) :
      entry.key ∈ page.keys := Page.key_mem_keys (page.records_perm.mem_iff.mp hm)
  rw [h.records_joined, List.pairwise_flatMap]
  constructor
  · intro page hm
    exact Page.pairwise_records (h.objects page hm) (h.commonPrefixes page hm)
  · refine h.apart.imp ?_
    intro page later hlt a ha b hb
    exact String.not_lt.mp (String.lt_asymm (hlt a.key (hkey ha) b.key (hkey hb)))

end InKeyOrder

/-! ## Listings of given pages -/

/-- The calls of a listing get these pages in turn, and there are no further calls. -/
structure Lister.Serves (lister : Lister) (first : PageCall) (pages : List Page) : Prop where
  /-- Each call gets its page. -/
  replies_eq : (lister.exchanges first pages.length).map Exchange.reply = pages.map .page
  /-- The last page leads to no further call. -/
  endsWithin : lister.EndsWithin first pages.length

/-- A script of linked pages is answered page by page, from the page with a number on. -/
theorem replies_scripted {pages : List Page} (hne : pages ≠ [])
    (hbefore : ∀ page ∈ pages.dropLast, page.continuation.isSome = true)
    (hlast : ∀ page ∈ pages.getLast?, page.continuation = none) (before : List Reply)
    (call : PageCall) :
    ((scripted (before ++ pages.map .page)).exchangesFrom before.length (some call)
      (pages.length + 1)).map Exchange.reply = pages.map .page := by
  induction pages generalizing before call with
  | nil => exact absurd rfl hne
  | cons page rest ih =>
    have hreply : scripted (before ++ (page :: rest).map .page) before.length call =
        .page page := by simp [scripted]
    rw [Lister.exchangesFrom, hreply, List.map_cons, List.map_cons, ← Exchange.map_continuation]
    refine congrArg (Reply.page page :: ·) ?_
    cases rest with
    | nil =>
      rw [hlast page rfl, Option.map_none, Lister.exchangesFrom_none, List.map_nil, List.map_nil]
    | cons later rest =>
      obtain ⟨token, htoken⟩ := Option.isSome_iff_exists.mp (hbefore page (by simp))
      have hrest := ih (List.cons_ne_nil later rest) (fun p hp => hbefore p (by simp [hp]))
        (fun p hp => hlast p (by simpa using hp)) (before ++ [.page page])
        { call with token := some token }
      rw [htoken, Option.map_some]
      rwa [List.length_append, List.append_assoc] at hrest

/-- A script serves its pages if each page but the last has a token to go on with. -/
theorem serves_scripted {pages : List Page} (hne : pages ≠ [])
    (hbefore : ∀ page ∈ pages.dropLast, page.continuation.isSome = true)
    (hlast : ∀ page ∈ pages.getLast?, page.continuation = none) (first : PageCall) :
    (scripted (pages.map .page)).Serves first pages := by
  have hall := replies_scripted hne hbefore hlast [] first
  have hends : (scripted (pages.map .page)).EndsWithin first pages.length := by
    have hlength := congrArg List.length hall
    rw [List.length_map, List.length_map] at hlength
    exact hlength.le
  refine ⟨?_, hends⟩
  rw [← hends.exchanges_eq (Nat.le_succ _)]
  exact hall

/-- Replies with pages let the listing publish the records of the pages. -/
theorem flatMap_items_of_replies {exchanges : List Exchange}
    (h : exchanges.map Exchange.reply = pages.map .page) :
    exchanges.flatMap Exchange.items = (pages.flatMap Page.records).map .ok := by
  induction exchanges generalizing pages with
  | nil =>
    rw [List.map_nil, eq_comm, List.map_eq_nil_iff] at h
    rw [h]
    rfl
  | cons x exchanges ih =>
    obtain ⟨page, rest, rfl, hx, hrest⟩ := List.map_eq_cons_iff.mp h.symm
    have hitems : x.items = page.records.map .ok := by
      rw [Exchange.items, Exchange.records, Exchange.error?, ← hx]
      exact List.append_nil _
    rw [List.flatMap_cons, List.flatMap_cons, List.map_append, hitems, ih hrest.symm]

/-- The items of a listing that gets pages in key order are the records of the joined pages. -/
theorem Lister.Serves.items_eq {lister : Lister} {first : PageCall}
    (hs : lister.Serves first pages) (ho : InKeyOrder pages) :
    lister.items first pages.length = (Page.joined pages).records.map .ok := by
  rw [Lister.items_eq_flatMap, flatMap_items_of_replies hs.replies_eq, ho.records_joined]

namespace Stream

/-- A reader who finds the end of a listing of pages in key order has got the joined pages. -/
theorem handed_of_serves {lister : Lister} {bucket : String} {options : ListOptions}
    {moves : List Move} (hs : lister.Serves { bucket, options } pages) (ho : InKeyOrder pages)
    (hm : ∀ m ∈ moves, m.isCancelling = false)
    (hend : ((start bucket options).run lister moves).2.read.1 = .ended) :
    ((start bucket options).run lister moves).1 = (Page.joined pages).records.map .ok := by
  obtain ⟨hends, hitems⟩ := handed_of_ended lister bucket options hm hend
  have hlast := (follows_start lister bucket options false).run moves
  have hexchanges := hends.exchanges_eq (hlast.length_requests_le hs.endsWithin)
  rw [hitems, ← hs.items_eq ho, Lister.items, Lister.items, hexchanges]

/--
Where the pages are cut does not matter. A listing that nobody disturbs, and that gets pages in
key order, delivers its records in key order; they are the records of one page with all objects
and all common beginnings. At every moment the reader has got the first of them, and a reader who
finds the end has got them all, as it happens after enough moves of the producer and enough
readings. Another listing of the same objects and the same common beginnings, however they are
cut into pages in key order, delivers the same.
-/
theorem listing_in_key_order (lister : Lister) (bucket : String) (options : ListOptions)
    (pages : List Page) (moves : List Move) (hs : lister.Serves { bucket, options } pages)
    (ho : InKeyOrder pages) (hm : ∀ m ∈ moves, m.isCancelling = false) :
    let all : Page :=
      { objects := pages.flatMap Page.objects, commonPrefixes := pages.flatMap Page.commonPrefixes }
    let items := ((start bucket options).run lister moves).1
    let last := ((start bucket options).run lister moves).2
    (all.records.Pairwise fun a b => a.key ≤ b.key) ∧
    items <+: all.records.map .ok ∧
    (last.read.1 = .ended → items = all.records.map .ok) ∧
    (3 * pages.length + all.records.length < moves.countP Move.isProducing →
      ∀ more, (∀ m ∈ more, m.isCancelling = false) → all.records.length ≤ more.count .read →
        ((start bucket options).run lister (moves ++ more)).1 = all.records.map .ok ∧
        ((start bucket options).run lister (moves ++ more)).2.read.1 = .ended) ∧
    (∀ (lister' : Lister) (bucket' : String) (options' : ListOptions) (pages' : List Page)
      (moves' : List Move), lister'.Serves { bucket := bucket', options := options' } pages' →
      InKeyOrder pages' → pages'.flatMap Page.objects = pages.flatMap Page.objects →
      pages'.flatMap Page.commonPrefixes = pages.flatMap Page.commonPrefixes →
      (∀ m ∈ moves', m.isCancelling = false) →
      last.read.1 = .ended →
      ((start bucket' options').run lister' moves').2.read.1 = .ended →
      ((start bucket' options').run lister' moves').1 = items) := by
  intro all items last
  have hitems : lister.items { bucket, options } pages.length = all.records.map .ok :=
    hs.items_eq ho
  have hlength : (lister.items { bucket, options } pages.length).length = all.records.length := by
    rw [hitems, List.length_map]
  have hlast := (follows_start lister bucket options false).run moves
  refine ⟨ho.pairwise_records_joined, ?_, handed_of_serves hs ho hm, ?_, ?_⟩
  · rw [← hitems]
    exact handed_isPrefix lister bucket options hm (hlast.length_requests_le hs.endsWithin)
  · intro hlt more hmore hr
    rw [← hlength] at hlt hr
    obtain ⟨hread, hended, _⟩ :=
      handed_of_moves lister bucket options hm hmore hs.endsWithin hlt hr
    exact ⟨hread.trans hitems, hended⟩
  · intro lister' bucket' options' pages' moves' hs' ho' hobjects hprefixes hm' hend hend'
    have hsame : Page.joined pages' = Page.joined pages := by
      rw [Page.joined, Page.joined, hobjects, hprefixes]
    rw [handed_of_serves hs' ho' hm' hend', hsame]
    exact (handed_of_serves hs ho hm hend).symm

/-- Four pages, one of them empty and one with a common beginning only, and the same on two. -/
theorem listing_in_key_order_recut :
    let pages : List Page :=
      [{ objects := [{ key := "a", size := 1 }], next := some "s" }, { next := some "t" },
        { commonPrefixes := ["b/"], next := some "u" }, { objects := [{ key := "c", size := 2 }] }]
    let recut : List Page :=
      [{ objects := [{ key := "a", size := 1 }], commonPrefixes := ["b/"], next := some "v" },
        { objects := [{ key := "c", size := 2 }] }]
    let first : PageCall := { bucket := "bucket", options := { keyPrefix := "" } }
    let moves : List Move := List.replicate 16 .step
    let more : List Move := List.replicate 3 .read
    ((scripted (pages.map .page)).Serves first pages ∧ InKeyOrder pages) ∧
    ((scripted (recut.map .page)).Serves first recut ∧ InKeyOrder recut) ∧
    (∀ m ∈ moves ++ more, m.isCancelling = false) ∧
    ((start "bucket" { keyPrefix := "" }).run (scripted (pages.map .page)) (moves ++ more)).1 =
      [.ok { key := "a", size := 1 }, .ok (.commonPrefix "b/"), .ok { key := "c", size := 2 }] ∧
    ((start "bucket" { keyPrefix := "" }).run (scripted (recut.map .page)) (moves ++ more)).1 =
      ((start "bucket" { keyPrefix := "" }).run (scripted (pages.map .page))
        (moves ++ more)).1 := by
  intro pages recut first moves more
  have hs : (scripted (pages.map .page)).Serves first pages :=
    serves_scripted (by decide) (by decide) (by decide) first
  have hs' : (scripted (recut.map .page)).Serves first recut :=
    serves_scripted (by decide) (by decide) (by decide) first
  have ho : InKeyOrder pages := ⟨by decide, by decide, by decide⟩
  have ho' : InKeyOrder recut := ⟨by decide, by decide, by decide⟩
  have hm : ∀ m ∈ moves, m.isCancelling = false := by decide
  have hmore : ∀ m ∈ more, m.isCancelling = false := by decide
  have hboth : ∀ m ∈ moves ++ more, m.isCancelling = false := by decide
  have hrecords : (Page.joined pages).records =
      [{ key := "a", size := 1 }, .commonPrefix "b/", { key := "c", size := 2 }] := by
    rw [ho.records_joined]
    simp [pages, Page.records, interleave]
  have hlength : (Page.joined pages).records.length = 3 := congrArg List.length hrecords
  obtain ⟨_, _, _, hmoves, _⟩ := listing_in_key_order _ "bucket" _ pages moves hs ho hm
  obtain ⟨_, _, _, hmoves', _⟩ := listing_in_key_order _ "bucket" _ recut moves hs' ho' hm
  obtain ⟨_, _, _, _, hrecut⟩ := listing_in_key_order _ "bucket" _ pages (moves ++ more) hs ho hboth
  -- Both cuts come to the same joined page.
  change 12 + (Page.joined pages).records.length < 16 → _ at hmoves
  change 6 + (Page.joined pages).records.length < 16 → _ at hmoves'
  rw [hlength] at hmoves hmoves'
  obtain ⟨hitems, hended⟩ := hmoves (by decide) more hmore hlength.le
  obtain ⟨_, hended'⟩ := hmoves' (by decide) more hmore hlength.le
  exact ⟨⟨hs, ho⟩, ⟨hs', ho'⟩, hboth, hitems.trans (congrArg (List.map Except.ok) hrecords),
    hrecut _ _ _ recut _ hs' ho' rfl rfl hboth hended hended'⟩

end Stream

end ObjectStore.Listing
