import ObjectStore.Proofs.Removal.Completion
import ObjectStore.Removal.Session

/-!
# The removal of a listing

A removal that reads a listing removes, each once and in order, the objects that the listing
publishes until it ends by itself, with an error, or with its cancellation. It ends well, and
it does end if the listing does and each side has its turn again and again.
-/

namespace ObjectStore.Removal.Pipeline

open Listing Listing.Session

/-- A listing whose caller does nothing is not cancelled by its caller. -/
theorem callerCancelled_eq_false (lister : Lister) (deleter : Deleter) (bucket : String)
    (listing : ListOptions) (removal : RemoveOptions) {moves : List Move}
    (h : .cancelCaller ∉ moves) :
    ((start bucket listing removal).run lister deleter moves).stream.callerCancelled = false := by
  rw [Bool.eq_false_iff]
  intro hc
  rcases (callerCancelled_run lister deleter _ moves).mp hc with hstart | hmem
  · cases hstart
  · exact h hmem

/-- A cancelled listing makes no call and publishes at most an error from then on. -/
theorem weight_le_of_isCancelled (lister : Lister) (deleter : Deleter) {p : Pipeline}
    (hc : p.stream.isCancelled = true) (moves : List Move) :
    (p.run lister deleter moves).stream.requests.length = p.stream.requests.length ∧
      (p.run lister deleter moves).stream.published.length ≤ p.stream.published.length + 1 := by
  have hhalt := run_halted lister deleter hc moves
  refine ⟨congrArg List.length hhalt.requests_eq, ?_⟩
  rcases hhalt.published_eq with hpub | ⟨call, error, _, _, hpub⟩
  · rw [hpub]
    exact Nat.le_succ _
  · rw [hpub, List.length_append]
    exact Nat.le_refl _

/--
A removal that reads a listing, with a store that is always reached. At every moment the calls
are for the first objects that the listing has published. When the run has ended the listing has
ended too, and the calls are for exactly what it has published up to its end: all of it, or as
much as there was when the caller cancelled it. The run ends well. It does end, where each side
has its turn in every round, after finitely many rounds if the listing ends or is cancelled.
-/
theorem removes_listed (lister : Lister) (deleter : Deleter) (bucket : String)
    (listing : ListOptions) (removal : RemoveOptions) (moves : List Move)
    (hd : Consumer.Reaches deleter) :
    let first : PageCall := { bucket, options := listing }
    let last := (start bucket listing removal).run lister deleter moves
    let named (items : List Item) : List ObjectId :=
      ((entries items).filter (!·.isCommonPrefix)).map fun entry =>
        { key := entry.key, versionId := entry.versionId }
    last.consumer.batches.flatten <+: named last.stream.published ∧
    last.stream.published <+: lister.items first last.stream.requests.length ∧
    (last.consumer.hasEnded = true →
      last.consumer.batches.flatten = named last.stream.published ∧
      last.stream.producer.isAlive = false ∧
      last.consumer.verdict? = some (.ok last.consumer.summary)) ∧
    (last.consumer.hasEnded = true → .cancelCaller ∉ moves →
      lister.EndsWithin first last.stream.requests.length ∧
      last.stream.published = lister.items first last.stream.requests.length) ∧
    (∀ before after, moves = before ++ after →
      let s := ((start bucket listing removal).run lister deleter before).stream
      s.isCancelled = true → named last.stream.published = named s.published) ∧
    (∀ rounds : List (List Move), (∀ round ∈ rounds, ∀ side, ∃ m ∈ round, m.side? = some side) →
      (∃ count, lister.EndsWithin first count ∧
        3 * count + 3 * (lister.items first count).length + 5 < rounds.length) ∨
      last.stream.isCancelled = true ∧
        3 * last.stream.requests.length + 3 * last.stream.published.length + 8 < rounds.length →
      ((start bucket listing removal).run lister deleter
        (moves ++ rounds.flatten)).consumer.hasEnded = true) := by
  intro first last named
  have hsound : Sound lister first last := (sound_start lister bucket listing removal).run hd moves
  refine ⟨hsound.batches_prefix, hsound.follows.published_isPrefix, ?_, ?_, ?_, ?_⟩
  · intro hend
    obtain ⟨hover, hremoved, hverdict⟩ := hsound.hasEnded hend
    exact ⟨hremoved, hover.not_isAlive, hverdict⟩
  · intro hend hcaller
    obtain ⟨hover, _⟩ := hsound.hasEnded hend
    exact hover.complete (callerCancelled_eq_false lister deleter bucket listing removal hcaller)
  · intro before after hmoves s hc
    have hlast : last = ((start bucket listing removal).run lister deleter before).run
        lister deleter after := by
      rw [← run_append, ← hmoves]
    rw [hlast]
    exact removable_run lister deleter hc after
  · intro rounds hfair hlong
    rw [run_append]
    have hafter := hsound.run hd rounds.flatten
    rcases hlong with ⟨count, hends, hlt⟩ | ⟨hc, hlt⟩
    · obtain ⟨hreq, hpub⟩ := hafter.follows.weight_le hends
      exact hsound.hasEnded_of_rounds hd hfair
        (Nat.add_le_add (Nat.mul_le_mul_left 3 hreq) (Nat.mul_le_mul_left 3 hpub)) hlt
    · obtain ⟨hreq, hpub⟩ := weight_le_of_isCancelled lister deleter hc rounds.flatten
      refine hsound.hasEnded_of_rounds hd hfair
        (Nat.add_le_add (Nat.mul_le_mul_left 3 (Nat.le_of_eq hreq)) (Nat.mul_le_mul_left 3 hpub)) ?_
      omega

/-- Cancelled with an object held back and a page outstanding, a removal removes what there was. -/
theorem removes_listed_cancelled :
    let page : Page := {
      objects := [{ key := "a", size := 1, versionId := some "1" }, { key := "c", size := 1 },
        { key := "d", size := 1, versionId := some "2" }]
      commonPrefixes := ["b/"]
      next := some "t" }
    let lister := Listing.scripted [.page page, .page { objects := [{ key := "e", size := 1 }] }]
    let deleter := scripted [some (.failed (.operation "denied"))] []
    let moves : List Move := [.produce, .produce, .consume, .consume, .consume, .answer, .consume,
      .cancelCaller, .produce, .consume, .answer]
    let last := (start "bucket" { keyPrefix := "" } { batchSize := 2 }).run lister deleter moves
    Consumer.Reaches deleter ∧
    last.consumer.batches.flatten = [⟨"a", some "1"⟩, ⟨"c", none⟩, ⟨"d", some "2"⟩] ∧
    last.consumer.verdict? = some (.ok last.consumer.summary) := by
  intro page lister deleter moves last
  have hd : Consumer.Reaches deleter := by
    intro number batch
    cases number <;>
    · constructor
      · intro detail he
        cases he
      · intro words he
        cases he
  let records : List ObjectEntry := [{ key := "a", size := 1, versionId := some "1" },
    .commonPrefix "b/", { key := "c", size := 1 }, { key := "d", size := 1, versionId := some "2" }]
  have hrecords : page.records = records := by
    simp [page, records, Page.records, interleave, ObjectEntry.commonPrefix]
  let called := (start "bucket" { keyPrefix := "" } { batchSize := 2 }).run lister deleter
    [.produce]
  let next : PageCall := { bucket := "bucket", options := { keyPrefix := "" }, token := some "t" }
  let received : Stream := { called.stream with producer := .publishing records (some next) }
  -- A page with common beginnings is not evaluated, so its records take its place.
  have hlast : last =
      ({ called with stream := received.steps lister (records.length + 2) } : Pipeline).run
        lister deleter (moves.drop 2) := by
    simp only [received, ← hrecords]
    rfl
  obtain ⟨_, _, hended, _⟩ :=
    removes_listed lister deleter "bucket" { keyPrefix := "" } { batchSize := 2 } moves hd
  have hover : last.consumer.hasEnded = true := by
    rw [hlast]
    decide +kernel
  obtain ⟨hremoved, _, hverdict⟩ := hended hover
  have hpublished : removable last.stream.published =
      [⟨"a", some "1"⟩, ⟨"c", none⟩, ⟨"d", some "2"⟩] := by
    rw [hlast]
    decide +kernel
  exact ⟨hd, hremoved.trans hpublished, hverdict⟩

end ObjectStore.Removal.Pipeline
