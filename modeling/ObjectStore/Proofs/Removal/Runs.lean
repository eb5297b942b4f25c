import Mathlib.Data.List.Forall2
import ObjectStore.Proofs.Removal.Attempts
import ObjectStore.Removal.Session

/-!
# What a removal does

A run over given objects ends in the state that its calls lead to: it has made the calls for
the pieces of its input, up to the one that ends it, and has published what they report.
-/

namespace ObjectStore.Removal

variable {deleter : Deleter} {a : Attempt}

/-- What a call ends the run with, if it ends it. -/
def Attempt.ending? (a : Attempt) : Option Progress :=
  match a.answer with
  | .failures _ => none
  | .failed error => if error.isTransport then some (.stopped error) else none
  | .crashed words => some (.died words)

theorem Attempt.eq_of_ending? {progress : Progress} (h : a.ending? = some progress) :
    (∃ error, progress = .stopped error) ∨ ∃ words, progress = .died words := by
  rcases a with ⟨batch, failures | error | words⟩
  · cases h
  · obtain ⟨_, hp⟩ := Option.ite_none_right_eq_some.mp h
    exact .inl ⟨error, (Option.some.inj hp).symm⟩
  · exact .inr ⟨words, (Option.some.inj h).symm⟩

theorem Attempt.isLast_eq_isSome_ending? (a : Attempt) : a.isLast = a.ending?.isSome := by
  rcases a with ⟨batch, failures | error | words⟩
  · rfl
  · cases ht : error.isTransport <;> simp [Attempt.isLast, Attempt.ending?, ht]
  · rfl

theorem Attempt.ending?_eq_none (h : a.isLast = false) : a.ending? = none := by
  rwa [Attempt.isLast_eq_isSome_ending?, Option.isSome_eq_false_iff,
    Option.isNone_iff_eq_none] at h

/-- The text that an error is displayed with: what failed, and the detail. -/
inductive Displays : Error → String → Prop
  | config (detail : String) : Displays (.config detail) ("Configuration error: " ++ detail)
  | configNotFound (path : String) :
    Displays (.configNotFound path) ("Configuration file not found: " ++ path)
  | invalidConfig (detail : String) :
    Displays (.invalidConfig detail) ("Invalid configuration format: " ++ detail)
  | invalidArgument (detail : String) :
    Displays (.invalidArgument detail) ("Invalid argument: " ++ detail)
  | transport (detail : String) : Displays (.transport detail) ("Transport failure: " ++ detail)
  | operation (detail : String) : Displays (.operation detail) ("S3 operation failed: " ++ detail)
  | notFound (detail : String) : Displays (.notFound detail) ("Not found: " ++ detail)
  | io (detail : String) : Displays (.io detail) ("IO error: " ++ detail)
  | serialization (detail : String) :
    Displays (.serialization detail) ("Serialization error: " ++ detail)
  | deserialization (detail : String) :
    Displays (.deserialization detail) ("Deserialization error: " ++ detail)
  | other (message : String) : Displays (.other message) message

theorem displays_iff {error : Error} {text : String} :
    Displays error text ↔ text = error.message := by
  constructor
  · rintro ⟨⟩ <;> rfl
  · rintro rfl
    cases error <;> constructor

/-- What is reported of a call that was answered, or has failed. -/
structure Attempt.Reports (a : Attempt) (report : List Failure) : Prop where
  /-- The failures of the answer, unchanged. -/
  answered : ∀ failures, a.answer = .failures failures → report = failures
  /-- Each object of the batch, with its key and its version, and why it was not removed. -/
  failed : ∀ error, a.answer = .failed error → ∃ cause, Displays error cause ∧
    report = a.batch.map fun id => { key := id.key, versionId := id.versionId, cause }

theorem Attempt.reports_reported (a : Attempt) : a.Reports a.reported := by
  refine ⟨fun failures h => ?_, fun error h => ⟨error.message, displays_iff.mpr rfl, ?_⟩⟩
  · rw [reported, h]
  · rw [reported, h]
    rfl

namespace Consumer

variable {c : Consumer}

/-- The consumer after the call for what it holds, from where it goes on if it can. -/
def attempted (c : Consumer) (a : Attempt) (onward : Progress) : Consumer :=
  { c with
    held := []
    batches := c.batches ++ [a.batch]
    unread := if c.watched then c.unread ++ a.reported else c.unread
    deleted := c.deleted + a.deleted
    failed := c.failed + a.reported.length
    progress := a.ending?.getD onward }

/-- The consumer after its last calls. -/
def concluded (c : Consumer) (attempts : List Attempt) : Consumer :=
  { c with
    held := []
    batches := c.batches ++ attempts.map Attempt.batch
    unread := if c.watched then c.unread ++ reported attempts else c.unread
    deleted := c.deleted + deletedCount attempts
    failed := c.failed + (reported attempts).length
    progress := (attempts.findSome? Attempt.ending?).getD .done }

/-- An answer counts, is published, and may end the run. -/
theorem receive_eq (c : Consumer) (a : Attempt) :
    c.receive a.batch a.answer = { c with
      unread := if c.watched then c.unread ++ a.reported else c.unread
      deleted := c.deleted + a.deleted
      failed := c.failed + a.reported.length
      progress := a.ending?.getD c.progress } := by
  rcases a with ⟨batch, failures | error | words⟩
  · cases hw : c.watched <;>
      simp [receive, publish, hw, Attempt.reported, Attempt.deleted, Attempt.ending?]
  · cases ht : error.isTransport <;> cases hw : c.watched <;>
      simp [receive, publish, hw, ht, Attempt.reported, Attempt.deleted, Attempt.ending?]
  · simp [receive, Attempt.reported, Attempt.deleted, Attempt.ending?]

/-- The consumer waits for no answer. -/
def IsAnswered (c : Consumer) : Prop := ∀ batch isLast, c.progress ≠ .waiting batch isLast

theorem waiting_or_isAnswered (c : Consumer) :
    (∃ batch isLast, c.progress = .waiting batch isLast) ∨ c.IsAnswered := by
  cases hp : c.progress with
  | waiting batch isLast => exact .inl ⟨batch, isLast, rfl⟩
  | _ => exact .inr (by simp [IsAnswered, hp])

theorem isAnswered_of_running (h : c.progress = .running) : c.IsAnswered := by
  intro batch isLast hp
  cases h.symm.trans hp

theorem isAnswered_of_hasEnded (h : c.hasEnded = true) : c.IsAnswered := by
  intro batch isLast hp
  rw [hasEnded, hp] at h
  cases h

theorem not_running_of_hasEnded (h : c.hasEnded = true) : c.progress ≠ .running := by
  intro hp
  rw [hasEnded, hp] at h
  cases h

/-- Where no answer is waited for, there is none. -/
theorem answer_of_isAnswered (h : c.IsAnswered) : c.answer deleter = c := by
  unfold answer
  split
  · next batch isLast hp => exact absurd hp (h batch isLast)
  · rfl

/-- An answer leaves the calls and what is held back as they are. -/
theorem answer_eq_of_waiting {batch : List ObjectId} {isLast : Bool}
    (hp : c.progress = .waiting batch isLast) :
    c.answer deleter =
      let a : Attempt := ⟨batch, deleter (c.batches.length - 1) batch⟩
      { c with
        unread := if c.watched then c.unread ++ a.reported else c.unread
        deleted := c.deleted + a.deleted
        failed := c.failed + a.reported.length
        progress := a.ending?.getD (if isLast then .done else .running) } := by
  rw [answer, hp]
  exact receive_eq _ ⟨batch, deleter (c.batches.length - 1) batch⟩

/-- A call that is answered has its effect. -/
theorem answer_submit (deleter : Deleter) (c : Consumer) (isLast : Bool) :
    (c.submit isLast).answer deleter =
      c.attempted ⟨c.held, deleter c.batches.length c.held⟩
        (if isLast then .done else .running) := by
  have hn : (c.batches ++ [c.held]).length - 1 = c.batches.length := by
    rw [List.length_append, List.length_singleton, Nat.add_sub_cancel]
  rw [answer_eq_of_waiting rfl]
  simp only [submit, hn]
  rfl

/-- After the last batch the run is at its end. -/
theorem attempted_done (c : Consumer) (a : Attempt) : c.attempted a .done = c.concluded [a] := by
  cases h : a.ending? <;> simp [attempted, concluded, reported, deletedCount, h]

/-- A call that ends the run is its last one. -/
theorem attempted_of_isLast (h : a.isLast = true) (c : Consumer) (onward : Progress) :
    c.attempted a onward = c.concluded [a] := by
  rw [Attempt.isLast_eq_isSome_ending?, Option.isSome_iff_exists] at h
  obtain ⟨progress, hend⟩ := h
  rw [← attempted_done]
  simp only [attempted, hend, Option.getD_some]

/-- After any other call the run goes on. -/
theorem concluded_attempted (h : a.isLast = false) (c : Consumer) (rest : List Attempt) :
    (c.attempted a .running).concluded rest = c.concluded (a :: rest) := by
  have hend := Attempt.ending?_eq_none h
  cases hw : c.watched <;>
    simp [attempted, concluded, reported, deletedCount, hend, hw, Nat.add_assoc]

theorem accept_of_hasEnded (h : c.hasEnded = true) (id : ObjectId) : c.accept deleter id = c := by
  rw [accept, take, if_neg (not_running_of_hasEnded h),
    answer_of_isAnswered (isAnswered_of_hasEnded h)]

theorem exhaust_of_hasEnded (h : c.hasEnded = true) : c.exhaust deleter = c := by
  rw [exhaust, close, if_neg (not_running_of_hasEnded h),
    answer_of_isAnswered (isAnswered_of_hasEnded h)]

theorem foldl_accept_of_hasEnded (h : c.hasEnded = true) (ids : List ObjectId) :
    ids.foldl (accept deleter) c = c := by
  induction ids with
  | nil => rfl
  | cons id ids ih => rw [List.foldl_cons, accept_of_hasEnded h, ih]

/-- A run that has ended takes in nothing more. -/
theorem hasEnded_concluded (c : Consumer) (attempts : List Attempt) :
    (c.concluded attempts).hasEnded = true := by
  unfold hasEnded concluded
  cases hf : attempts.findSome? Attempt.ending? with
  | none => rfl
  | some progress =>
    obtain ⟨a, _, ha⟩ := List.exists_of_findSome?_eq_some hf
    rcases Attempt.eq_of_ending? ha with ⟨error, rfl⟩ | ⟨words, rfl⟩ <;> rfl

theorem take_of_room (hp : c.progress = .running) {id : ObjectId}
    (hroom : (c.held ++ [id]).length < c.batchSize) :
    c.take id = { c with held := c.held ++ [id] } := by
  rw [take, if_pos hp]
  exact if_pos hroom

theorem take_of_full (hp : c.progress = .running) {id : ObjectId}
    (hfull : c.batchSize ≤ (c.held ++ [id]).length) :
    c.take id = ({ c with held := c.held ++ [id] } : Consumer).submit false := by
  rw [take, if_pos hp]
  exact if_neg (Nat.not_lt_of_ge hfull)

theorem close_of_held (hp : c.progress = .running) (hh : c.held ≠ []) :
    c.close = c.submit true := by
  rw [close, if_pos hp, if_neg (by rwa [List.isEmpty_iff])]

theorem close_of_nil (hp : c.progress = .running) (hh : c.held = []) :
    c.close = { c with progress := .done } := by
  rw [close, if_pos hp, if_pos (by rwa [List.isEmpty_iff])]

/-- With room for another one after it, an object is held back. -/
theorem accept_of_room (deleter : Deleter) (hp : c.progress = .running) {id : ObjectId}
    (hroom : (c.held ++ [id]).length < c.batchSize) :
    c.accept deleter id = { c with held := c.held ++ [id] } := by
  rw [accept, take_of_room hp hroom]
  simp only [answer, hp]

/-- The object that fills a batch is removed with it. -/
theorem accept_of_full (deleter : Deleter) (hp : c.progress = .running) {id : ObjectId}
    (hfull : (c.held ++ [id]).length = c.batchSize) :
    c.accept deleter id =
      c.attempted ⟨c.held ++ [id], deleter c.batches.length (c.held ++ [id])⟩ .running := by
  rw [accept, take_of_full hp hfull.ge, answer_submit, if_neg Bool.false_ne_true]
  rfl

/-- At the end what is held back is removed, if there is anything. -/
theorem exhaust_of_room (deleter : Deleter) (hp : c.progress = .running)
    (hs : c.held.length < c.batchSize) :
    c.exhaust deleter =
      c.concluded (attemptsFrom deleter c.batches.length (pieces c.batchSize c.held)) := by
  by_cases hh : c.held = []
  · rw [exhaust, close_of_nil hp hh, hh, pieces_nil]
    simp [answer, concluded, attemptsFrom, reported, deletedCount]
  · rw [exhaust, close_of_held hp hh, answer_submit, pieces_eq_singleton hh (Nat.le_of_lt hs)]
    simp only [attemptsFrom, ite_self]
    exact attempted_done c _

/--
The run law. A run that has room for another object makes the calls for the pieces of what it
holds and of what comes in, and concludes with them.
-/
theorem foldl_accept_exhaust (deleter : Deleter) (hs : c.held.length < c.batchSize)
    (hp : c.progress = .running) (ids : List ObjectId) :
    (ids.foldl (accept deleter) c).exhaust deleter =
      c.concluded (attemptsFrom deleter c.batches.length (pieces c.batchSize (c.held ++ ids))) := by
  induction ids generalizing c with
  | nil =>
    rw [List.foldl_nil, List.append_nil]
    exact exhaust_of_room deleter hp hs
  | cons id ids ih =>
    have hl : (c.held ++ [id]).length = c.held.length + 1 := List.length_append
    rw [List.foldl_cons, List.append_cons]
    by_cases hroom : (c.held ++ [id]).length < c.batchSize
    · rw [accept_of_room deleter hp hroom]
      exact ih (c := { c with held := c.held ++ [id] }) hroom hp
    · have hfull : (c.held ++ [id]).length = c.batchSize := by omega
      have hpos : 0 < c.batchSize := Nat.zero_lt_of_lt hs
      rw [accept_of_full deleter hp hfull, pieces_append hpos hfull, attemptsFrom]
      generalize (⟨c.held ++ [id], deleter c.batches.length (c.held ++ [id])⟩ : Attempt) = a
      -- What the answer says decides on the rest.
      cases hlast : a.isLast with
      | true =>
        have hend := hasEnded_concluded c [a]
        rw [attempted_of_isLast hlast, foldl_accept_of_hasEnded hend, exhaust_of_hasEnded hend,
          if_pos rfl]
      | false =>
        have hrun : (c.attempted a .running).progress = .running := by
          rw [attempted, Attempt.ending?_eq_none hlast, Option.getD_none]
        have hcount : (c.attempted a .running).batches.length = c.batches.length + 1 :=
          List.length_append
        rw [ih (c := c.attempted a .running) hpos hrun, hcount, concluded_attempted hlast,
          if_neg Bool.false_ne_true]
        rfl

@[simp] theorem read_snd (c : Consumer) : c.read.2 = { c with unread := c.unread.tail } := by
  unfold read
  split
  · next failure rest h => rw [h, List.tail_cons]
  · next h => rw [h, List.tail_nil, ← h]

/-- After the end of a run its reader finds all that is left, and the end. -/
theorem readAll_of_hasEnded (h : c.hasEnded = true) :
    c.readAll.1 = c.unread.map .failure ++ [.ended] := by
  have hread : ({ c with unread := [] } : Consumer).read.1 = .ended := if_pos h
  rw [readAll, hread]

theorem effectiveBatchSize_pos (options : RemoveOptions) : 0 < options.effectiveBatchSize :=
  Nat.lt_of_lt_of_le Nat.zero_lt_one (Nat.le_max_left _ _)

theorem run_eq_concluded (deleter : Deleter) (options : RemoveOptions) (ids : List ObjectId) :
    run deleter options ids = (start options).concluded (attempts deleter options ids) :=
  foldl_accept_exhaust (c := start options) deleter (effectiveBatchSize_pos options) rfl ids

theorem batches_run (deleter : Deleter) (options : RemoveOptions) (ids : List ObjectId) :
    (run deleter options ids).batches = (attempts deleter options ids).map Attempt.batch := by
  rw [run_eq_concluded]
  exact List.nil_append _

/-- The calls of a run can be told from its batches. -/
theorem issued_batches_run (deleter : Deleter) (options : RemoveOptions) (ids : List ObjectId) :
    issued deleter (run deleter options ids).batches = attempts deleter options ids := by
  rw [batches_run]
  exact (attemptsFrom_eq_issued deleter _).symm

/-- The reader of a run finds what its calls report, and then the end. -/
theorem readAll_run (deleter : Deleter) (options : RemoveOptions) (ids : List ObjectId) :
    (run deleter options ids).readAll.1 =
      (reported (attempts deleter options ids)).map .failure ++ [.ended] := by
  have hunread : ((start options).concluded (attempts deleter options ids)).unread =
      reported (attempts deleter options ids) := List.nil_append _
  rw [run_eq_concluded, readAll_of_hasEnded (hasEnded_concluded _ _), hunread]

/-- Only a call that did not reach the store makes a run fail, unless the deleter breaks down. -/
theorem verdict?_concluded (options : RemoveOptions) {attempts : List Attempt}
    (hd : ∀ a ∈ attempts, ∀ words, a.answer ≠ .crashed words) :
    ((start options).concluded attempts).verdict? = some (verdict attempts) := by
  have hend : attempts.findSome? Attempt.ending? =
      (attempts.findSome? Attempt.error?).map .stopped := by
    induction attempts with
    | nil => rfl
    | cons a rest ih =>
      have hrest := ih fun b hb => hd b (List.mem_cons_of_mem a hb)
      have ha : a.ending? = a.error?.map .stopped := by
        rcases a with ⟨batch, failures | error | words⟩
        · rfl
        · cases ht : error.isTransport <;> simp [Attempt.ending?, Attempt.error?, ht]
        · exact absurd rfl (hd _ List.mem_cons_self words)
      rw [List.findSome?_cons, List.findSome?_cons, ha, hrest]
      cases a.error? <;> rfl
  unfold verdict? verdict concluded
  rw [hend]
  cases attempts.findSome? Attempt.error? <;> simp [summary, start]

/-- A run whose deleter does not break down ends as its calls say. -/
theorem verdict?_run (options : RemoveOptions) (ids : List ObjectId)
    (hd : ∀ number batch words, deleter number batch ≠ .crashed words) :
    (run deleter options ids).verdict? = some (verdict (attempts deleter options ids)) := by
  rw [run_eq_concluded]
  refine verdict?_concluded options fun a ha words => ?_
  obtain ⟨number, hn⟩ := List.mem_iff_getElem?.mp ha
  rw [answer_of_attemptsFrom hn]
  exact hd _ _ _

/--
A removal of given objects calls for the consecutive pieces of what it is given, all full but the
last, up to the first call that does not reach the store. It publishes, call after call, the
failures of the answer, or a record of each object of a batch whose call failed as a whole, with
the text that the error is displayed with. It fails with the error of the call that did not reach
the store, or else ends well with the number of its calls.
-/
theorem run_removes (deleter : Deleter) (options : RemoveOptions) (ids : List ObjectId)
    (hd : ∀ number batch words, deleter number batch ≠ .crashed words) :
    let size := max 1 (min options.batchSize 1000)
    let c := run deleter options ids
    let calls := issued deleter c.batches
    ((pieces size ids).flatten = ids ∧
      (∀ piece ∈ pieces size ids, piece ≠ [] ∧ piece.length ≤ size) ∧
      ∀ piece ∈ (pieces size ids).dropLast, piece.length = size) ∧
    c.batches <+: pieces size ids ∧
    (∀ number a detail, calls[number]? = some a → a.answer = .failed (.transport detail) →
      number + 1 = calls.length) ∧
    (c.batches = pieces size ids ∨
      ∃ a detail, calls.getLast? = some a ∧ a.answer = .failed (.transport detail)) ∧
    (∃ reports, List.Forall₂ Attempt.Reports calls reports ∧
      c.readAll.1 = reports.flatten.map .failure ++ [.ended]) ∧
    (∀ error, c.verdict? = some (.error error) ↔
      ∃ a ∈ calls, ∃ detail, error = .transport detail ∧
        a.answer = .failed (.transport detail)) ∧
    ((∀ a ∈ calls, ∀ detail, a.answer ≠ .failed (.transport detail)) →
      ∃ summary, c.verdict? = some (.ok summary) ∧ summary.batches = calls.length) := by
  intro size c calls
  have hpos : 0 < size := effectiveBatchSize_pos options
  have hbatches : c.batches = (attempts deleter options ids).map Attempt.batch :=
    batches_run deleter options ids
  have hcalls : calls = attempts deleter options ids := issued_batches_run deleter options ids
  have hverdict : c.verdict? = some (verdict (attempts deleter options ids)) :=
    verdict?_run options ids hd
  rw [hcalls, hverdict]
  refine ⟨⟨flatten_pieces size ids, ?_, ?_⟩, ?_, ?_, ?_, ?_, ?_, ?_⟩
  · intro piece hp
    exact ⟨ne_nil_of_mem_pieces hp, length_le_of_mem_pieces hpos hp⟩
  · intro piece hp
    exact length_eq_of_mem_dropLast_pieces hpos hp
  · rw [hbatches]
    exact attemptsFrom_batches_isPrefix deleter 0 _
  · intro number a detail ha he
    exact eq_length_of_isLast ha
      (Attempt.isLast_of_error? (Attempt.error?_eq_some_iff.mpr ⟨detail, rfl, he⟩))
  · rw [hbatches]
    refine (attemptsFrom_complete_of_not_crashed hd _).imp_right ?_
    rintro ⟨a, error, ha, he⟩
    obtain ⟨detail, _, hfail⟩ := Attempt.error?_eq_some_iff.mp he
    exact ⟨a, detail, ha, hfail⟩
  · refine ⟨(attempts deleter options ids).map Attempt.reported, ?_, ?_⟩
    · rw [List.forall₂_map_right_iff, List.forall₂_same]
      exact fun a _ => a.reports_reported
    · rw [← List.flatMap_def]
      exact readAll_run deleter options ids
  · intro error
    simp only [Option.some.injEq, ← Attempt.error?_eq_some_iff]
    exact verdict_eq_error_iff
  · intro hreach
    refine ⟨_, congrArg some (verdict_eq_ok ?_), rfl⟩
    intro a ha
    rw [Option.eq_none_iff_forall_ne_some]
    intro error he
    obtain ⟨detail, _, hfail⟩ := Attempt.error?_eq_some_iff.mp he
    exact hreach a ha detail hfail

/-- A refused object, a rejected batch, and an unreached store, with three objects left over. -/
theorem run_removes_stopped :
    let deleter := scripted [none, some (.failed (.operation "denied")),
      some (.failed (.transport "broken pipe"))] [("b", "locked")]
    let versions : List (String × Option String) := [("a", none), ("b", some "1"), ("c", some "2"),
      ("d", none), ("e", none), ("f", some "3"), ("g", none), ("g", some "1"), ("h", none)]
    let ids : List ObjectId := versions.map fun (key, versionId) => { key, versionId }
    let c := run deleter { batchSize := 2 } ids
    (∀ number batch words, deleter number batch ≠ .crashed words) ∧
    c.batches = [[⟨"a", none⟩, ⟨"b", some "1"⟩], [⟨"c", some "2"⟩, ⟨"d", none⟩],
      [⟨"e", none⟩, ⟨"f", some "3"⟩]] ∧
    c.readAll.1 = [.failure ⟨"b", some "1", "locked"⟩,
      .failure ⟨"c", some "2", "S3 operation failed: denied"⟩,
      .failure ⟨"d", none, "S3 operation failed: denied"⟩,
      .failure ⟨"e", none, "Transport failure: broken pipe"⟩,
      .failure ⟨"f", some "3", "Transport failure: broken pipe"⟩, .ended] ∧
    c.verdict? = some (.error (.transport "broken pipe")) := by
  intro deleter versions ids c
  have hd : ∀ number batch words, deleter number batch ≠ .crashed words := by
    intro number batch words
    rcases number with _ | _ | _ | number <;>
    · intro he
      cases he
  let first : Attempt := ⟨[⟨"a", none⟩, ⟨"b", some "1"⟩], .failures [⟨"b", some "1", "locked"⟩]⟩
  let second : Attempt := ⟨[⟨"c", some "2"⟩, ⟨"d", none⟩], .failed (.operation "denied")⟩
  let last : Attempt := ⟨[⟨"e", none⟩, ⟨"f", some "3"⟩], .failed (.transport "broken pipe")⟩
  have hbatches : c.batches = [first.batch, second.batch, last.batch] := by decide
  have hcalls : issued deleter c.batches = [first, second, last] := by
    rw [hbatches]
    rfl
  obtain ⟨_, _, _, _, ⟨reports, hall, hread⟩, hverdict, _⟩ :=
    run_removes deleter { batchSize := 2 } ids hd
  rw [hcalls] at hall
  obtain _ | ⟨hfirst, _ | ⟨hsecond, _ | ⟨hlast, ⟨⟩⟩⟩⟩ := hall
  obtain ⟨_, ⟨⟩, hdenied⟩ := hsecond.failed _ rfl
  obtain ⟨_, ⟨⟩, hbroken⟩ := hlast.failed _ rfl
  refine ⟨hd, hbatches, ?_, (hverdict _).mpr ⟨last, ?_, _, rfl, rfl⟩⟩
  · rw [hread, hfirst.answered _ rfl, hdenied, hbroken]
    rfl
  · rw [hcalls]
    exact List.mem_of_getLast? rfl

end Consumer

end ObjectStore.Removal
