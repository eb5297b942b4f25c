import Mathlib.Data.List.Forall2
import ObjectStore.Client.Response

/-!
# What is read from a document

A record is read from the document in the body of a response, or the response counts as a
refusal, or as one that could not be read. However a response is spoiled, it was a response:
the failure is never one of those that mean that the store was not reached.
-/

namespace ObjectStore

/-- One action after another succeeds where each of them does. -/
theorem bind_eq_ok_iff {ε α β : Type} {x : Except ε α} {f : α → Except ε β} {b : β} :
    x >>= f = .ok b ↔ ∃ a, x = .ok a ∧ f a = .ok b := by
  cases x with
  | error e => exact ⟨fun h => absurd h (by simp [bind, Except.bind]), by simp⟩
  | ok a => simp [bind, Except.bind]

/-- One action after another fails where one of them does. -/
theorem bind_eq_error_iff {ε α β : Type} {x : Except ε α} {f : α → Except ε β} {e : ε} :
    x >>= f = .error e ↔ x = .error e ∨ ∃ a, x = .ok a ∧ f a = .error e := by
  cases x with
  | error e' => simp [bind, Except.bind]
  | ok a => simp [bind, Except.bind]

/-- A row is read where each of its members is read. -/
theorem Xml.mapM_eq_some_iff {α β : Type} {read : α → Option β} {members : List α}
    {values : List β} : members.mapM read = some values ↔ members.map read = values.map some := by
  induction members generalizing values with
  | nil => cases values <;> simp
  | cons member rest ih =>
    rw [List.mapM_cons, List.map_cons]
    cases values with
    | nil => cases read member <;> cases rest.mapM read <;> simp
    | cons value values =>
      rw [List.map_cons, List.cons.injEq, ← ih]
      cases read member <;> cases rest.mapM read <;> simp

/-- A row is read where each member is read as the value in its place. -/
theorem Xml.mapM_eq_some_iff_forall₂ {α β : Type} {read : α → Option β} {members : List α}
    {values : List β} : members.mapM read = some values ↔
      List.Forall₂ (fun member value => read member = some value) members values := by
  rw [mapM_eq_some_iff, ← List.forall₂_map_right_iff, ← List.forall₂_map_left_iff,
    List.forall₂_eq_eq_eq]

/-- What a value is read from is the text that is written for it. -/
theorem Xml.optional?_some_of_read {α : Type} {read : String → Option α} {write : α → String}
    (hread : ∀ text value, read text = some value → text = write value) {name : String}
    {content : List Node} {value? : Option α} (h : optional? read name content = some value?) :
    optional? some name content = some (value?.map write) := by
  obtain ⟨values, hvalues, rfl⟩ := Option.map_eq_some_iff.mp h
  have htexts : (children name content).mapM (fun inner => (textOf? inner).bind some) =
      some (values.map write) := by
    rw [mapM_eq_some_iff_forall₂, List.forall₂_map_right_iff]
    refine (mapM_eq_some_iff_forall₂.mp hvalues).imp fun inner value hvalue => ?_
    obtain ⟨text, htext, hvalue⟩ := Option.bind_eq_some_iff.mp hvalue
    rw [htext, Option.bind_some, hread text value hvalue]
  rw [optional?, htexts, Option.map_some, List.getLast?_map]

namespace Http.Response

variable {r : Response} {name : String}

/-- A body that cannot be had spoils the response. -/
theorem requireBody_of_error {failure : CallFailure} (h : r.requireBody = .error failure) :
    failure = .service r.status ∨ failure = .response r.status := by
  rcases bind_eq_error_iff.mp h with h | ⟨_, _, h⟩
  · rw [requireSuccess] at h
    split at h
    · cases h
    · exact .inl (Except.error.inj h).symm
  · split at h
    · cases h
    · exact .inr (Except.error.inj h).symm

/-- A document that cannot be had spoils the response. -/
theorem document_of_error {failure : CallFailure} (h : r.document name = .error failure) :
    failure = .service r.status ∨ failure = .response r.status := by
  rcases bind_eq_error_iff.mp h with h | ⟨body, _, h⟩
  · exact requireBody_of_error h
  · split at h
    · split at h
      · cases h
      · exact .inl (Except.error.inj h).symm
    · exact .inl (Except.error.inj h).symm

/-- What a response tells is what its document tells. -/
theorem record_eq_ok_iff {α : Type} {read : List Xml.Node → Option α} {a : α} :
    r.record name read = .ok a ↔
      ∃ content, r.document name = .ok content ∧ read content = some a := by
  rw [record, bind_eq_ok_iff]
  refine exists_congr fun content => and_congr_right fun _ => ?_
  cases read content with
  | none => simp [throw, throwThe, MonadExceptOf.throw]
  | some b => simp [pure, Except.pure]

/-- A record that cannot be read spoils the response. -/
theorem record_of_error {α : Type} {read : List Xml.Node → Option α} {failure : CallFailure}
    (h : r.record name read = .error failure) :
    failure = .service r.status ∨ failure = .response r.status := by
  rcases bind_eq_error_iff.mp h with h | ⟨content, _, h⟩
  · exact document_of_error h
  · split at h
    · cases h
    · exact .inl (Except.error.inj h).symm

end Http.Response

end ObjectStore
