import ObjectStore.Proofs.Toml.Texts
import ObjectStore.Proofs.Toml.Words
import ObjectStore.Toml.Reader

/-!
# Values in TOML read back

What is written for a text, a number or a truth value is read as this value at the end of a line.
The first character tells which of the two readers it goes to.
-/

namespace ObjectStore.Toml

open ObjectStore.Text (Stops stops_cons)

/-- Characters that are read as one value at the end of a line. -/
structure WritesValue (written : List Char) (v : Value) : Prop where
  /-- The value does not begin with a blank. -/
  stops : Stops (fun c => c = ' ' || c = '\t') written
  /-- The value is read up to the end of the line. -/
  value?_append : ∀ rest, value? maxDepth (written ++ '\n' :: rest) = some (v, '\n' :: rest)

/-- Characters that begin neither with a blank nor with a bracket or brace are a value if they are
read as a text or a word. -/
theorem writesValue_of_cons {c : Char} {more : List Char} {v : Value}
    (hc : c ∉ [' ', '\t', '[', '\x7b'])
    (hread : ∀ rest, plainValue? (c :: (more ++ '\n' :: rest)) = some (v, '\n' :: rest)) :
    WritesValue (c :: more) v where
  stops := by
    simp only [List.mem_cons, not_or] at hc
    simp [hc]
  value?_append rest := by
    simp only [List.mem_cons, not_or] at hc
    rw [List.cons_append, maxDepth, value?]
    · exact hread rest
    all_goals
      intros
      simp_all

/-- Every form of a text begins with a quote. -/
theorem exists_write (s : List Char) : ∃ c more, Text.write s = c :: more ∧ (c = '"' ∨ c = '\x27') := by
  rw [Text.write]
  split
  · exact ⟨_, _, rfl, .inl rfl⟩
  · exact ⟨_, _, rfl, .inr rfl⟩
  · exact ⟨_, _, rfl, .inl rfl⟩
  · exact ⟨_, _, rfl, .inr rfl⟩

/-- A text is read back. -/
theorem writesValue_text (s : String) : WritesValue (Text.write s.toList) (.text s) := by
  obtain ⟨c, more, hc, hquote⟩ := exists_write s.toList
  have hread : ∀ rest, Text.read? (c :: (more ++ '\n' :: rest)) = some (s.toList, '\n' :: rest) := by
    intro rest
    rw [← List.cons_append, ← hc]
    exact Text.read?_write s.toList (stops_cons.mpr (by decide))
  rw [hc]
  rcases hquote with rfl | rfl
  · refine writesValue_of_cons (by decide) fun rest => ?_
    simp only [plainValue?, hread, Option.map_some, String.ofList_toList]
  · refine writesValue_of_cons (by decide) fun rest => ?_
    simp only [plainValue?, hread, Option.map_some, String.ofList_toList]

/-- A word is read back as its value. -/
theorem writesValue_word {word : List Char} {v : Value} (h : Scalar.IsWord word v) :
    WritesValue word v := by
  have hmarks : ∀ c ∈ [' ', '\t', '[', '\x7b', '"', '\x27'], Scalar.isWordChar c = false := by
    simp [Scalar.isWordChar]
  have hread := h.read?_append
  obtain ⟨c, more, rfl⟩ := List.exists_cons_of_ne_nil h.ne_nil
  have hnot : c ∉ [' ', '\t', '[', '\x7b', '"', '\x27'] := by
    intro hm
    have hc := h.isWordChar c List.mem_cons_self
    rw [hmarks c hm] at hc
    cases hc
  refine writesValue_of_cons (fun hm => hnot (List.mem_append_left ['"', '\x27'] hm)) fun rest => ?_
  simp only [List.mem_cons, not_or] at hnot
  rw [plainValue?]
  · exact hread rest
  all_goals
    intros
    simp_all

end ObjectStore.Toml
