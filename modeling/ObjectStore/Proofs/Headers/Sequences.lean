import ObjectStore.Proofs.Headers.Edits

/-!
# Headers that are set in turn

Of fields that are set in turn, each name has the value of the last one that spells it in some way.
The names listed in the end are the canonical spellings of those that were set, and setting the same
fields once more changes nothing.
-/

namespace ObjectStore

/-- In an ascending list the last element of a kind is the greatest of its kind. -/
theorem findRev?_eq_some_iff_of_pairwise {α : Type} {r : α → α → Prop} {p : α → Bool} {l : List α}
    {a : α} (hr : ∀ a b, r a b → ¬ r b a) (h : l.Pairwise r) :
    l.findRev? p = some a ↔ a ∈ l ∧ p a = true ∧ ∀ b ∈ l, p b = true → b = a ∨ r b a := by
  rw [List.findRev?_eq_find?_reverse, List.find?_eq_some_iff_append]
  constructor
  · rintro ⟨ha, after, before, hl, hafter⟩
    obtain rfl : l = before.reverse ++ a :: after.reverse := by
      simpa using congrArg List.reverse hl
    refine ⟨by simp, ha, ?_⟩
    intro b hb hpb
    simp only [List.mem_append, List.mem_cons, List.mem_reverse] at hb
    rcases hb with hb | rfl | hb
    · exact .inr ((List.pairwise_append.mp h).2.2 b (List.mem_reverse.mpr hb) a List.mem_cons_self)
    · exact .inl rfl
    · exact absurd (hafter b hb) (by simp [hpb])
  · rintro ⟨hmem, ha, hgreatest⟩
    obtain ⟨before, after, rfl⟩ := List.append_of_mem hmem
    refine ⟨ha, after.reverse, before.reverse, by simp, ?_⟩
    intro b hb
    rw [List.mem_reverse] at hb
    have hab : r a b := (List.pairwise_cons.mp (List.pairwise_append.mp h).2.1).1 b hb
    rw [Bool.not_eq_true', ← Bool.not_eq_true]
    intro hpb
    rcases hgreatest b (by simp [hb]) hpb with rfl | hba
    · exact hr b b hab hab
    · exact hr a b hab hba

namespace Headers

variable {fields : List (String × String)} {name value : String}

/-! ## The last field of a name -/

/-- The value of the last field of a name, however it spells the name. -/
def lastField? (fields : List (String × String)) (name : String) : Option String :=
  (fields.findRev? fun field =>
    HeaderName.canonical name == HeaderName.canonical field.1).map Prod.snd

/-- Later fields are looked at first. -/
theorem lastField?_append (fields more : List (String × String)) (name : String) :
    lastField? (fields ++ more) name = (lastField? more name).or (lastField? fields name) := by
  simp only [lastField?, List.findRev?_eq_find?_reverse, List.reverse_append, List.find?_append]
  cases more.reverse.find? fun field =>
    HeaderName.canonical name == HeaderName.canonical field.1 <;> rfl

/-- Fields of other names have no value for a name. -/
theorem lastField?_eq_none_iff : lastField? fields name = none ↔
    ∀ field ∈ fields, HeaderName.canonical field.1 ≠ HeaderName.canonical name := by
  rw [lastField?, Option.map_eq_none_iff, List.findRev?_eq_find?_reverse, List.find?_eq_none]
  simp only [List.mem_reverse, beq_iff_eq, ne_comm (a := HeaderName.canonical name), ne_eq]

/-- A lookup does not tell the spellings of a name apart. -/
theorem lastField?_congr {name' : String}
    (h : HeaderName.canonical name = HeaderName.canonical name') :
    lastField? fields name = lastField? fields name' := by
  rw [lastField?, h, lastField?]

/-- A value was given by a field of the name. -/
theorem exists_of_lastField? (h : lastField? fields name = some value) :
    ∃ field ∈ fields, HeaderName.canonical field.1 = HeaderName.canonical name ∧
      field.2 = value := by
  obtain ⟨field, hfield, rfl⟩ := Option.map_eq_some_iff.mp h
  rw [List.findRev?_eq_find?_reverse] at hfield
  have hname := List.find?_some hfield
  exact ⟨field, List.mem_reverse.mp (List.mem_of_find?_eq_some hfield), (beq_iff_eq.mp hname).symm,
    rfl⟩

/-- A field whose name no other one has gives the name its value. -/
theorem lastField?_of_mem (hnodup : (fields.map fun field => HeaderName.canonical field.1).Nodup)
    (hm : (name, value) ∈ fields) : lastField? fields name = some value := by
  cases h : lastField? fields name with
  | none => exact absurd rfl (lastField?_eq_none_iff.mp h _ hm)
  | some other =>
    obtain ⟨field, hfield, hname, rfl⟩ := exists_of_lastField? h
    rw [List.inj_on_of_nodup_map hnodup hfield hm hname]

/-! ## Several fields in turn -/

/-- Headers with the same lookups are equal. -/
theorem ext_get? {h h' : Headers} (heq : ∀ name, h.get? name = h'.get? name) : h = h' := by
  apply Headers.ext
  apply SortedMap.ext_get?
  intro name
  ext value
  rw [SortedMap.get?_eq_some_iff, SortedMap.get?_eq_some_iff]
  change (name, value) ∈ h.toList ↔ (name, value) ∈ h'.toList
  rw [mem_toList_iff, mem_toList_iff, heq]

theorem get?_setAll_eq (h : Headers) (fields : List (String × String)) (name : String) :
    (h.setAll fields).get? name = (lastField? fields name).or (h.get? name) :=
  h.get?_setAll fields name

/-- Fields that were set make no difference when they are set again. -/
theorem setAll_setAll (h : Headers) (fields : List (String × String)) :
    (h.setAll fields).setAll fields = h.setAll fields := by
  apply ext_get?
  intro name
  rw [get?_setAll_eq, get?_setAll_eq, ← Option.or_assoc, Option.or_self]

/-- Of the fields that are set, the last one of each name is listed. -/
theorem mem_toList_setAll (fields : List (String × String)) (name value : String) :
    (name, value) ∈ (setAll ∅ fields).toList ↔
      HeaderName.canonical name = name ∧ lastField? fields name = some value := by
  have hget : (setAll ∅ fields).get? name = lastField? fields name :=
    (get?_setAll_eq ∅ fields name).trans Option.or_none
  rw [mem_toList_iff, hget]

/-- The names that are listed are those that were set, in canonical spelling. -/
theorem mem_names_setAll (fields : List (String × String)) (name : String) :
    name ∈ (setAll ∅ fields).toList.map Prod.fst ↔
      ∃ field ∈ fields, HeaderName.canonical field.1 = name := by
  have hlisted : name ∈ (setAll ∅ fields).toList.map Prod.fst ↔
      HeaderName.canonical name = name ∧ lastField? fields name ≠ none := by
    simp [mem_toList_setAll, Option.ne_none_iff_exists']
  rw [hlisted, ne_eq, lastField?_eq_none_iff]
  push Not
  constructor
  · rintro ⟨hname, field, hm, he⟩
    exact ⟨field, hm, he.trans hname⟩
  · rintro ⟨field, hm, rfl⟩
    have hspelling := HeaderName.canonical_canonical field.1
    exact ⟨hspelling, field, hm, hspelling.symm⟩

end Headers

end ObjectStore
