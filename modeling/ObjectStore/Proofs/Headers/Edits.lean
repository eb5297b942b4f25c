import Mathlib.Data.Set.Card
import ObjectStore.Headers.Edit
import ObjectStore.Proofs.Headers.Spelling
import ObjectStore.Text.ByteOrder

/-!
# What edits make of headers

Whatever the spellings in which headers are set and taken away, a header has the value that
its last edit left, under every spelling of its name. Each header is stored once, in its
canonical spelling, and the headers are listed in the order of the bytes of their names.
-/

namespace ObjectStore.Headers

open HeaderName (Same canonical_eq_canonical_iff spellings)

/-- The value that the last edit of a header leaves, however it spells the name. -/
def last? (edits : List Edit) (name : String) : Option String :=
  (edits.findRev? fun edit => decide (Same name edit.name)).bind Edit.value?

/-! ## Lookups -/

/-- An edit decides about all spellings of its name and about nothing else. -/
theorem get?_edit (h : Headers) (edit : Edit) (name : String) :
    (h.edit edit).get? name = if Same name edit.name then edit.value? else h.get? name := by
  cases edit with
  | set other value =>
    rw [Headers.edit, get?_set]
    exact if_congr canonical_eq_canonical_iff rfl rfl
  | erase other =>
    rw [Headers.edit, get?_erase]
    exact if_congr canonical_eq_canonical_iff rfl rfl

/-- Of several edits the last one of the name decides. -/
theorem get?_editAll (h : Headers) (edits : List Edit) (name : String) :
    (h.editAll edits).get? name =
      match edits.findRev? fun edit => decide (Same name edit.name) with
      | some edit => edit.value?
      | none => h.get? name := by
  induction edits generalizing h with
  | nil => rfl
  | cons edit edits ih =>
    rw [editAll, List.foldl_cons, ← editAll, ih, get?_edit, List.findRev?]
    cases edits.findRev? fun edit => decide (Same name edit.name) with
    | some later => rfl
    | none => by_cases hs : Same name edit.name <;> simp [hs]

theorem get?_ofEdits (edits : List Edit) (name : String) :
    (ofEdits edits).get? name = last? edits name := by
  rw [ofEdits, get?_editAll, last?]
  cases edits.findRev? fun edit => decide (Same name edit.name) <;> rfl

/-- A lookup does not tell the spellings of a name apart. -/
theorem get?_canonical (h : Headers) (name : String) :
    h.get? (HeaderName.canonical name) = h.get? name := by
  rw [get?, HeaderName.canonical_canonical, get?]

theorem ofEdits_append (edits more : List Edit) :
    ofEdits (edits ++ more) = (ofEdits edits).editAll more :=
  List.foldl_append

theorem contains_eq_isSome (h : Headers) (name : String) :
    h.contains name = (h.get? name).isSome :=
  h.fields.contains_eq_isSome (HeaderName.canonical name)

/-! ## What is listed -/

/-- A header is listed under its canonical name, with the value that it has. -/
theorem mem_toList_iff (h : Headers) (name value : String) :
    (name, value) ∈ h.toList ↔ HeaderName.canonical name = name ∧ h.get? name = some value := by
  constructor
  · intro hm
    have hname : HeaderName.canonical name = name := h.canonical (name, value) hm
    refine ⟨hname, ?_⟩
    rw [get?, hname]
    exact SortedMap.get?_eq_some_iff.mpr hm
  · rintro ⟨hname, hvalue⟩
    rw [get?, hname] at hvalue
    exact SortedMap.get?_eq_some_iff.mp hvalue

/-- The names are listed in the order of their bytes, none of them twice. -/
theorem pairwise_utf8_toList (h : Headers) :
    (h.toList.map fun field => Text.utf8 field.1).Pairwise (· < ·) :=
  List.pairwise_map.mpr (h.fields.ascending.imp Text.utf8_lt_utf8)

/-- Two listed headers have different names, and not merely different spellings. -/
theorem injOn_toList (h : Headers) :
    Set.InjOn (fun field : String × String => Quotient.mk spellings field.1)
      {field | field ∈ h.toList} := by
  rintro ⟨name, value⟩ hm ⟨name', value'⟩ hm' hsame
  obtain ⟨hname, hvalue⟩ := (h.mem_toList_iff name value).mp hm
  obtain ⟨hname', hvalue'⟩ := (h.mem_toList_iff name' value').mp hm'
  have he : HeaderName.canonical name = HeaderName.canonical name' :=
    canonical_eq_canonical_iff.mpr (Quotient.exact hsame)
  rw [hname, hname'] at he
  subst he
  rw [Option.some.inj (hvalue.symm.trans hvalue')]

/-- There are as many headers as names that have a value, each counted in one spelling. -/
theorem encard_names (h : Headers) :
    {c : Quotient spellings | ∃ name, c = ⟦name⟧ ∧ (h.get? name).isSome = true}.encard = h.size := by
  have hlisted : {c : Quotient spellings | ∃ name, c = ⟦name⟧ ∧ (h.get? name).isSome = true} =
      (fun field : String × String => Quotient.mk spellings field.1) ''
        {field | field ∈ h.toList} := by
    ext c
    constructor
    · rintro ⟨name, rfl, hsome⟩
      obtain ⟨value, hvalue⟩ := Option.isSome_iff_exists.mp hsome
      have hspelling := HeaderName.canonical_canonical name
      refine ⟨(HeaderName.canonical name, value), ?_, ?_⟩
      · exact (h.mem_toList_iff _ _).mpr ⟨hspelling, (h.get?_canonical name).trans hvalue⟩
      · exact Quotient.sound (canonical_eq_canonical_iff.mp hspelling)
    · rintro ⟨⟨name, value⟩, hm, rfl⟩
      refine ⟨name, rfl, ?_⟩
      rw [((h.mem_toList_iff name value).mp hm).2]
      rfl
  have hnodup : h.toList.Nodup := h.fields.nodup_entries
  rw [hlisted, h.injOn_toList.encard_image, ← List.coe_toFinset,
    Set.encard_coe_eq_coe_finsetCard, List.toFinset_card_of_nodup hnodup]
  rfl

/--
Headers are a map on names, not on spellings. The canonical spelling is canonical itself, and
two texts share it exactly if they are equal or are names that differ in case only. Whatever
edits were made, with whatever texts for names, the headers are stored in canonical spellings
alone, in ascending order of the bytes, as many as there are names with a value; and under every
spelling a lookup finds, and a removal takes away, the value that the last edit of the name left.
-/
theorem ofEdits_by_name (edits : List Edit) :
    let h := ofEdits edits
    (∀ name, HeaderName.canonical (HeaderName.canonical name) = HeaderName.canonical name) ∧
    (∀ a b, HeaderName.canonical a = HeaderName.canonical b ↔
      a = b ∨ HeaderName.isToken a = true ∧ HeaderName.isToken b = true ∧
        a.toList.map Char.toLower = b.toList.map Char.toLower) ∧
    (∀ name value, (name, value) ∈ h.toList ↔
      HeaderName.canonical name = name ∧ last? edits name = some value) ∧
    (h.toList.map fun field => Text.utf8 field.1).Pairwise (· < ·) ∧
    {c : Quotient spellings | ∃ name, c = ⟦name⟧ ∧ (last? edits name).isSome = true}.encard =
      h.size ∧
    ∀ name, h.get? name = last? edits name ∧ h.contains name = (last? edits name).isSome ∧
      h.remove name = (last? edits name, ofEdits (edits ++ [.erase name])) := by
  intro h
  have hget (name : String) : h.get? name = last? edits name := get?_ofEdits edits name
  refine ⟨HeaderName.canonical_canonical, ?_, ?_, h.pairwise_utf8_toList, ?_, ?_⟩
  · exact fun a b => canonical_eq_canonical_iff
  · intro name value
    rw [h.mem_toList_iff, hget]
  · rw [← h.encard_names]
    simp only [hget]
  · intro name
    refine ⟨hget name, ?_, ?_⟩
    · rw [h.contains_eq_isSome, hget]
    · rw [ofEdits_append, remove, hget]
      rfl

/-- Two spellings of a name are one header, two spellings of a text that is no name are two. -/
example : (ofEdits [.set "content-type" "text/plain", .set "bad header" "1",
    .set "Bad header" "2", .set "CONTENT-TYPE" "text/html"]).toList =
      [("Bad header", "2"), ("Content-Type", "text/html"), ("bad header", "1")] := by
  decide +kernel

end ObjectStore.Headers
