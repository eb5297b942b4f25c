import ObjectStore.Http.Fields
import ObjectStore.Proofs.Headers.Edits

/-!
# Headers put on the fields of a request

Of the headers that are put on a request, those that can be sent take the place of all values
of their names, and the others leave no trace. Headers have one spelling for each name, so that
no two of them that can be sent are about the same field: it does not matter in which order
they are put there.
-/

namespace ObjectStore.Http.Fields

variable {fields : List (String × String)} {field : String × String} {name : String}

/-! ## What can be sent -/

/-- A character may stand in a value unless it is written with a control byte other than the tab. -/
theorem isValueChar_iff (c : Char) :
    isValueChar c = true ↔ ∀ b ∈ String.utf8EncodeChar c, b = 9 ∨ 32 ≤ b ∧ b ≠ 127 := by
  have htab : c = '\t' ↔ c.val.toNat = 9 := by
    rw [← Char.val_inj, ← UInt32.toNat_inj]
    rfl
  simp only [isValueChar, Bool.or_eq_true, Bool.and_eq_true, decide_eq_true_eq,
    String.utf8EncodeChar, Char.toNat, htab]
  generalize c.val.toNat = n
  -- The bytes of a longer form are all above the control bytes.
  repeat' split
  all_goals
    simp only [List.forall_mem_cons, List.not_mem_nil, IsEmpty.forall_iff, forall_const, and_true,
      ← UInt8.toNat_inj, UInt8.le_iff_toNat_le, ne_eq, UInt8.toNat_ofNat', UInt8.reduceToNat]
    omega

/-- A field can be sent if its name is a token and its value has no control bytes but tabs. -/
theorem isSendable_iff (name value : String) : isSendable name value = true ↔
    name ≠ "" ∧ HeaderName.isToken name = true ∧
      ∀ b ∈ Text.utf8 value, b = 9 ∨ 32 ≤ b ∧ b ≠ 127 := by
  have hvalue : value.toList.all isValueChar = true ↔
      ∀ b ∈ Text.utf8 value, b = 9 ∨ 32 ≤ b ∧ b ≠ 127 := by
    rw [Text.utf8_eq_flatMap, List.all_eq_true, List.forall_mem_flatMap]
    exact forall₂_congr fun c _ => isValueChar_iff c
  rw [isSendable, Bool.and_eq_true, Bool.and_eq_true, hvalue, and_assoc, Bool.not_eq_true',
    ← Bool.not_eq_true, String.isEmpty_iff]

/-! ## One field -/

/-- Names are kept in one form if they differ in case only. -/
theorem fold_eq_fold_iff {a b : String} :
    fold a = fold b ↔ a.toList.map Char.toLower = b.toList.map Char.toLower := by
  rw [fold, fold, ← String.toList_inj, String.toList_map, String.toList_map]

/-- A replaced field has one value in every spelling of its name, and the others are as before. -/
theorem getAll_replace (f : Fields) (name value name' : String) :
    (f.replace name value).getAll name' =
      if fold name' = fold name then [value] else f.getAll name' := by
  rw [getAll, replace, SortedMap.get?_insert]
  split <;> rfl

theorem tryReplace_of_isSendable (f : Fields) {name value : String}
    (h : isSendable name value = true) : f.tryReplace name value = f.replace name value :=
  if_pos h

theorem tryReplace_of_not_isSendable (f : Fields) {name value : String}
    (h : isSendable name value = false) : f.tryReplace name value = f :=
  if_neg (Bool.eq_false_iff.mp h)

theorem getAll_tryReplace (f : Fields) (name value name' : String) :
    (f.tryReplace name value).getAll name' =
      if isSendable name value = true ∧ fold name' = fold name then [value]
      else f.getAll name' := by
  cases hs : isSendable name value with
  | true => simp only [f.tryReplace_of_isSendable hs, getAll_replace, true_and]
  | false => simp [f.tryReplace_of_not_isSendable hs]

/-- Fields of different names can be replaced in either order. -/
theorem replace_comm (f : Fields) {name name' : String} (h : fold name ≠ fold name')
    (value value' : String) :
    (f.replace name value).replace name' value' = (f.replace name' value').replace name value := by
  rw [replace, replace, replace, replace, SortedMap.insert_comm f.values h]

/-- Two fields can be put in either order, unless both can be sent and have one name. -/
theorem tryReplace_comm (f : Fields) {a b : String × String}
    (h : isSendable a.1 a.2 = true → isSendable b.1 b.2 = true → fold a.1 ≠ fold b.1) :
    (f.tryReplace a.1 a.2).tryReplace b.1 b.2 = (f.tryReplace b.1 b.2).tryReplace a.1 a.2 := by
  cases ha : isSendable a.1 a.2 with
  | false => rw [f.tryReplace_of_not_isSendable ha, tryReplace_of_not_isSendable _ ha]
  | true =>
    cases hb : isSendable b.1 b.2 with
    | false => rw [f.tryReplace_of_not_isSendable hb, tryReplace_of_not_isSendable _ hb]
    | true =>
      rw [f.tryReplace_of_isSendable ha, f.tryReplace_of_isSendable hb,
        tryReplace_of_isSendable _ ha, tryReplace_of_isSendable _ hb]
      exact f.replace_comm (h ha hb) a.2 b.2

/-! ## Several fields in turn -/

/-- Replace the values of several names in turn. -/
def tryReplaceAll (f : Fields) (fields : List (String × String)) : Fields :=
  fields.foldl (fun f field => f.tryReplace field.1 field.2) f

/-- The fields of a list that can be sent. -/
def sendable (fields : List (String × String)) : Set (String × String) :=
  {field | field ∈ fields ∧ isSendable field.1 field.2 = true}

/-- A name that no field to be sent has keeps its values. -/
theorem getAll_tryReplaceAll_of_forall_ne (f : Fields)
    (h : ∀ field ∈ sendable fields, fold name ≠ fold field.1) :
    (f.tryReplaceAll fields).getAll name = f.getAll name := by
  induction fields generalizing f with
  | nil => rfl
  | cons field fields ih =>
    have hrest : ∀ other ∈ sendable fields, fold name ≠ fold other.1 := by
      rintro other ⟨hm, hs⟩
      exact h other ⟨List.mem_cons_of_mem field hm, hs⟩
    rw [tryReplaceAll, List.foldl_cons, ← tryReplaceAll, ih _ hrest, getAll_tryReplace, if_neg]
    rintro ⟨hs, hn⟩
    exact h field ⟨List.mem_cons_self, hs⟩ hn

/-- A field to be sent has its value alone, unless another one has the same name. -/
theorem getAll_tryReplaceAll_of_mem (f : Fields)
    (hinj : Set.InjOn (fun field => fold field.1) (sendable fields))
    (hm : field ∈ sendable fields) (hn : fold name = fold field.1) :
    (f.tryReplaceAll fields).getAll name = [field.2] := by
  induction fields generalizing f with
  | nil => exact absurd hm.1 List.not_mem_nil
  | cons first fields ih =>
    have hsub : sendable fields ⊆ sendable (first :: fields) :=
      fun other ho => ⟨List.mem_cons_of_mem first ho.1, ho.2⟩
    rw [tryReplaceAll, List.foldl_cons, ← tryReplaceAll]
    by_cases hlater : field ∈ fields
    · exact ih _ (hinj.mono hsub) ⟨hlater, hm.2⟩
    · have hfirst : field = first := (List.mem_cons.mp hm.1).resolve_right hlater
      subst hfirst
      have hrest : ∀ other ∈ sendable fields, fold name ≠ fold other.1 := by
        intro other ho he
        have hsame : other = field := hinj (hsub ho) hm (he.symm.trans hn)
        exact hlater (hsame ▸ ho.1)
      rw [getAll_tryReplaceAll_of_forall_ne _ hrest, getAll_tryReplace, if_pos ⟨hm.2, hn⟩]

/-- Fields of which no two that can be sent have one name can be put in any order. -/
theorem tryReplaceAll_perm (f : Fields) {fields' : List (String × String)}
    (hinj : Set.InjOn (fun field => fold field.1) (sendable fields))
    (hp : fields.Perm fields') : f.tryReplaceAll fields = f.tryReplaceAll fields' := by
  apply hp.foldl_eq'
  intro a ha b hb g
  by_cases hab : a = b
  · subst hab
    rfl
  · apply g.tryReplace_comm
    intro hsa hsb he
    exact hab (hinj ⟨ha, hsa⟩ ⟨hb, hsb⟩ he)

/-! ## Headers -/

/-- Headers that can be sent have names that differ in more than the case. -/
theorem injOn_sendable (h : Headers) :
    Set.InjOn (fun field => fold field.1) (sendable h.toList) := by
  rintro a ⟨ha, hsa⟩ b ⟨hb, hsb⟩ he
  obtain ⟨_, hatoken, _⟩ := (isSendable_iff a.1 a.2).mp hsa
  obtain ⟨_, hbtoken, _⟩ := (isSendable_iff b.1 b.2).mp hsb
  have hsame : HeaderName.Same a.1 b.1 := .inr ⟨hatoken, hbtoken, fold_eq_fold_iff.mp he⟩
  exact h.injOn_toList ha hb (Quotient.sound hsame)

theorem project_eq (f : Fields) (h : Headers) : f.project h = f.tryReplaceAll h.toList := rfl

/-- The spelling of a name does not matter for whether its field can be sent. -/
theorem isSendable_congr {a b : String} (h : HeaderName.Same a b) (value : String) :
    isSendable a value = isSendable b value := by
  rcases h with rfl | ⟨ha, hb, hlower⟩
  · rfl
  · have hempty : a = "" ↔ b = "" := by
      rw [← String.toList_eq_nil_iff, ← String.toList_eq_nil_iff,
        ← List.map_eq_nil_iff (f := Char.toLower), hlower, List.map_eq_nil_iff]
    rw [Bool.eq_iff_iff, isSendable_iff, isSendable_iff, ha, hb, ne_eq, hempty]

/-- A field has the value of its header if that can be sent, and else the values that it had. -/
theorem getAll_project (f : Fields) (h : Headers) (hname : HeaderName.isToken name = true) :
    (f.project h).getAll name =
      ((h.get? name).filter (isSendable name)).elim (f.getAll name) ([·]) := by
  have hspelling : HeaderName.Same (HeaderName.canonical name) name :=
    HeaderName.canonical_eq_canonical_iff.mp (HeaderName.canonical_canonical name)
  rw [project_eq]
  cases hvalue : (h.get? name).filter (isSendable name) with
  | some value =>
    obtain ⟨hget, hs⟩ := Option.filter_eq_some_iff.mp hvalue
    have hm : (HeaderName.canonical name, value) ∈ sendable h.toList := by
      refine ⟨(h.mem_toList_iff _ _).mpr ⟨HeaderName.canonical_canonical name, ?_⟩, ?_⟩
      · rw [h.get?_canonical, hget]
      · rw [isSendable_congr hspelling, hs]
    have hfold : fold name = fold (HeaderName.canonical name) := by
      rw [fold_eq_fold_iff, HeaderName.canonical_of_isToken hname, String.toList_ofList]
      exact (HeaderName.map_toLower_capitalize true hname).symm
    exact f.getAll_tryReplaceAll_of_mem (injOn_sendable h) hm hfold
  | none =>
    refine f.getAll_tryReplaceAll_of_forall_ne ?_
    rintro ⟨other, value⟩ ⟨hm, hs⟩ he
    have hother : HeaderName.isToken other = true := ((isSendable_iff other value).mp hs).2.1
    have hsame : HeaderName.Same name other := .inr ⟨hname, hother, fold_eq_fold_iff.mp he⟩
    have hget : h.get? name = some value := by
      rw [← h.get?_canonical, HeaderName.canonical_eq_canonical_iff.mpr hsame, h.get?_canonical]
      exact ((h.mem_toList_iff other value).mp hm).2
    rw [hget, Option.filter_some, if_pos ((isSendable_congr hsame value).trans hs)] at hvalue
    cases hvalue

/-- A header that cannot be sent might as well not be there. -/
theorem project_erase (f : Fields) (h : Headers) {value : String} (hm : (name, value) ∈ h.toList)
    (hs : isSendable name value = false) : f.project (h.erase name) = f.project h := by
  obtain ⟨hname, hvalue⟩ := (h.mem_toList_iff name value).mp hm
  rw [project_eq, project_eq, h.toList_erase, hname, tryReplaceAll, List.foldl_filter]
  apply List.foldl_ext
  rintro g ⟨other, value'⟩ ho
  by_cases hn : other = name
  · subst hn
    have hsame : value' = value :=
      Option.some.inj (((h.mem_toList_iff other value').mp ho).2.symm.trans hvalue)
    rw [hsame, if_neg (by simp), g.tryReplace_of_not_isSendable hs]
  · rw [if_pos (bne_iff_ne.mpr hn)]

end ObjectStore.Http.Fields
