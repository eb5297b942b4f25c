import Mathlib.Data.List.TakeWhile
import ObjectStore.Http.Message
import ObjectStore.Proofs.Http.Fields
import ObjectStore.Proofs.Query.RoundTrip

/-!
# What options do to a request

The query parameters of options come after those that a request has of its own, if it has any,
and nothing else of the target changes. Together with what happens to the header fields, this
is all that options do to a request.
-/

namespace ObjectStore.Http.Request

/-! ## Targets -/

/-- The part of a target before its first question mark. -/
def path (target : String) : List Char := target.toList.takeWhile (· != '?')

/-- The parameters of a target as they are written: the pieces behind its first question mark. -/
def parameters (target : String) : List (List Char) :=
  match target.toList.dropWhile (· != '?') with
  | [] => []
  | _ :: query => Query.pieces '&' query

variable {target : String} {before after : List Char}

private theorem forall_ne_of_not_mem (h : '?' ∉ before) : ∀ c ∈ before, (c != '?') = true := by
  intro c hc
  rw [bne_iff_ne]
  rintro rfl
  exact h hc

/-- The first question mark of a target divides it. -/
theorem path_and_parameters_of_split (h : target.toList = before ++ '?' :: after)
    (hbefore : '?' ∉ before) :
    path target = before ∧ parameters target = Query.pieces '&' after := by
  have hne := forall_ne_of_not_mem hbefore
  constructor
  · rw [path, h, List.takeWhile_append_of_pos hne, List.takeWhile_cons_of_neg (by simp),
      List.append_nil]
  · rw [parameters, h, List.dropWhile_append_of_pos hne, List.dropWhile_cons_of_neg (by simp)]

/-- A target without a question mark is a path, and has no parameters. -/
theorem path_and_parameters_of_not_mem (h : '?' ∉ target.toList) :
    path target = target.toList ∧ parameters target = [] := by
  have hne := forall_ne_of_not_mem h
  constructor
  · exact List.takeWhile_eq_self_iff.mpr hne
  · rw [parameters, List.dropWhile_eq_nil_iff.mpr hne]

theorem extendTarget_of_isEmpty (target : String) {query : Query} (h : query.isEmpty = true) :
    extendTarget target query = target :=
  if_pos h

theorem toList_extendTarget (target : String) {query : Query} (h : query.isEmpty = false) :
    (extendTarget target query).toList =
      target.toList ++ (if '?' ∈ target.toList then '&' else '?') :: query.encode.toList := by
  rw [extendTarget, if_neg (Bool.eq_false_iff.mp h)]
  by_cases hm : '?' ∈ target.toList <;> simp [hm]

/-- Further parameters come after those that the target has, and its path stays. -/
theorem path_and_parameters_extendTarget (target : String) (query : Query) :
    path (extendTarget target query) = path target ∧
      parameters (extendTarget target query) =
        parameters target ++ (query.pairs.map Query.encodePair).map String.toList := by
  cases hempty : query.isEmpty with
  | true =>
    rw [extendTarget_of_isEmpty target hempty, (query.pairs_eq_nil_iff).mpr hempty]
    exact ⟨rfl, (List.append_nil _).symm⟩
  | false =>
    have hpairs : query.pairs ≠ [] := by
      rw [ne_eq, query.pairs_eq_nil_iff, hempty]
      exact Bool.false_ne_true
    have hpieces : Query.pieces '&' query.encode.toList =
        (query.pairs.map Query.encodePair).map String.toList := Query.pieces_intercalate hpairs
    have hlist := toList_extendTarget target hempty
    by_cases hm : '?' ∈ target.toList
    · obtain ⟨before, after, hsplit, hbefore⟩ := List.eq_append_cons_of_mem hm
      rw [if_pos hm, hsplit, List.append_assoc, List.cons_append] at hlist
      obtain ⟨hpath, hparameters⟩ := path_and_parameters_of_split hsplit hbefore
      obtain ⟨hpath', hparameters'⟩ := path_and_parameters_of_split hlist hbefore
      refine ⟨hpath'.trans hpath.symm, ?_⟩
      rw [hparameters', hparameters, ← hpieces, Query.pieces_eq_splitOn, Query.pieces_eq_splitOn,
        Query.pieces_eq_splitOn, List.splitOn_append_cons_self]
    · rw [if_neg hm] at hlist
      obtain ⟨hpath, hparameters⟩ := path_and_parameters_of_not_mem hm
      obtain ⟨hpath', hparameters'⟩ := path_and_parameters_of_split hlist hm
      refine ⟨hpath'.trans hpath.symm, ?_⟩
      rw [hparameters', hparameters, hpieces, List.nil_append]

/-- The parameters behind those that a target has are the pairs of the query. -/
theorem mapM_decodePair?_drop_parameters (target : String) (query : Query) :
    ((parameters (extendTarget target query)).drop (parameters target).length).mapM
      Query.decodePair? = some query.pairs := by
  rw [(path_and_parameters_extendTarget target query).2, List.drop_left,
    Query.mapM_decodePair?_encodePair]

/-- No number sign stands in the text of a query. -/
theorem numberSign_not_mem_of_isWritten {text : List Char} (h : Query.IsWritten text) :
    '#' ∉ text := by
  induction h with
  | nil => exact List.not_mem_nil
  | unreserved hc _ ih =>
    rw [List.mem_cons]
    rintro (rfl | hm)
    · exact absurd hc (by decide)
    · exact ih hm
  | escape hhigh hlow _ ih =>
    simp only [List.mem_cons]
    rintro (he | rfl | rfl | hm)
    · exact absurd he (by decide)
    · exact absurd hhigh (by decide)
    · exact absurd hlow (by decide)
    · exact ih hm
  | separator hc _ ih =>
    rw [List.mem_cons]
    rintro (rfl | hm)
    · exact absurd hc (by decide)
    · exact ih hm

/-- A target has a fragment after the extension only if it had one before. -/
theorem numberSign_mem_extendTarget (target : String) (query : Query) :
    '#' ∈ (extendTarget target query).toList ↔ '#' ∈ target.toList := by
  cases hempty : query.isEmpty with
  | true => rw [extendTarget_of_isEmpty target hempty]
  | false =>
    rw [toList_extendTarget target hempty, List.mem_append, List.mem_cons]
    have hencode := numberSign_not_mem_of_isWritten query.isWritten_encode
    by_cases hm : '?' ∈ target.toList <;> simp [hm, hencode]

/-! ## Requests -/

open Fields (fold isSendable sendable)

/--
What options do to a request. A header can be sent if its name is a token and its value holds no
control byte but tabs. One that can be sent has its value, and no other one, in every spelling of
its name; one that cannot be sent changes nothing; a name that no header to be sent has keeps its
values. No two headers that can be sent have names that differ in case only, so that any order of
putting them gives the same fields. The path of the target stays, and so do its parameters; behind
them come the pairs of the query, in the order in which they are written, and read back as the
query. The target gets no fragment, and without query parameters it stays as it is.
-/
theorem project_of_options (r : Request) (h : Headers) (q : Query) :
    let p := r.project h q
    (∀ name value, isSendable name value = true ↔
      name ≠ "" ∧ HeaderName.isToken name = true ∧
        ∀ b ∈ Text.utf8 value, b = 9 ∨ 32 ≤ b ∧ b ≠ 127) ∧
    (∀ name value, (name, value) ∈ h.toList → isSendable name value = true →
      ∀ spelling, fold spelling = fold name → p.fields.getAll spelling = [value]) ∧
    (∀ name value, (name, value) ∈ h.toList → isSendable name value = false →
      r.project (h.erase name) q = p) ∧
    (∀ name, (∀ field ∈ sendable h.toList, fold name ≠ fold field.1) →
      p.fields.getAll name = r.fields.getAll name) ∧
    Set.InjOn (fun field => fold field.1) (sendable h.toList) ∧
    (∀ fields, fields.Perm h.toList → r.fields.tryReplaceAll fields = p.fields) ∧
    path p.target = path r.target ∧
    parameters p.target =
      parameters r.target ++ (q.pairs.map Query.encodePair).map String.toList ∧
    Query.decode? q.encode = some q.pairs ∧
    ((parameters p.target).drop (parameters r.target).length).mapM Query.decodePair? =
      some q.pairs ∧
    Query.ofPairs q.pairs = q ∧
    ('#' ∈ p.target.toList ↔ '#' ∈ r.target.toList) ∧
    (q.isEmpty = true → p.target = r.target) ∧
    p.method = r.method ∧ p.body = r.body := by
  intro p
  have hinj := Fields.injOn_sendable h
  obtain ⟨hpath, hparameters⟩ := path_and_parameters_extendTarget r.target q
  refine ⟨Fields.isSendable_iff, ?_, ?_, ?_, hinj, ?_, hpath, hparameters,
    q.decode?_encode, mapM_decodePair?_drop_parameters r.target q, q.ofPairs_pairs,
    numberSign_mem_extendTarget r.target q, extendTarget_of_isEmpty r.target, rfl, rfl⟩
  · intro name value hm hs spelling hn
    have hsent : (name, value) ∈ sendable h.toList := ⟨hm, hs⟩
    exact r.fields.getAll_tryReplaceAll_of_mem hinj hsent hn
  · intro name value hm hs
    rw [project, r.fields.project_erase h hm hs]
    rfl
  · intro name hname
    exact r.fields.getAll_tryReplaceAll_of_forall_ne hname
  · intro fields hp
    exact (r.fields.tryReplaceAll_perm hinj hp.symm).symm

/-- A header replaces the request's own, two cannot be sent, and a value holds a separator. -/
theorem project_of_options_replaced :
    let own : SortedMap (List String) :=
      ⟨[("range", ["bytes=0-1"]), ("te", ["trailers"])], by decide +kernel⟩
    let r : Request := { method := .get, target := "/b/k?x-id=GetObject", fields := ⟨own⟩ }
    let h := (∅ : Headers).setAll [("range", "bytes=5-"), ("te", "a\nb"), ("bad name", "c")]
    let q := (∅ : Query).set "versionId" "v&1"
    let p := r.project h q
    (("Range", "bytes=5-") ∈ h.toList ∧ isSendable "Range" "bytes=5-" = true) ∧
    (("bad name", "c") ∈ h.toList ∧ isSendable "bad name" "c" = false) ∧
    (∀ field ∈ sendable h.toList, fold "TE" ≠ fold field.1) ∧
    p.fields.getAll "RANGE" = ["bytes=5-"] ∧
    r.project (h.erase "bad name") q = p ∧
    p.fields.getAll "TE" = ["trailers"] ∧
    parameters p.target = ["x-id=GetObject".toList, "versionId=v%261".toList] := by
  intro own r h q p
  have hsent : ("Range", "bytes=5-") ∈ h.toList ∧ isSendable "Range" "bytes=5-" = true := by
    decide +kernel
  have hbad : ("bad name", "c") ∈ h.toList ∧ isSendable "bad name" "c" = false := by decide +kernel
  have hother : ∀ field ∈ sendable h.toList, fold "TE" ≠ fold field.1 := by
    have hall : ∀ field ∈ h.toList, isSendable field.1 field.2 = true →
        fold "TE" ≠ fold field.1 := by decide +kernel
    exact fun field hm => hall field hm.1 hm.2
  have hown : r.fields.getAll "TE" = ["trailers"] := by decide +kernel
  have hparameters : parameters r.target ++ (q.pairs.map Query.encodePair).map String.toList =
      ["x-id=GetObject".toList, "versionId=v%261".toList] := by decide +kernel
  obtain ⟨_, hreplaced, hskipped, hkept, _, _, _, hextended, _⟩ := project_of_options r h q
  have hrange : p.fields.getAll "RANGE" = ["bytes=5-"] :=
    hreplaced _ _ hsent.1 hsent.2 "RANGE" (Fields.fold_eq_fold_iff.mpr (by decide))
  have herase : r.project (h.erase "bad name") q = p := hskipped _ _ hbad.1 hbad.2
  exact ⟨hsent, hbad, hother, hrange, herase, (hkept _ hother).trans hown,
    hextended.trans hparameters⟩

end ObjectStore.Http.Request
