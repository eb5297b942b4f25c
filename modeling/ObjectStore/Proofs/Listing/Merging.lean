import ObjectStore.Listing.Page

/-!
# The records of a page

Interleaving objects and common beginnings is merging two lists by key, the objects first
where keys are equal. The records of a page are thus its objects and its common beginnings,
each once, and nothing else; they are in key order if both lists are. Where all keys of one
part of the lists are smaller than all keys of the rest, the two parts can be interleaved apart.
-/

namespace ObjectStore.Listing

theorem interleave_eq_merge (objects prefixes : List ObjectEntry) :
    interleave objects prefixes = objects.merge prefixes (fun o p => decide (o.key ≤ p.key)) := by
  fun_induction interleave objects prefixes with
  | case1 => simp
  | case2 o os ih => simpa using ih
  | case3 p ps ih => simpa using ih
  | case4 o os p ps h ih => simp [h, ih]
  | case5 o os p ps h ih => simp [h, ih]

theorem interleave_perm (objects prefixes : List ObjectEntry) :
    (interleave objects prefixes).Perm (objects ++ prefixes) := by
  rw [interleave_eq_merge]
  exact List.merge_perm_append _

/-- The records of a page are its objects and its common beginnings. -/
theorem Page.records_perm (page : Page) :
    page.records.Perm (page.objects ++ page.commonPrefixes.map .commonPrefix) := by
  rw [Page.records]
  split
  · next h => simp [List.isEmpty_iff.mp h]
  · exact interleave_perm ..

/-- A page without common beginnings is no special case. -/
theorem Page.records_eq_interleave (page : Page) :
    page.records = interleave page.objects (page.commonPrefixes.map .commonPrefix) := by
  rw [Page.records]
  split
  · next h => rw [List.isEmpty_iff.mp h, List.map_nil, interleave_eq_merge, List.merge_right]
  · rfl

/-- Two lists in key order are in key order when they are interleaved. -/
theorem pairwise_interleave {objects prefixes : List ObjectEntry}
    (hobjects : objects.Pairwise fun a b => a.key ≤ b.key)
    (hprefixes : prefixes.Pairwise fun a b => a.key ≤ b.key) :
    (interleave objects prefixes).Pairwise fun a b => a.key ≤ b.key := by
  have htrans (a b c : ObjectEntry) (hab : decide (a.key ≤ b.key) = true)
      (hbc : decide (b.key ≤ c.key) = true) : decide (a.key ≤ c.key) = true := by
    rw [decide_eq_true_eq] at hab hbc ⊢
    exact String.le_trans hab hbc
  have htotal (a b : ObjectEntry) : (decide (a.key ≤ b.key) || decide (b.key ≤ a.key)) = true := by
    rw [Bool.or_eq_true, decide_eq_true_eq, decide_eq_true_eq]
    exact String.le_total a.key b.key
  have hmerge := List.pairwise_merge htrans htotal objects prefixes
  simp only [decide_eq_true_eq] at hmerge
  rw [interleave_eq_merge]
  exact hmerge hobjects hprefixes

/-- Parts of lists can be interleaved one after the other, if their keys are. -/
theorem interleave_append {objects prefixes later laterPrefixes : List ObjectEntry}
    (h : ∀ a ∈ objects ++ prefixes, ∀ b ∈ later ++ laterPrefixes, a.key < b.key) :
    interleave (objects ++ later) (prefixes ++ laterPrefixes) =
      interleave objects prefixes ++ interleave later laterPrefixes := by
  fun_induction interleave objects prefixes with
  | case1 => rfl
  | case2 o os ih =>
    have hrest := ih fun a ha => h a (List.mem_cons_of_mem o ha)
    rw [List.cons_append, List.cons_append, ← hrest]
    -- Of what comes later, nothing is to be taken before the object.
    cases laterPrefixes with
    | nil => rw [List.nil_append, interleave]
    | cons p ps =>
      have hlt : o.key < p.key := h o (by simp) p (by simp)
      rw [List.nil_append, interleave, if_pos (String.not_lt.mp (String.lt_asymm hlt))]
  | case3 p ps ih =>
    have hrest := ih fun a ha => h a (List.mem_cons_of_mem p ha)
    rw [List.cons_append, List.cons_append, ← hrest]
    cases later with
    | nil => rw [List.nil_append, interleave]
    | cons o os =>
      have hlt : p.key < o.key := h p (by simp) o (by simp)
      rw [List.nil_append, interleave, if_neg (String.not_le.mpr hlt)]
  | case4 o os p ps hle ih =>
    have hrest := ih fun a ha => h a (List.mem_cons_of_mem o ha)
    rw [List.cons_append, List.cons_append, interleave, if_pos hle, ← List.cons_append, hrest,
      List.cons_append]
  | case5 o os p ps hle ih =>
    have hrest := ih fun a ha => h a (by
      rcases List.mem_append.mp ha with hm | hm
      · exact List.mem_append_left _ hm
      · exact List.mem_append_right _ (List.mem_cons_of_mem p hm))
    rw [List.cons_append, List.cons_append, interleave, if_neg hle, ← List.cons_append, hrest,
      List.cons_append]

end ObjectStore.Listing
