import ObjectStore.SortedMap

/-!
# Lookups in text-keyed maps

What a lookup finds is what is stored (`get?_eq_some_iff`), and the lookups
determine the map (`ext_get?`). Each operation is described by the lookups that
come after it, so that no proof about maps has to look at the entries.
-/

namespace ObjectStore.SortedMap

variable {β : Type}

/-- A lookup finds an entry exactly when it is stored: no other entry has its key. -/
theorem get?_eq_some_iff {m : SortedMap β} {k : String} {v : β} :
    m.get? k = some v ↔ (k, v) ∈ m.entries := by
  obtain ⟨es, h⟩ := m
  simp only [get?]
  induction es with
  | nil => simp
  | cons e es ih =>
    have htail := List.pairwise_cons.mp h
    rw [List.find?_cons, List.mem_cons]
    by_cases hk : e.1 = k
    · have hne : (k, v) ∉ es := fun hm => String.lt_irrefl k (by simpa [hk] using htail.1 _ hm)
      simp only [hk, beq_self_eq_true, Option.map_some, Option.some.injEq, hne, or_false]
      exact ⟨fun hv => by rw [← hk, ← hv], fun he => congrArg Prod.snd he.symm⟩
    · have hne : (k, v) ≠ e := fun he => hk (congrArg Prod.fst he).symm
      simp only [beq_eq_false_iff_ne.mpr hk, hne, false_or]
      exact ih htail.2

/-- No entry is stored twice. -/
theorem nodup_entries (m : SortedMap β) : m.entries.Nodup := by
  refine List.Pairwise.imp (fun {a b} h he => ?_) m.ascending
  subst he
  exact String.lt_irrefl _ h

/-- Maps with the same lookups are equal, since their entries stand in the same order. -/
theorem ext_get? {m n : SortedMap β} (h : ∀ k, m.get? k = n.get? k) : m = n := by
  have hmem : ∀ e : String × β, e ∈ m.entries ↔ e ∈ n.entries := fun e => by
    rw [← get?_eq_some_iff (m := m), ← get?_eq_some_iff (m := n), h]
  have hp := (List.perm_ext_iff_of_nodup m.nodup_entries n.nodup_entries).mpr hmem
  exact SortedMap.ext (hp.eq_of_pairwise
    (fun _ _ _ _ hab hba => absurd (String.lt_trans hab hba) (String.lt_irrefl _))
    m.ascending n.ascending)

/-- An inserted value is found under its key, and the other lookups are as before. -/
theorem get?_insert (m : SortedMap β) (k k' : String) (v : β) :
    (m.insert k v).get? k' = if k' = k then some v else m.get? k' := by
  ext w
  rw [get?_eq_some_iff, insert, mem_insertEntry m.ascending]
  by_cases h : k' = k
  · simp [h, eq_comm]
  · simp [h, get?_eq_some_iff]

/-- Insertions under different keys can be made in either order. -/
theorem insert_comm (m : SortedMap β) {k k' : String} (h : k ≠ k') (v v' : β) :
    (m.insert k v).insert k' v' = (m.insert k' v').insert k v := by
  apply ext_get?
  intro key
  simp only [get?_insert]
  by_cases hk : key = k
  · simp [hk, h]
  · simp [hk]

/-- An erased key has no value, and the other lookups are as before. -/
theorem get?_erase (m : SortedMap β) (k k' : String) :
    (m.erase k).get? k' = if k' = k then none else m.get? k' := by
  ext w
  by_cases h : k' = k <;> simp [get?_eq_some_iff, erase, h]

@[simp] theorem get?_empty (k : String) : (empty : SortedMap β).get? k = none := rfl

/-- A key has an entry exactly when a lookup finds a value. -/
theorem contains_eq_isSome (m : SortedMap β) (k : String) : m.contains k = (m.get? k).isSome := by
  rw [contains, get?, Option.isSome_map, Bool.eq_iff_iff, List.find?_isSome, List.any_eq_true]

end ObjectStore.SortedMap
