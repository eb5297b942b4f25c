/-!
# Text-keyed maps in ascending key order

A map is its own list of entries, strictly ascending in the key. The order of
`String` compares code points, which is the order of the UTF-8 bytes, so the
list is at once the view of the map and the order in which it is written out.
Since the entries carry the whole value, two maps with the same lookups are equal.
-/

namespace ObjectStore

/-- A finite map from text to `β`, stored as entries in strictly ascending key order. -/
@[ext] structure SortedMap (β : Type) where
  /-- The entries, smallest key first. -/
  entries : List (String × β)
  /-- No key is stored twice, and the keys ascend. -/
  ascending : entries.Pairwise (fun a b => a.1 < b.1)
  deriving DecidableEq

namespace SortedMap

variable {β : Type}

/-- Put `v` under `k` into an ascending list, replacing what the key held. -/
def insertEntry (k : String) (v : β) : List (String × β) → List (String × β)
  | [] => [(k, v)]
  | e :: es =>
    if k < e.1 then (k, v) :: e :: es
    else if e.1 < k then e :: insertEntry k v es
    else (k, v) :: es

/-- An insertion brings the new entry and keeps the entries of all other keys. -/
theorem mem_insertEntry {k : String} {v : β} {a : String × β} {es : List (String × β)}
    (h : es.Pairwise (fun a b => a.1 < b.1)) :
    a ∈ insertEntry k v es ↔ a = (k, v) ∨ a ∈ es ∧ a.1 ≠ k := by
  induction es with
  | nil => simp [insertEntry]
  | cons e es ih =>
    have htail := List.pairwise_cons.mp h
    rw [insertEntry]
    split
    · rename_i hlt
      have hne : ∀ b ∈ e :: es, b.1 ≠ k := by
        rintro b hb rfl
        rcases List.mem_cons.mp hb with rfl | hb
        · exact String.lt_irrefl _ hlt
        · exact String.lt_irrefl _ (String.lt_trans hlt (htail.1 b hb))
      rw [List.mem_cons]
      exact or_congr_right ⟨fun ha => ⟨ha, hne a ha⟩, And.left⟩
    · rename_i hge
      split
      · rename_i hgt
        have hne : e.1 ≠ k := fun he => String.lt_irrefl _ (he ▸ hgt)
        rw [List.mem_cons, ih htail.2, List.mem_cons]
        constructor
        · rintro (rfl | rfl | ha)
          · exact .inr ⟨.inl rfl, hne⟩
          · exact .inl rfl
          · exact .inr ⟨.inr ha.1, ha.2⟩
        · rintro (rfl | ⟨rfl | ha, hk⟩)
          · exact .inr (.inl rfl)
          · exact .inl rfl
          · exact .inr (.inr ⟨ha, hk⟩)
      · rename_i hle
        have heq : k = e.1 := String.le_antisymm (String.not_lt.mp hle) (String.not_lt.mp hge)
        subst heq
        rw [List.mem_cons, List.mem_cons]
        refine or_congr_right ⟨fun ha => ⟨.inr ha, fun he => ?_⟩, ?_⟩
        · exact String.lt_irrefl _ (he ▸ htail.1 a ha)
        · rintro ⟨rfl | ha, hk⟩
          · exact absurd rfl hk
          · exact ha

/-- Insertion keeps the entries strictly ascending. -/
theorem pairwise_insertEntry (k : String) (v : β) {es : List (String × β)}
    (h : es.Pairwise (fun a b => a.1 < b.1)) :
    (insertEntry k v es).Pairwise (fun a b => a.1 < b.1) := by
  induction es with
  | nil => simp [insertEntry]
  | cons e es ih =>
    have htail := List.pairwise_cons.mp h
    rw [insertEntry]
    split
    · rename_i hlt
      refine List.pairwise_cons.mpr ⟨fun a ha => ?_, h⟩
      rcases List.mem_cons.mp ha with rfl | ha
      · exact hlt
      · exact String.lt_trans hlt (htail.1 a ha)
    · split
      · rename_i hlt
        refine List.pairwise_cons.mpr ⟨fun a ha => ?_, ih htail.2⟩
        rcases (mem_insertEntry htail.2).mp ha with rfl | ha
        · exact hlt
        · exact htail.1 a ha.1
      · rename_i hge hle
        have heq : k = e.1 := String.le_antisymm (String.not_lt.mp hle) (String.not_lt.mp hge)
        exact List.pairwise_cons.mpr ⟨fun a ha => heq ▸ htail.1 a ha, htail.2⟩

/-- The map without entries. -/
def empty : SortedMap β := ⟨[], .nil⟩

instance : EmptyCollection (SortedMap β) := ⟨empty⟩

instance : Inhabited (SortedMap β) := ⟨empty⟩

/-- Store `v` under `k`, replacing what the key held. -/
def insert (m : SortedMap β) (k : String) (v : β) : SortedMap β :=
  ⟨insertEntry k v m.entries, pairwise_insertEntry k v m.ascending⟩

/-- Remove the entry of `k`, if there is one. -/
def erase (m : SortedMap β) (k : String) : SortedMap β :=
  ⟨m.entries.filter (·.1 != k), m.ascending.filter _⟩

/-- The value stored under `k`. -/
def get? (m : SortedMap β) (k : String) : Option β :=
  (m.entries.find? (·.1 == k)).map (·.2)

/-- Whether `k` has an entry. -/
def contains (m : SortedMap β) (k : String) : Bool :=
  m.entries.any (·.1 == k)

/-- The number of entries. -/
def size (m : SortedMap β) : Nat := m.entries.length

/-- Whether there are no entries. -/
def isEmpty (m : SortedMap β) : Bool := m.entries.isEmpty

/-- The map of a list of pairs, a later pair replacing an earlier one of its key. -/
def ofList (pairs : List (String × β)) : SortedMap β :=
  pairs.foldl (fun m p => m.insert p.1 p.2) empty

end SortedMap

end ObjectStore
