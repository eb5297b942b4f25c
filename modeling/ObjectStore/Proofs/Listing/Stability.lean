import ObjectStore.Listing.Interleaving
import ObjectStore.Proofs.Listing.Merging

/-!
# Interleaving loses nothing and keeps the order

Each record of a page comes from an object or from a common beginning of keys. The records are
told apart by where they come from, since an object may look like a common beginning. In any page,
sorted or not, those that come from objects are the objects in their order, and those that come
from common beginnings are these in theirs. Of a page in key order the records are in key order,
an object first where keys are equal, and there is only one such arrangement.
-/

namespace ObjectStore.Listing

namespace Interleaving

variable {i next last : Interleaving} {n : Nat}

/-! ## Rounds -/

theorem step_eq_none_iff : i.step = none ↔ i.size = 0 := by
  obtain ⟨objects, commonPrefixes, records⟩ := i
  cases objects <;> cases commonPrefixes <;> simp [step, movesObject?, size]

/-- A round leaves one less, and what is to come of the interleaving as it was. -/
theorem of_step (h : i.step = some next) :
    next.size + 1 = i.size ∧ next.outlook = i.outlook := by
  obtain ⟨objects, commonPrefixes, records⟩ := i
  cases objects with
  | nil =>
    cases commonPrefixes with
    | nil => cases h
    | cons p ps =>
      obtain rfl := Option.some.inj h
      simp [move, size, outlook, interleave]
  | cons o os =>
    cases commonPrefixes with
    | nil =>
      obtain rfl := Option.some.inj h
      simp [move, size, outlook, interleave]
    | cons p ps =>
      obtain rfl := Option.some.inj h
      by_cases hle : o.key ≤ p.key
      · simp [move, size, outlook, interleave, hle]
        omega
      · simp [move, size, outlook, interleave, hle]
        omega

/-- Rounds leave as many less, and what is to come of the interleaving as it was. -/
theorem of_after (h : i.after n = some last) :
    last.size + n = i.size ∧ last.outlook = i.outlook := by
  induction n generalizing i with
  | zero =>
    obtain rfl := Option.some.inj h
    exact ⟨rfl, rfl⟩
  | succ n ih =>
    obtain ⟨next, hstep, hafter⟩ := Option.bind_eq_some_iff.mp h
    obtain ⟨hsize, houtlook⟩ := of_step hstep
    obtain ⟨hsize', houtlook'⟩ := ih hafter
    exact ⟨by omega, houtlook'.trans houtlook⟩

/-- There are as many rounds as there are objects and common beginnings. -/
theorem after_eq_none_iff : i.after n = none ↔ i.size < n := by
  induction n generalizing i with
  | zero => simp [after]
  | succ n ih =>
    rw [after]
    cases hstep : i.step with
    | none =>
      have hsize := step_eq_none_iff.mp hstep
      simp [hsize]
    | some next =>
      have hsize := (of_step hstep).1
      rw [Option.bind_some, ih]
      omega

/-- So far there are the first records of the page, one for each round. -/
theorem records_of_after {page : Page} (h : (start page).after n = some last) :
    last.records = page.records.take n := by
  obtain ⟨hsize, houtlook⟩ := of_after h
  have hpage : (start page).outlook = page.records := by
    rw [outlook, start, List.nil_append, ← Page.records_eq_interleave]
  have hlength : last.outlook.length = last.records.length + last.size := by
    rw [outlook, List.length_append, (interleave_perm ..).length_eq, List.length_append, size]
  have htotal : page.records.length = (start page).size := by
    rw [page.records_perm.length_eq, List.length_append, start, size]
  have hn : last.records.length = n := by
    rw [houtlook, hpage, htotal] at hlength
    omega
  rw [← hpage, ← houtlook, outlook, ← hn, List.take_left]

end Interleaving

/-! ## Where records come from -/

/-- What a record of a page comes from. -/
inductive Origin where
  /-- An object. -/
  | object (entry : ObjectEntry)
  /-- A common beginning of keys. -/
  | commonPrefix (key : String)
  deriving DecidableEq, Repr

namespace Origin

/-- The record. -/
def record : Origin → ObjectEntry
  | object entry => entry
  | commonPrefix key => .commonPrefix key

/-- The object that it is. -/
def object? : Origin → Option ObjectEntry
  | object entry => some entry
  | commonPrefix _ => none

/-- The common beginning that it is. -/
def commonPrefix? : Origin → Option String
  | object _ => none
  | commonPrefix key => some key

/-- The order of keys, with objects before common beginnings where keys are equal. -/
def Precedes (a b : Origin) : Prop :=
  a.record.key ≤ b.record.key ∧
    (a.record.key = b.record.key → b.object?.isSome = true → a.object?.isSome = true)

instance : DecidableRel Precedes := fun _ _ => inferInstanceAs (Decidable (_ ∧ _))

/-- An arrangement of objects and common beginnings: each once, and each kind in its order. -/
structure Arranges (arrangement : List Origin) (objects : List ObjectEntry) (keys : List String) :
    Prop where
  /-- The objects in it. -/
  objects_eq : arrangement.filterMap object? = objects
  /-- The common beginnings in it. -/
  keys_eq : arrangement.filterMap commonPrefix? = keys

/-- Objects and common beginnings interleaved by key. -/
def interleaved : List ObjectEntry → List String → List Origin
  | [], [] => []
  | o :: os, [] => object o :: interleaved os []
  | [], p :: ps => commonPrefix p :: interleaved [] ps
  | o :: os, p :: ps =>
    if o.key ≤ p then object o :: interleaved os (p :: ps)
    else commonPrefix p :: interleaved (o :: os) ps

variable {objects : List ObjectEntry} {keys : List String} {arrangement : List Origin}

/-- The records of a page are its objects and common beginnings interleaved. -/
theorem map_record_interleaved (objects : List ObjectEntry) (keys : List String) :
    (interleaved objects keys).map record = interleave objects (keys.map .commonPrefix) := by
  fun_induction interleaved objects keys with
  | case1 => rw [List.map_nil, List.map_nil, interleave]
  | case2 o os ih =>
    rw [List.map_nil] at ih
    rw [List.map_cons, List.map_nil, interleave, ih, record]
  | case3 p ps ih => rw [List.map_cons, List.map_cons, interleave, ih, record]
  | case4 o os p ps h ih =>
    have hle : o.key ≤ (ObjectEntry.commonPrefix p).key := h
    rw [List.map_cons, List.map_cons, interleave, if_pos hle, ih, record, List.map_cons]
  | case5 o os p ps h ih =>
    have hle : ¬ o.key ≤ (ObjectEntry.commonPrefix p).key := h
    rw [List.map_cons, List.map_cons, interleave, if_neg hle, ih, record]

/-- Interleaving is an arrangement, in whatever order objects and common beginnings are. -/
theorem arranges_interleaved (objects : List ObjectEntry) (keys : List String) :
    Arranges (interleaved objects keys) objects keys := by
  constructor
  · fun_induction interleaved objects keys with
    | case1 => rfl
    | case2 o os ih | case4 o os p ps h ih => rw [List.filterMap_cons, ih, object?]
    | case3 p ps ih | case5 o os p ps h ih => rw [List.filterMap_cons, object?, ih]
  · fun_induction interleaved objects keys with
    | case1 => rfl
    | case2 o os ih | case4 o os p ps h ih => rw [List.filterMap_cons, commonPrefix?, ih]
    | case3 p ps ih | case5 o os p ps h ih => rw [List.filterMap_cons, ih, commonPrefix?]

namespace Arranges

theorem object_mem_iff (h : Arranges arrangement objects keys) {o : ObjectEntry} :
    object o ∈ arrangement ↔ o ∈ objects := by
  rw [← h.objects_eq, List.mem_filterMap]
  constructor
  · intro hm
    exact ⟨_, hm, rfl⟩
  · rintro ⟨_ | _, hm, ⟨⟩⟩
    exact hm

theorem commonPrefix_mem_iff (h : Arranges arrangement objects keys) {key : String} :
    commonPrefix key ∈ arrangement ↔ key ∈ keys := by
  rw [← h.keys_eq, List.mem_filterMap]
  constructor
  · intro hm
    exact ⟨_, hm, rfl⟩
  · rintro ⟨_ | _, hm, ⟨⟩⟩
    exact hm

/-- What holds of all objects and of all common beginnings holds of all that are arranged. -/
theorem forall_mem (h : Arranges arrangement objects keys) {P : Origin → Prop}
    (hobjects : ∀ o ∈ objects, P (object o)) (hkeys : ∀ key ∈ keys, P (commonPrefix key)) :
    ∀ origin ∈ arrangement, P origin := by
  intro origin hm
  cases origin with
  | object o => exact hobjects o (h.object_mem_iff.mp hm)
  | commonPrefix key => exact hkeys key (h.commonPrefix_mem_iff.mp hm)

end Arranges

/-- Objects and common beginnings in key order are interleaved in that order. -/
theorem pairwise_interleaved (hobjects : objects.Pairwise fun a b => a.key ≤ b.key)
    (hkeys : keys.Pairwise (· ≤ ·)) : (interleaved objects keys).Pairwise Precedes := by
  -- An object goes before whatever has no smaller key.
  have hobject {o : ObjectEntry} {origin : Origin} (h : o.key ≤ origin.record.key) :
      (object o).Precedes origin := ⟨h, fun _ _ => rfl⟩
  have hbeginning {p key : String} (h : p ≤ key) : (commonPrefix p).Precedes (commonPrefix key) :=
    ⟨h, fun _ hsome => hsome⟩
  fun_induction interleaved objects keys with
  | case1 => exact .nil
  | case2 o os ih =>
    obtain ⟨ho, hos⟩ := List.pairwise_cons.mp hobjects
    have hall := (arranges_interleaved os []).forall_mem (P := (object o).Precedes)
      (fun other hm => hobject (ho other hm)) (by simp)
    exact .cons hall (ih hos hkeys)
  | case3 p ps ih =>
    obtain ⟨hp, hps⟩ := List.pairwise_cons.mp hkeys
    have hall := (arranges_interleaved [] ps).forall_mem (P := (commonPrefix p).Precedes)
      (by simp) (fun key hm => hbeginning (hp key hm))
    exact .cons hall (ih hobjects hps)
  | case4 o os p ps hle ih =>
    obtain ⟨ho, hos⟩ := List.pairwise_cons.mp hobjects
    obtain ⟨hp, _⟩ := List.pairwise_cons.mp hkeys
    have hleast : ∀ key ∈ p :: ps, o.key ≤ key :=
      List.forall_mem_cons.mpr ⟨hle, fun key hm => String.le_trans hle (hp key hm)⟩
    have hall := (arranges_interleaved os (p :: ps)).forall_mem (P := (object o).Precedes)
      (fun other hm => hobject (ho other hm)) (fun key hm => hobject (hleast key hm))
    exact .cons hall (ih hos hkeys)
  | case5 o os p ps hle ih =>
    obtain ⟨ho, _⟩ := List.pairwise_cons.mp hobjects
    obtain ⟨hp, hps⟩ := List.pairwise_cons.mp hkeys
    have hnone : ∀ other ∈ o :: os, ¬ other.key ≤ p :=
      List.forall_mem_cons.mpr ⟨hle, fun other hm hge => hle (String.le_trans (ho other hm) hge)⟩
    have hbefore : ∀ other ∈ o :: os, (commonPrefix p).Precedes (object other) := by
      intro other hm
      refine ⟨(String.le_total p other.key).resolve_right (hnone other hm), ?_⟩
      intro (heq : p = other.key)
      exact absurd (heq ▸ String.le_refl p) (hnone other hm)
    have hall := (arranges_interleaved (o :: os) ps).forall_mem (P := (commonPrefix p).Precedes)
      hbefore (fun key hm => hbeginning (hp key hm))
    exact .cons hall (ih hobjects hps)

/-- An arrangement in key order is the interleaving of what it arranges. -/
theorem Arranges.eq_interleaved (h : Arranges arrangement objects keys)
    (hpairwise : arrangement.Pairwise Precedes) : arrangement = interleaved objects keys := by
  obtain ⟨rfl, rfl⟩ := h
  induction arrangement with
  | nil => rw [List.filterMap_nil, List.filterMap_nil, interleaved]
  | cons origin rest ih =>
    obtain ⟨hfirst, hrest⟩ := List.pairwise_cons.mp hpairwise
    have hsplit : Arranges rest _ _ := ⟨rfl, rfl⟩
    have hih := ih hrest
    cases origin with
    | object o =>
      simp only [List.filterMap_cons, object?, commonPrefix?]
      cases hkeys : rest.filterMap commonPrefix? with
      | nil => rw [interleaved, ← hkeys, ← hih]
      | cons p ps =>
        have hle : o.key ≤ p :=
          (hfirst _ (hsplit.commonPrefix_mem_iff.mpr (hkeys ▸ List.mem_cons_self))).1
        rw [interleaved, if_pos hle, ← hkeys, ← hih]
    | commonPrefix p =>
      simp only [List.filterMap_cons, object?, commonPrefix?]
      cases hobjects : rest.filterMap object? with
      | nil => rw [interleaved, ← hobjects, ← hih]
      | cons o os =>
        obtain ⟨hle, hkind⟩ :=
          hfirst _ (hsplit.object_mem_iff.mpr (hobjects ▸ List.mem_cons_self))
        have hnot : ¬ o.key ≤ p := by
          intro hge
          cases hkind (String.le_antisymm hle hge) rfl
        rw [interleaved, if_neg hnot, ← hobjects, ← hih]

end Origin

/--
The records of a page, in whatever order the store names objects and common beginnings. They come
about in as many rounds as there are of both, and in no more; after each round there is one more of
them. They are an arrangement of the objects and common beginnings: each is there once, and each
kind in its order. If both kinds are in key order the records are as well, with objects before
common beginnings of the same key, and no other arrangement is.
-/
theorem Page.records_stable (page : Page) :
    let size := page.objects.length + page.commonPrefixes.length
    (∀ n, (Interleaving.start page).after n = none ↔ size < n) ∧
    (∀ n last, (Interleaving.start page).after n = some last → last.records = page.records.take n) ∧
    page.records.length = size ∧
    ∃ arrangement : List Origin, page.records = arrangement.map Origin.record ∧
      Origin.Arranges arrangement page.objects page.commonPrefixes ∧
      ((page.objects.Pairwise fun a b => a.key ≤ b.key) → page.commonPrefixes.Pairwise (· ≤ ·) →
        (page.records.Pairwise fun a b => a.key ≤ b.key) ∧
        arrangement.Pairwise Origin.Precedes ∧
        ∀ other, Origin.Arranges other page.objects page.commonPrefixes →
          other.Pairwise Origin.Precedes → other = arrangement) := by
  intro size
  have hsize : (Interleaving.start page).size = size := by
    rw [Interleaving.size, Interleaving.start, List.length_map]
  have hlength : page.records.length = size := by
    rw [page.records_perm.length_eq, List.length_append, List.length_map]
  refine ⟨fun n => hsize ▸ Interleaving.after_eq_none_iff, fun n last =>
    Interleaving.records_of_after, hlength,
    Origin.interleaved page.objects page.commonPrefixes, ?_, Origin.arranges_interleaved .., ?_⟩
  · rw [Origin.map_record_interleaved, Page.records_eq_interleave]
  · intro hobjects hkeys
    refine ⟨?_, Origin.pairwise_interleaved hobjects hkeys, ?_⟩
    · rw [Page.records_eq_interleave]
      exact pairwise_interleave hobjects (List.pairwise_map.mpr hkeys)
    · intro other harranges hpairwise
      exact harranges.eq_interleaved hpairwise

/-- Two objects have the key of a common beginning, and one has the key of another. -/
theorem Page.records_stable_ties :
    let page : Page :=
      { objects :=
          [{ key := "a", size := 1 }, { key := "b/", size := 2 }, { key := "b/", size := 3 },
            { key := "c/", size := 4 }]
        commonPrefixes := ["b/", "c/", "d/"] }
    (page.objects.Pairwise fun a b => a.key ≤ b.key) ∧ page.commonPrefixes.Pairwise (· ≤ ·) ∧
    page.records =
      [{ key := "a", size := 1 }, { key := "b/", size := 2 }, { key := "b/", size := 3 },
        .commonPrefix "b/", { key := "c/", size := 4 }, .commonPrefix "c/", .commonPrefix "d/"] ∧
    (Interleaving.start page).after 8 = none := by
  intro page
  have hobjects : page.objects.Pairwise fun a b => a.key ≤ b.key := by decide
  have hkeys : page.commonPrefixes.Pairwise (· ≤ ·) := by decide
  obtain ⟨hrounds, _, _, arrangement, hrecords, _, hsorted⟩ := Page.records_stable page
  obtain ⟨_, _, honly⟩ := hsorted hobjects hkeys
  let expected : List Origin :=
    [.object { key := "a", size := 1 }, .object { key := "b/", size := 2 },
      .object { key := "b/", size := 3 }, .commonPrefix "b/", .object { key := "c/", size := 4 },
      .commonPrefix "c/", .commonPrefix "d/"]
  have hexpected : expected = arrangement := honly expected ⟨rfl, rfl⟩ (by decide)
  exact ⟨hobjects, hkeys, hrecords.trans (hexpected ▸ rfl), (hrounds 8).mpr (by decide)⟩

end ObjectStore.Listing
