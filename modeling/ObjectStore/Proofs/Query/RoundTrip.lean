import ObjectStore.Proofs.Query.Written
import ObjectStore.Text.ByteOrder

/-!
# Queries read back from their text

The text of a query holds its pairs, in ascending order of the keys and, for each key, in the
order of its values. Since no key is without a value, the pairs make up the whole query, so
that different queries have different texts, and only the query without parameters has the
empty one.
-/

namespace ObjectStore

/-! ## What the text is made of -/

/-- Whether a character is a hexadecimal digit, with the letters in upper case. -/
def Text.Hex.isUpperDigit (c : Char) : Bool := '0' ≤ c && c ≤ '9' || 'A' ≤ c && c ≤ 'F'

theorem Text.Hex.isUpperDigit_upperDigit : ∀ n < 16, isUpperDigit (upperDigit n) = true := by
  decide

namespace Query

open Text (Hex.isUpperDigit Hex.isUpperDigit_upperDigit Percent.isUnreserved Percent.encode
  Percent.encodeByte Percent.encodeBytes Percent.keeps)

/-- Unreserved characters, escapes of two upper-case digits, and the two separators. -/
inductive IsWritten : List Char → Prop where
  /-- The text may end anywhere. -/
  | nil : IsWritten []
  /-- An unreserved character. -/
  | unreserved {c : Char} {rest : List Char} (hc : Percent.isUnreserved c = true)
      (h : IsWritten rest) : IsWritten (c :: rest)
  /-- An escape. -/
  | escape {high low : Char} {rest : List Char} (hhigh : Hex.isUpperDigit high = true)
      (hlow : Hex.isUpperDigit low = true) (h : IsWritten rest) :
      IsWritten ('%' :: high :: low :: rest)
  /-- A separator. -/
  | separator {c : Char} {rest : List Char} (hc : c = '=' ∨ c = '&') (h : IsWritten rest) :
      IsWritten (c :: rest)

theorem IsWritten.append {text more : List Char} (h : IsWritten text) (hmore : IsWritten more) :
    IsWritten (text ++ more) := by
  induction h with
  | nil => exact hmore
  | unreserved hc _ ih => exact .unreserved hc ih
  | escape hhigh hlow _ ih => exact .escape hhigh hlow ih
  | separator hc _ ih => exact .separator hc ih

theorem isWritten_encodeByte (b : UInt8) :
    IsWritten (Percent.encodeByte Percent.isUnreserved b) := by
  have hb := b.toNat_lt
  rw [Percent.encodeByte]
  split
  · next hk =>
    rw [Percent.keeps, Bool.and_eq_true] at hk
    exact .unreserved hk.2 .nil
  · exact .escape (Hex.isUpperDigit_upperDigit _ (by omega))
      (Hex.isUpperDigit_upperDigit _ (by omega)) .nil

theorem isWritten_encodeBytes (bytes : List UInt8) :
    IsWritten (Percent.encodeBytes Percent.isUnreserved bytes) := by
  induction bytes with
  | nil => exact .nil
  | cons b bytes ih => exact (isWritten_encodeByte b).append ih

theorem isWritten_encodePair (pair : String × String) : IsWritten (encodePair pair).toList := by
  have htext (s : String) : IsWritten (Percent.encode s).toList := by
    rw [Percent.encode, String.toList_ofList]
    exact isWritten_encodeBytes (Text.utf8 s)
  rw [toList_encodePair]
  exact (htext pair.1).append (.separator (.inl rfl) (htext pair.2))

/-- Texts joined by separators make a text. -/
theorem isWritten_intercalate {texts : List (List Char)} (h : ∀ text ∈ texts, IsWritten text) :
    IsWritten (['&'].intercalate texts) := by
  induction texts with
  | nil => exact .nil
  | cons text texts ih =>
    have htext := h text List.mem_cons_self
    have hrest := ih fun other hm => h other (List.mem_cons_of_mem text hm)
    cases texts with
    | nil => simpa using htext
    | cons next texts =>
      rw [List.intercalate_cons_cons, List.append_assoc]
      exact htext.append (.separator (.inr rfl) hrest)

theorem isWritten_encode (q : Query) : IsWritten q.encode.toList := by
  rw [encode, String.toList_intercalate]
  apply isWritten_intercalate
  simp only [List.map_map, List.mem_map]
  rintro _ ⟨pair, _, rfl⟩
  exact isWritten_encodePair pair

/-! ## The pairs -/

/-- Among the pairs of ascending entries, those of a key are the values of its entry. -/
private theorem values_flatMap {entries : List (String × List String)}
    (h : entries.Pairwise fun a b => a.1 < b.1) (key : String) :
    ((entries.flatMap fun entry => entry.2.map (entry.1, ·)).filter (·.1 == key)).map Prod.snd =
      ((entries.find? (·.1 == key)).map (·.2)).getD [] := by
  induction entries with
  | nil => rfl
  | cons entry entries ih =>
    obtain ⟨hfirst, hrest⟩ := List.pairwise_cons.mp h
    rw [List.flatMap_cons, List.filter_append, List.map_append, ih hrest, List.find?_cons]
    by_cases hk : entry.1 = key
    · have hnone : entries.find? (·.1 == key) = none := by
        rw [List.find?_eq_none]
        intro other hm he
        have hlt := hfirst other hm
        rw [hk, beq_iff_eq.mp he] at hlt
        exact String.lt_irrefl key hlt
      simp [hk, hnone, List.filter_map, Function.comp_def]
    · have hne : (entry.1 == key) = false := beq_eq_false_iff_ne.mpr hk
      simp [hne, List.filter_map, Function.comp_def]

/-- The pairs of a key are its values, in their order. -/
theorem values_pairs (q : Query) (key : String) :
    (q.pairs.filter (·.1 == key)).map Prod.snd = q.getAll key :=
  values_flatMap q.values.ascending key

/-- Keys are written in ascending order of their bytes, equal ones one after the other. -/
theorem pairwise_pairs (q : Query) :
    q.pairs.Pairwise fun a b => a.1 = b.1 ∨ Text.utf8 a.1 < Text.utf8 b.1 := by
  rw [pairs, List.pairwise_flatMap]
  constructor
  · intro entry _
    rw [List.pairwise_map]
    exact List.pairwise_of_forall fun _ _ => .inl rfl
  · refine q.values.ascending.imp ?_
    intro a b hab pair hpair pair' hpair'
    obtain ⟨value, _, rfl⟩ := List.mem_map.mp hpair
    obtain ⟨value', _, rfl⟩ := List.mem_map.mp hpair'
    exact .inr (Text.utf8_lt_utf8 hab)

/-- Added pairs bring each key its values, after those that it has. -/
theorem getAll_addAll (q : Query) (pairs : List (String × String)) (key : String) :
    (q.addAll pairs).getAll key = q.getAll key ++ (pairs.filter (·.1 == key)).map Prod.snd := by
  induction pairs generalizing q with
  | nil => exact (List.append_nil _).symm
  | cons pair pairs ih =>
    rw [addAll, List.foldl_cons, ← addAll, ih, getAll_add]
    by_cases hk : key = pair.1
    · rw [if_pos hk, List.filter_cons, if_pos (beq_iff_eq.mpr hk.symm), List.map_cons,
        List.append_assoc, List.singleton_append]
    · have hne : ¬(pair.1 == key) = true := fun he => hk (beq_iff_eq.mp he).symm
      rw [if_neg hk, List.filter_cons, if_neg hne]

/-- A query is made of its pairs. -/
theorem ofPairs_pairs (q : Query) : ofPairs q.pairs = q := by
  apply ext_getAll
  intro key
  rw [ofPairs, getAll_addAll, values_pairs]
  rfl

/-- Only a query without parameters has no pairs. -/
theorem pairs_eq_nil_iff (q : Query) : q.pairs = [] ↔ q.isEmpty = true := by
  rw [pairs, List.flatMap_eq_nil_iff, isEmpty, SortedMap.isEmpty, List.isEmpty_iff]
  constructor
  · intro h
    refine List.eq_nil_iff_forall_not_mem.mpr ?_
    intro entry hm
    exact q.nonempty entry hm (List.map_eq_nil_iff.mp (h entry hm))
  · intro h entry hm
    rw [toList, h] at hm
    cases hm

/-! ## The text -/

/-- The text of a query reads back as its pairs. -/
theorem decode?_encode (q : Query) : decode? q.encode = some q.pairs := by
  rw [encode]
  cases h : q.pairs with
  | nil => rfl
  | cons pair pairs => exact decode?_intercalate (List.cons_ne_nil pair pairs)

theorem encode_eq_empty_iff (q : Query) : q.encode = "" ↔ q.isEmpty = true := by
  rw [← pairs_eq_nil_iff]
  constructor
  · intro h
    have hread := q.decode?_encode
    rw [h] at hread
    exact (Option.some.inj hread).symm
  · intro h
    rw [encode, h]
    rfl

/--
The text of a query, and what is read back from it: a pair for each value, the keys in ascending
order of their bytes, the values of a key in their order. This is the whole query, so that another
one has another text. The text holds nothing but unreserved characters, escapes and separators,
and it is empty if and only if there are no parameters.
-/
theorem encode_round_trip (q : Query) :
    decode? q.encode = some q.pairs ∧
    (q.pairs.Pairwise fun a b => a.1 = b.1 ∨ Text.utf8 a.1 < Text.utf8 b.1) ∧
    (∀ key, (q.pairs.filter (·.1 == key)).map Prod.snd = q.getAll key) ∧
    ofPairs q.pairs = q ∧
    (∀ other : Query, other.encode = q.encode ↔ other = q) ∧
    IsWritten q.encode.toList ∧
    (q.encode = "" ↔ q.isEmpty = true) := by
  refine ⟨q.decode?_encode, q.pairwise_pairs, q.values_pairs, q.ofPairs_pairs, ?_,
    q.isWritten_encode, q.encode_eq_empty_iff⟩
  intro other
  refine ⟨?_, congrArg encode⟩
  intro h
  have hpairs : other.pairs = q.pairs := by
    have hread := other.decode?_encode
    rw [h, q.decode?_encode] at hread
    exact (Option.some.inj hread).symm
  rw [← other.ofPairs_pairs, hpairs, q.ofPairs_pairs]

example : (((∅ : Query).set "versionId" "v 1").add "" "").encode = "=&versionId=v%201" := by
  decide +kernel

end Query

end ObjectStore
