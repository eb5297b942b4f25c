import ObjectStore.HeaderName

/-!
# The spellings of one name

Two texts name the same header if they are equal, or if both are names and differ in the case
of letters only. The canonical spelling stands for all spellings of a name: it is the same for
two texts exactly if they name the same header.
-/

namespace ObjectStore.HeaderName

/-- Two texts name the same header. -/
def Same (a b : String) : Prop :=
  a = b ∨ isToken a = true ∧ isToken b = true ∧
    a.toList.map Char.toLower = b.toList.map Char.toLower

instance (a b : String) : Decidable (Same a b) := inferInstanceAs (Decidable (_ ∨ _))

/-! ## Letters and their case -/

private theorem toLower_ofNat : ∀ n < 128, ∀ start,
    (withCase start (Char.ofNat n)).toLower = (Char.ofNat n).toLower ∧
    withCase start (Char.ofNat n).toLower = withCase start (Char.ofNat n) ∧
    ((Char.ofNat n).toLower == '-') = (Char.ofNat n == '-') := by decide

/-- Of lowering a letter and setting its case the later one counts; neither makes a hyphen. -/
theorem toLower_of_isTokenChar (start : Bool) {c : Char} (h : isTokenChar c = true) :
    (withCase start c).toLower = c.toLower ∧ withCase start c.toLower = withCase start c ∧
    (c.toLower == '-') = (c == '-') := by
  have hc := toLower_ofNat c.toNat (toNat_lt_of_isTokenChar h) start
  rwa [Char.ofNat_toNat] at hc

/-- Setting the case of words changes nothing but the case. -/
theorem map_toLower_capitalize {cs : List Char} (start : Bool) (h : cs.all isTokenChar = true) :
    (capitalize start cs).map Char.toLower = cs.map Char.toLower := by
  induction cs generalizing start with
  | nil => rfl
  | cons c cs ih =>
    rw [List.all_cons, Bool.and_eq_true] at h
    rw [capitalize, List.map_cons, List.map_cons, (toLower_of_isTokenChar start h.1).1, ih _ h.2]

/-- Words in their case do not tell in which case they were written. -/
theorem capitalize_map_toLower {cs : List Char} (start : Bool) (h : cs.all isTokenChar = true) :
    capitalize start (cs.map Char.toLower) = capitalize start cs := by
  induction cs generalizing start with
  | nil => rfl
  | cons c cs ih =>
    rw [List.all_cons, Bool.and_eq_true] at h
    obtain ⟨_, hcase, hhyphen⟩ := toLower_of_isTokenChar start h.1
    rw [List.map_cons, capitalize, capitalize, hcase, hhyphen, ih _ h.2]

/-! ## Spellings -/

theorem canonical_of_isToken {name : String} (h : isToken name = true) :
    canonical name = String.ofList (capitalize true name.toList) :=
  if_pos h

theorem canonical_of_not_isToken {name : String} (h : isToken name = false) :
    canonical name = name :=
  if_neg (Bool.eq_false_iff.mp h)

/-- A canonical spelling is a name if and only if the text is one. -/
theorem isToken_canonical (name : String) : isToken (canonical name) = isToken name := by
  cases h : isToken name with
  | true =>
    rw [canonical_of_isToken h, isToken, String.toList_ofList]
    exact all_capitalize true h
  | false => rw [canonical_of_not_isToken h, h]

/-- Texts have one canonical spelling exactly if they name the same header. -/
theorem canonical_eq_canonical_iff {a b : String} : canonical a = canonical b ↔ Same a b := by
  constructor
  · intro h
    have htoken : isToken a = isToken b := by
      rw [← isToken_canonical a, ← isToken_canonical b, h]
    cases hb : isToken b with
    | true =>
      have ha : isToken a = true := htoken.trans hb
      rw [canonical_of_isToken ha, canonical_of_isToken hb, String.ofList_inj] at h
      refine .inr ⟨ha, hb, ?_⟩
      rw [← map_toLower_capitalize true ha, h, map_toLower_capitalize true hb]
    | false =>
      rw [canonical_of_not_isToken (htoken.trans hb), canonical_of_not_isToken hb] at h
      exact .inl h
  · rintro (rfl | ⟨ha, hb, hlower⟩)
    · rfl
    · rw [canonical_of_isToken ha, canonical_of_isToken hb, ← capitalize_map_toLower true ha,
        hlower, capitalize_map_toLower true hb]

/-- The texts by the headers that they name. -/
def spellings : Setoid String where
  r := Same
  iseqv := by
    refine ⟨?_, ?_, ?_⟩
    · exact fun a => .inl rfl
    · intro a b hab
      exact canonical_eq_canonical_iff.mp (canonical_eq_canonical_iff.mpr hab).symm
    · intro a b c hab hbc
      exact canonical_eq_canonical_iff.mp
        ((canonical_eq_canonical_iff.mpr hab).trans (canonical_eq_canonical_iff.mpr hbc))

end ObjectStore.HeaderName
