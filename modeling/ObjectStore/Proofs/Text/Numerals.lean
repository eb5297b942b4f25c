import Mathlib.Data.List.Induction
import Mathlib.Data.Nat.Digits.Defs
import ObjectStore.Text.Decimal

/-!
# Numerals

A row of decimal digits writes a number by the places of its digits. The reader of such rows takes
them all, whether or not they begin with zeros, and nothing else, and rows that are filled up with
zeros have the width that was asked for unless the number needs more digits.
-/

namespace ObjectStore.Text.Decimal

/-- The number that a digit stands for. -/
def digitValue (c : Char) : Nat := c.toNat - '0'.toNat

/-- A row of decimal digits, at least one, and the number that it writes. -/
structure IsNumeral (digits : List Char) (n : Nat) : Prop where
  /-- There is a digit. -/
  ne_nil : digits ≠ []
  /-- There are only digits. -/
  isDigit : ∀ c ∈ digits, c.isDigit = true
  /-- The last digit counts ones, the one before it tens, and so on. -/
  value : Nat.ofDigits 10 (digits.reverse.map digitValue) = n

/-- Rows of digits are read, also those without a digit, and nothing else. -/
theorem foldlM_push?_eq_some_iff (digits : List Char) (n : Nat) :
    digits.foldlM push? 0 = some n ↔
      (∀ c ∈ digits, c.isDigit = true) ∧ Nat.ofDigits 10 (digits.reverse.map digitValue) = n := by
  -- From the right, since the last digit is the one that counts ones.
  induction digits using List.reverseRecOn generalizing n with
  | nil => simp [Nat.ofDigits_nil]
  | append_singleton digits c ih =>
    have hvalue : Nat.ofDigits 10 ((digits ++ [c]).reverse.map digitValue) =
        10 * Nat.ofDigits 10 (digits.reverse.map digitValue) + digitValue c := by
      rw [List.reverse_append, List.reverse_singleton, List.singleton_append, List.map_cons,
        Nat.ofDigits_cons, Nat.add_comm]
    rw [List.foldlM_append, hvalue, List.forall_mem_append, List.forall_mem_singleton]
    constructor
    · intro h
      obtain ⟨m, hm, hpush⟩ := Option.bind_eq_some_iff.mp h
      obtain ⟨hdigits, hvalue⟩ := (ih m).mp hm
      rw [List.foldlM_cons, push?] at hpush
      split at hpush
      · next hc => exact ⟨⟨hdigits, hc⟩, hvalue ▸ Option.some.inj hpush⟩
      · cases hpush
    · rintro ⟨⟨hdigits, hc⟩, rfl⟩
      rw [(ih _).mpr ⟨hdigits, rfl⟩]
      change List.foldlM push? _ [c] = _
      rw [List.foldlM_cons, push?, if_pos hc]
      rfl

/-- The numerals are what is read as a number. -/
theorem nat?_eq_some_iff (digits : List Char) (n : Nat) :
    nat? digits = some n ↔ IsNumeral digits n := by
  rw [nat?]
  split
  · next h =>
    constructor
    · intro hnone
      cases hnone
    · intro hn
      exact absurd (List.isEmpty_iff.mp h) hn.ne_nil
  · next h =>
    rw [foldlM_push?_eq_some_iff]
    constructor
    · rintro ⟨hdigits, hvalue⟩
      exact ⟨fun he => h (List.isEmpty_iff.mpr he), hdigits, hvalue⟩
    · intro hn
      exact ⟨hn.isDigit, hn.value⟩

/-- The digits of a number are a numeral of it. -/
theorem isNumeral_toDigits (n : Nat) : IsNumeral (Nat.toDigits 10 n) n :=
  (nat?_eq_some_iff ..).mp (nat?_toDigits n)

/-- A numeral with a hyphen before it if the number is negative. -/
def IsDecimal (text : List Char) (n : Int) : Prop :=
  ∃ digits, IsNumeral digits n.natAbs ∧ text = (if n < 0 then ['-'] else []) ++ digits

/-- An integer is written by the digits of its size, after a hyphen if it is negative. -/
theorem toList_toString (n : Int) :
    (toString n).toList = (if n < 0 then ['-'] else []) ++ Nat.toDigits 10 n.natAbs := by
  cases n with
  | ofNat n =>
    have hn : ¬(Int.ofNat n < 0) := Int.not_lt.mpr (Int.natCast_nonneg n)
    rw [if_neg hn]
    exact String.toList_ofList
  | negSucc n =>
    rw [if_pos (Int.negSucc_lt_zero n)]
    change ("-" ++ String.ofList (Nat.toDigits 10 (n + 1))).toList = _
    rw [String.toList_append]
    exact congrArg _ String.toList_ofList

theorem isDecimal_toString (n : Int) : IsDecimal (toString n).toList n :=
  ⟨Nat.toDigits 10 n.natAbs, isNumeral_toDigits n.natAbs, toList_toString n⟩

/-- The digits of a numeral, taken from the first on, count up to its number. -/
theorem IsNumeral.foldl_eq {digits : List Char} {n : Nat} (h : IsNumeral digits n) :
    digits.foldl (fun n c => 10 * n + digitValue c) 0 = n := by
  rw [← h.value]
  clear h
  induction digits using List.reverseRecOn with
  | nil => rfl
  | append_singleton digits c ih =>
    rw [List.reverse_append, List.reverse_singleton, List.singleton_append, List.map_cons,
      Nat.ofDigits_cons, ← ih, List.foldl_append, Nat.add_comm]
    rfl

theorem IsNumeral.ne_hyphen {digits : List Char} {n : Nat} (h : IsNumeral digits n) :
    ∀ c ∈ digits, c ≠ '-' := by
  rintro _ hc rfl
  exact absurd (h.isDigit _ hc) (by decide)

/-- A numeral of a given width. -/
structure IsRow (width : Nat) (digits : List Char) (n : Nat) : Prop extends
    IsNumeral digits n where
  /-- There are as many digits. -/
  length : digits.length = width

/-- A number that has no more digits than a row is wide fills the row. -/
theorem isRow_padded {width n : Nat} (hw : 0 < width) (hn : n < 10 ^ width) :
    IsRow width (padded width n) n where
  toIsNumeral := (nat?_eq_some_iff ..).mp (nat?_padded width n)
  length := by
    have hlength := Nat.toDigits_length 10 n width hw hn
    rw [padded, List.length_append, List.length_replicate]
    omega

end ObjectStore.Text.Decimal
