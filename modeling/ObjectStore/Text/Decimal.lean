/-!
# Decimal digits

Rows of decimal digits as they stand in dates and in answers of a store. A reader
takes ASCII digits only, and at least one.
-/

namespace ObjectStore.Text.Decimal

/-- Decimal digits of a number, with zeros in front up to `width` digits. -/
def padded (width n : Nat) : List Char :=
  let digits := Nat.toDigits 10 n
  List.replicate (width - digits.length) '0' ++ digits

/-- The number that the digits of `n` and one more digit write. -/
def push? (n : Nat) (c : Char) : Option Nat :=
  if c.isDigit then some (10 * n + (c.toNat - '0'.toNat)) else none

/-- The number that a non-empty row of decimal digits writes. -/
def nat? (digits : List Char) : Option Nat :=
  if digits.isEmpty then none else digits.foldlM push? 0

/-- The number that a row of decimal digits writes, which may have a sign. -/
def int? : List Char → Option Int
  | '-' :: digits => (nat? digits).map fun n => -(n : Int)
  | '+' :: digits => (nat? digits).map Int.ofNat
  | digits => (nat? digits).map Int.ofNat

private theorem push?_digitChar : ∀ d < 10, ∀ n, push? n d.digitChar = some (10 * n + d) := by
  intro d hd n
  have h : d.digitChar.isDigit = true ∧ d.digitChar.toNat - '0'.toNat = d := by
    revert d
    decide
  rw [push?, if_pos h.1, h.2]

private theorem foldlM_toDigits (n : Nat) : (Nat.toDigits 10 n).foldlM push? 0 = some n := by
  induction n using Nat.strongRecOn with
  | _ n ih =>
    by_cases h : n < 10
    · rw [Nat.toDigits_of_lt_base h, List.foldlM_cons, push?_digitChar n h, Nat.mul_zero, Nat.zero_add]
      rfl
    · rw [Nat.toDigits_of_base_le (by decide) (by omega), List.foldlM_append, ih (n / 10) (by omega)]
      change List.foldlM push? (n / 10) [_] = _
      rw [List.foldlM_cons, push?_digitChar (n % 10) (by omega), Nat.div_add_mod]
      rfl

/-- The digits of a number read back as the number. -/
theorem nat?_toDigits (n : Nat) : nat? (Nat.toDigits 10 n) = some n := by
  rw [nat?, if_neg (by simp [Nat.toDigits_ne_nil]), foldlM_toDigits]

/-- Zeros in front of the digits of a number do not change it. -/
theorem nat?_padded (width n : Nat) : nat? (padded width n) = some n := by
  have hz (k : Nat) : (List.replicate k '0').foldlM push? 0 = some 0 := by
    induction k with
    | zero => rfl
    | succ k ih => rw [List.replicate_succ, List.foldlM_cons]; exact ih
  rw [nat?, if_neg (by simp [padded, Nat.toDigits_ne_nil]), padded, List.foldlM_append, hz]
  exact foldlM_toDigits n

end ObjectStore.Text.Decimal
