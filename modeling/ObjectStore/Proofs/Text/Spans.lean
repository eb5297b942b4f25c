import ObjectStore.Proofs.Text.Numerals
import ObjectStore.Text.Classes

/-!
# Where a row of characters ends

A reader takes as many characters of a kind as there are. What was written of that kind is taken
apart from what follows it if the latter does not go on with a character of the kind.
-/

namespace ObjectStore.Text

/-- A text does not go on with a character of a kind. -/
def Stops (p : Char → Bool) (rest : List Char) : Prop := ∀ c ∈ rest.head?, p c = false

variable {p : Char → Bool} {row rest : List Char}

@[simp] theorem stops_nil : Stops p [] := by simp [Stops]

@[simp] theorem stops_cons {c : Char} : Stops p (c :: rest) ↔ p c = false := by simp [Stops]

theorem Stops.append {s : List Char} (hs : Stops p s) (h : Stops p rest) : Stops p (s ++ rest) := by
  cases s with
  | nil => exact h
  | cons c s => simpa using hs

theorem Stops.take (h : Stops p rest) (n : Nat) : Stops p (rest.take n) := by
  cases rest with
  | nil => simp
  | cons c rest =>
    cases n with
    | zero => simp
    | succ n => simpa using h

theorem Stops.takeWhile_eq_nil (h : Stops p rest) : rest.takeWhile p = [] := by
  cases rest with
  | nil => rfl
  | cons c rest =>
    rw [stops_cons] at h
    rw [List.takeWhile_cons, h, if_neg Bool.false_ne_true]

theorem Stops.dropWhile_eq (h : Stops p rest) : rest.dropWhile p = rest := by
  cases rest with
  | nil => rfl
  | cons c rest =>
    rw [stops_cons] at h
    rw [List.dropWhile_cons, h, if_neg Bool.false_ne_true]

/-- A row of characters of a kind is taken whole, and nothing of what follows. -/
theorem takeWhile_append_of_stops (hrow : ∀ c ∈ row, p c = true) (h : Stops p rest) :
    (row ++ rest).takeWhile p = row := by
  rw [List.takeWhile_append_of_pos hrow, h.takeWhile_eq_nil, List.append_nil]

theorem dropWhile_append_of_stops (hrow : ∀ c ∈ row, p c = true) (h : Stops p rest) :
    (row ++ rest).dropWhile p = rest := by
  rw [List.dropWhile_append_of_pos hrow, h.dropWhile_eq]

/-! ## Digits -/

theorem range_of_isDigit {c : Char} (h : c.isDigit = true) : 48 ≤ c.toNat ∧ c.toNat ≤ 57 := by
  simpa [Char.isDigit, UInt32.le_iff_toNat_le] using h

/-- The characters of a kind that holds no digit are not digits. -/
theorem eq_false_of_isDigit (h : ∀ n < 10, p (Nat.digitChar n) = false) {c : Char}
    (hc : c.isDigit = true) : p c = false := by
  have hrange := range_of_isDigit hc
  have hchar : c = Nat.digitChar (c.toNat - 48) := by
    have hdigits : ∀ n < 10, Nat.digitChar n = Char.ofNat (48 + n) := by decide
    rw [hdigits _ (by omega), Nat.add_sub_cancel' hrange.1, Char.ofNat_toNat]
  rw [hchar]
  exact h _ (by omega)

theorem Decimal.IsNumeral.stops {digits : List Char} {n : Nat} (h : Decimal.IsNumeral digits n)
    (hp : ∀ n < 10, p (Nat.digitChar n) = false) (rest : List Char) : Stops p (digits ++ rest) := by
  obtain ⟨c, digits, rfl⟩ := List.exists_cons_of_ne_nil h.ne_nil
  exact stops_cons.mpr (eq_false_of_isDigit hp (h.isDigit c List.mem_cons_self))

/-- Only the digits of zero begin with a zero. -/
theorem Decimal.head?_toDigits_ne_zero {n : Nat} (h : n ≠ 0) :
    (Nat.toDigits 10 n).head? ≠ some '0' := by
  induction n using Nat.strongRecOn with
  | _ n ih =>
    by_cases hn : n < 10
    · have hdigits : ∀ n < 10, n ≠ 0 → Nat.digitChar n ≠ '0' := by decide
      rw [Nat.toDigits_of_lt_base hn]
      simpa using hdigits n hn h
    · have hfirst := ih (n / 10) (by omega) (by omega)
      obtain ⟨c, digits, hdigits⟩ :=
        List.exists_cons_of_ne_nil (Nat.toDigits_ne_nil (b := 10) (n := n / 10))
      rw [Nat.toDigits_of_base_le (by decide) (by omega), hdigits]
      rwa [hdigits] at hfirst

end ObjectStore.Text
