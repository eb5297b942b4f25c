import ObjectStore.Proofs.Text.Spans
import ObjectStore.Toml.Scalar

/-!
# Words in TOML read back

A word ends where the line does. The digits of a number are a word that no date can be, and they are
read as the number as long as it fits 64 bits.
-/

namespace ObjectStore.Toml.Scalar

open ObjectStore.Text (Stops stops_cons)
open ObjectStore.Text.Decimal (digitValue isNumeral_toDigits)

/-- A word that is a literal of a value. -/
structure IsWord (word : List Char) (v : Value) : Prop where
  /-- There is a character. -/
  ne_nil : word ≠ []
  /-- Every character may stand in a word. -/
  isWordChar : ∀ c ∈ word, isWordChar c = true
  /-- The word as a whole is a literal of the value. -/
  ofWord? : ofWord? word = some v

/-- A word at the end of a line is read as the value that it is a literal of. -/
theorem IsWord.read?_append {word : List Char} {v : Value} (h : IsWord word v) (rest : List Char) :
    read? (word ++ '\n' :: rest) = some (v, '\n' :: rest) := by
  have hstop : Stops Scalar.isWordChar ('\n' :: rest) := stops_cons.mpr rfl
  rw [read?, Text.takeWhile_append_of_stops h.isWordChar hstop,
    Text.dropWhile_append_of_stops h.isWordChar hstop]
  exact congrArg (Option.map (·, '\n' :: rest)) h.ofWord?

/-! ## Numbers -/

variable {digits : List Char} {n : Nat}

theorem isDate_eq_false {word : List Char} (h : '-' ∉ word) : isDate word = false := by
  unfold isDate
  split
  · simp at h
  · rfl

theorem isTime_eq_false {word : List Char} (h : ':' ∉ word) (afterDate : Bool) :
    isTime afterDate word = false := by
  have htime : afterTime? word = none := by
    unfold afterTime?
    split
    · simp at h
    · rfl
  rw [isTime, htime]

/-- There is no date without a hyphen, and no time without a colon. -/
theorem isDateTime_eq_false {word : List Char} (hh : '-' ∉ word) (hc : ':' ∉ word) :
    isDateTime word = false := by
  have hdate : isDate (word.take 10) = false :=
    isDate_eq_false fun h => hh (List.mem_of_mem_take h)
  rw [isDateTime, isDate_eq_false hh, isTime_eq_false hc]
  split <;> simp [hdate]

theorem digit?_of_isDigit {c : Char} (h : c.isDigit = true) : digit? 10 c = some (digitValue c) := by
  have hrange := Text.range_of_isDigit h
  have hsmall : c.toNat - '0'.toNat < 10 := by
    change c.toNat - 48 < 10
    omega
  rw [digit?, if_pos h]
  exact if_pos hsmall

theorem grouped?_of_isDigit (hne : digits ≠ []) (h : ∀ c ∈ digits, c.isDigit = true) :
    grouped? 10 digits = some (digits.map digitValue) := by
  induction digits with
  | nil => exact absurd rfl hne
  | cons c digits ih =>
    obtain ⟨hc, hdigits⟩ := List.forall_mem_cons.mp h
    cases digits with
    | nil => rw [grouped?, digit?_of_isDigit hc, Option.map_some, List.map_singleton]
    | cons d digits =>
      have hrest := ih (List.cons_ne_nil d digits) hdigits
      rw [grouped?, digit?_of_isDigit hc, hrest]
      · rfl
      · exact List.cons_ne_nil d digits
      · intro rest heq
        have hd := hdigits d List.mem_cons_self
        rw [(List.cons.inj heq).1] at hd
        exact absurd hd (by decide)

/-- The digits of a number are read as its digits before a point. -/
theorem whole?_toDigits (n : Nat) :
    whole? (Nat.toDigits 10 n) = some ((Nat.toDigits 10 n).map digitValue) := by
  have hnum := isNumeral_toDigits n
  rw [whole?, grouped?_of_isDigit hnum.ne_nil hnum.isDigit, Option.bind_eq_bind, Option.bind_some,
    if_pos]
  · rfl
  · by_cases hn : n = 0
    · subst hn
      exact .inl rfl
    · right
      have hfirst := Text.Decimal.head?_toDigits_ne_zero hn
      obtain ⟨c, digits, hc⟩ := List.exists_cons_of_ne_nil hnum.ne_nil
      have hrange := Text.range_of_isDigit (hnum.isDigit c (hc ▸ List.mem_cons_self))
      rw [hc] at hfirst ⊢
      intro hzero
      apply hfirst
      have hvalue : c.toNat - 48 = 0 := Option.some.inj hzero
      have hcode : c.toNat = 48 := by omega
      rw [List.head?_cons, ← Char.ofNat_toNat c, hcode]

theorem not_mem_toDigits {c : Char} (h : c.isDigit = false) (n : Nat) : c ∉ Nat.toDigits 10 n := by
  intro hmem
  rw [(isNumeral_toDigits n).isDigit c hmem] at h
  cases h

theorem splitSign_toDigits (n : Nat) :
    splitSign (Nat.toDigits 10 n) = (false, Nat.toDigits 10 n) := by
  rw [splitSign]
  · intro rest heq
    exact not_mem_toDigits (by decide : '-'.isDigit = false) n (heq ▸ List.mem_cons_self)
  · intro rest heq
    exact not_mem_toDigits (by decide : '+'.isDigit = false) n (heq ▸ List.mem_cons_self)

/-- The digits of a number that fits 64 bits are read as this number. -/
theorem integer?_toDigits (h : n ≤ 9223372036854775807) :
    integer? (Nat.toDigits 10 n) = some (.integer n) := by
  have hvalue : valueOf 10 ((Nat.toDigits 10 n).map digitValue) = n := by
    rw [valueOf, List.foldl_map]
    exact (isNumeral_toDigits n).foldl_eq
  have hmark : ∀ {mark : Char} {digits : List Char}, mark.isDigit = false →
      Nat.toDigits 10 n ≠ '0' :: mark :: digits := by
    intro mark digits hm heq
    exact not_mem_toDigits hm n (heq ▸ List.mem_cons_of_mem '0' List.mem_cons_self)
  rw [integer?]
  · rw [splitSign_toDigits]
    simp only [whole?_toDigits, hvalue, Option.map_some, Option.bind_eq_bind, Option.bind_some,
      Bool.false_eq_true, if_false]
    rw [if_pos (by omega)]
    rfl
  · exact fun digits => hmark (by decide)
  · exact fun digits => hmark (by decide)
  · exact fun digits => hmark (by decide)

/-- The digits of a number that fits 64 bits are a literal of it. -/
theorem isWord_toDigits (h : n ≤ 9223372036854775807) : IsWord (Nat.toDigits 10 n) (.integer n) where
  ne_nil := Nat.toDigits_ne_nil
  isWordChar c hc := by
    simp [isWordChar, Char.isAlphanum, (isNumeral_toDigits n).isDigit c hc]
  ofWord? := by
    have htrue : Nat.toDigits 10 n ≠ ['t', 'r', 'u', 'e'] := by
      intro heq
      exact not_mem_toDigits (by decide : 't'.isDigit = false) n (heq ▸ List.mem_cons_self)
    have hfalse : Nat.toDigits 10 n ≠ ['f', 'a', 'l', 's', 'e'] := by
      intro heq
      exact not_mem_toDigits (by decide : 'f'.isDigit = false) n (heq ▸ List.mem_cons_self)
    have hdate := isDateTime_eq_false (not_mem_toDigits (by decide : '-'.isDigit = false) n)
      (not_mem_toDigits (by decide : ':'.isDigit = false) n)
    rw [Scalar.ofWord?, if_neg htrue, if_neg hfalse, hdate, if_neg Bool.false_ne_true,
      integer?_toDigits h]
    rfl

/-! ## Truth values -/

theorem isWord_true : IsWord ['t', 'r', 'u', 'e'] (.bool true) where
  ne_nil := List.cons_ne_nil _ _
  isWordChar := by simp [Scalar.isWordChar]
  ofWord? := rfl

theorem isWord_false : IsWord ['f', 'a', 'l', 's', 'e'] (.bool false) where
  ne_nil := List.cons_ne_nil _ _
  isWordChar := by simp [Scalar.isWordChar]
  ofWord? := rfl

end ObjectStore.Toml.Scalar
