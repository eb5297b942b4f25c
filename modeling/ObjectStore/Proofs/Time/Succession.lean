import Mathlib.Data.Int.Init
import ObjectStore.Time.DayNumber

/-!
# One day after another

The calendar without arithmetic: a month has its days, a year its twelve months, and the day after
the last one is the first of what comes next. Counting the days in this way from 1 January 1970, in
both directions, gives every date of the calendar its day number.
-/

namespace ObjectStore.Time.Date

/-- The day after a date. -/
def next (d : Date) : Date :=
  if d.day < daysInMonth d.year d.month then { d with day := d.day + 1 }
  else if d.month < 12 then ⟨d.year, d.month + 1, 1⟩
  else ⟨d.year + 1, 1, 1⟩

/-- The day number of a date, counted from 1 January 1970 on and back. -/
inductive HasNumber : Date → Int → Prop where
  /-- Counting starts on the first day of 1970. -/
  | epoch : HasNumber ⟨1970, 1, 1⟩ 0
  /-- The day after a day has the number after its number. -/
  | next {d : Date} {n : Int} (h : HasNumber d n) : HasNumber d.next (n + 1)
  /-- The day before a day has the number before its number. -/
  | previous {d : Date} {n : Int} (hd : d.isValid = true) (h : HasNumber d.next (n + 1)) :
      HasNumber d n

/-- A day after a date of the calendar is in the calendar. -/
theorem isValid_next {d : Date} (h : d.isValid = true) : d.next.isValid = true := by
  obtain ⟨year, month, day⟩ := d
  rw [isValid_iff] at h ⊢
  obtain ⟨hm, hm', hd, hd'⟩ := h
  simp only at hm hm' hd hd'
  unfold next
  split
  · next hlt =>
    simp only at hlt ⊢
    omega
  · split
    · next hlt =>
      simp only at hlt ⊢
      refine ⟨by omega, by omega, by omega, ?_⟩
      unfold daysInMonth
      split <;> split <;> omega
    · simp [daysInMonth]

/-- From March to March there are 337 days and those of the February between them. -/
theorem startOfYear_next (year : Int) :
    year / 400 * 146097 + startOfYear (year % 400).toNat =
      (year - 1) / 400 * 146097 + startOfYear ((year - 1) % 400).toNat +
        (337 + daysInMonth year 2 : Nat) := by
  rw [daysInMonth, if_pos rfl]
  unfold startOfYear
  split
  · next hleap =>
    rw [isLeapYear_iff] at hleap
    omega
  · next hleap =>
    rw [isLeapYear_iff] at hleap
    omega

/-- The first day of a month has the number after that of the last day of the month before. -/
theorem toDays_next_month (year : Int) {month : Nat} (h : 1 ≤ month) (h' : month < 12) :
    toDays ⟨year, month + 1, 1⟩ = toDays ⟨year, month, daysInMonth year month⟩ + 1 := by
  obtain rfl | rfl | ⟨m, rfl⟩ : month = 1 ∨ month = 2 ∨ ∃ m, month = m + 3 := by
    by_cases hm : 3 ≤ month
    · exact .inr (.inr ⟨month - 3, by omega⟩)
    · omega
  · simp only [toDays, daysInMonth, Nat.reduceAdd, Nat.reduceLeDiff, Nat.reduceEqDiff, or_self,
      if_true, if_false]
    omega
  · have hstart := startOfYear_next year
    simp only [toDays, Nat.reduceAdd, Nat.reduceLeDiff, if_true, if_false]
    omega
  · have hlength := month_lengths m (by omega)
    have hdays : daysInMonth year (m + 3) =
        if m = 1 ∨ m = 3 ∨ m = 6 ∨ m = 8 then 30 else 31 := by
      rw [daysInMonth, if_neg (by omega)]
      split <;> split <;> omega
    rw [hdays, ← hlength]
    have hm : ¬m + 3 ≤ 2 := by omega
    have hm' : ¬m + 3 + 1 ≤ 2 := by omega
    have hsub : m + 3 + 1 - 3 = m + 1 := by omega
    have hcast (k : Nat) : (153 * (k : Int) + 2) / 5 = ((153 * k + 2) / 5 : Nat) := by omega
    simp only [toDays, hm, hm', if_false, hsub, Nat.add_sub_cancel, hcast]
    omega

/-- The day number of the day after a date is the next one. -/
theorem toDays_next {d : Date} (h : d.isValid = true) : d.next.toDays = d.toDays + 1 := by
  obtain ⟨year, month, day⟩ := d
  rw [isValid_iff] at h
  obtain ⟨hm, hm', hd, hd'⟩ := h
  simp only at hm hm' hd hd'
  unfold next
  split
  · next hlt =>
    simp only [toDays]
    omega
  · next hge =>
    have hday : day = daysInMonth year month := Nat.le_antisymm hd' (Nat.not_lt.mp hge)
    subst hday
    split
    · next hlt => exact toDays_next_month year hm hlt
    · next hge =>
      obtain rfl : month = 12 := Nat.le_antisymm hm' (Nat.not_lt.mp hge)
      simp only [toDays, daysInMonth, Int.add_sub_cancel, Nat.reduceLeDiff, Nat.reduceEqDiff,
        or_self, if_true, if_false]
      omega

/-- The date after the date of a day number is that of the next day number. -/
theorem next_ofDays (days : Int) : (ofDays days).next = ofDays (days + 1) := by
  have hvalid := isValid_ofDays days
  rw [← ofDays_toDays (isValid_next hvalid), toDays_next hvalid, toDays_ofDays]

/-- Counting the days reaches every day number at its date. -/
theorem hasNumber_ofDays (days : Int) : HasNumber (ofDays days) days := by
  induction days using Int.induction_on with
  | zero => exact .epoch
  | succ n ih => exact next_ofDays n ▸ ih.next
  | pred n ih =>
    refine .previous (isValid_ofDays _) ?_
    rw [next_ofDays, Int.sub_add_cancel]
    exact ih

/-- Counting the days gives the dates of the calendar, and no others, their day numbers. -/
theorem hasNumber_iff (d : Date) (days : Int) :
    HasNumber d days ↔ d.isValid = true ∧ d.toDays = days := by
  constructor
  · intro h
    induction h with
    | epoch => decide
    | next _ ih => exact ⟨isValid_next ih.1, by rw [toDays_next ih.1, ih.2]⟩
    | previous hd _ ih =>
      have hnext := toDays_next hd
      exact ⟨hd, by omega⟩
  · rintro ⟨hvalid, rfl⟩
    have h := hasNumber_ofDays d.toDays
    rwa [ofDays_toDays hvalid] at h

end ObjectStore.Time.Date
