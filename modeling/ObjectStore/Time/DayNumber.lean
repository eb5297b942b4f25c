import ObjectStore.Time.Calendar

/-!
# Dates and their day numbers

A date of the calendar and its day number determine each other: every day number
is the one of its date (`toDays_ofDays`), that date is in the calendar
(`isValid_ofDays`), and a date of the calendar is the one of its day number
(`ofDays_toDays`). The step that is not arithmetic is the year of a day within an
era. It is read off a formula that never falls from one day to the next, so that it
suffices to look at the first and the last day of each of the 400 years.
-/

namespace ObjectStore.Time

/-! ## The year of a day -/

private theorem yearOfEra_ends : ∀ y < 400, yearOfEra (startOfYear y) = y ∧
    yearOfEra (startOfYear (y + 1) - 1 + if y = 399 then 1 else 0) = y := by decide +kernel

private theorem yearOfEra_le_succ {day : Nat} (h : day < 146096) :
    yearOfEra day ≤ yearOfEra (day + 1) := by
  apply Nat.div_le_div_right
  by_cases hd : day = 146095
  · subst hd
    decide
  · omega

private theorem yearOfEra_mono {m n : Nat} (hmn : m ≤ n) (hn : n ≤ 146096) :
    yearOfEra m ≤ yearOfEra n := by
  induction n with
  | zero => exact Nat.le_of_eq (congrArg yearOfEra (Nat.le_zero.mp hmn))
  | succ n ih =>
    rcases Nat.le_succ_iff.mp hmn with h | rfl
    · exact Nat.le_trans (ih h (by omega)) (yearOfEra_le_succ (by omega))
    · exact Nat.le_refl _

/-- A day belongs to the year that has begun and not yet ended; the last year of an era ends with it. -/
theorem yearOfEra_eq {day y : Nat} (hy : y < 400) (hs : startOfYear y ≤ day)
    (he : day < startOfYear (y + 1) ∨ y = 399 ∧ day < 146097) : yearOfEra day = y := by
  obtain ⟨hfirst, hlast⟩ := yearOfEra_ends y hy
  have hend : startOfYear (399 + 1) = 146096 := rfl
  have hnext : startOfYear (y + 1) ≤ 146096 := by
    rw [startOfYear]
    omega
  have hle := yearOfEra_mono hs (by omega)
  have hge : yearOfEra day ≤ y := by
    refine Nat.le_trans (yearOfEra_mono ?_ ?_) (Nat.le_of_eq hlast)
    · rcases he with he | ⟨rfl, he⟩
      · split <;> omega
      · rw [if_pos rfl, hend]
        omega
    · split <;> rename_i h399
      · subst h399
        omega
      · omega
  omega

private theorem exists_year (day : Nat) {n : Nat} (hn : 0 < n) :
    ∃ y < n, startOfYear y ≤ day ∧ (day < startOfYear (y + 1) ∨ y + 1 = n) := by
  induction n with
  | zero => omega
  | succ n ih =>
    by_cases h : startOfYear n ≤ day
    · exact ⟨n, by omega, h, .inr rfl⟩
    · have hpos : 0 < n := Nat.pos_of_ne_zero fun h0 => h (h0 ▸ Nat.zero_le _)
      obtain ⟨y, hy, hs, he⟩ := ih hpos
      refine ⟨y, by omega, hs, .inl ?_⟩
      rcases he with he | rfl
      · exact he
      · omega

/-- The year of a day has begun and not yet ended. -/
theorem yearOfEra_bounds {day : Nat} (h : day < 146097) :
    yearOfEra day < 400 ∧ startOfYear (yearOfEra day) ≤ day ∧
      (day < startOfYear (yearOfEra day + 1) ∨ yearOfEra day = 399) := by
  obtain ⟨y, hy, hs, he⟩ := exists_year day (n := 400) (by decide)
  rw [yearOfEra_eq hy hs (he.imp_right fun he => ⟨by omega, h⟩)]
  exact ⟨hy, hs, he.imp_right fun he => by omega⟩

/-- A year has 366 days when the calendar year in which it ends has a leap day. -/
theorem startOfYear_succ (y : Nat) : startOfYear (y + 1) =
    startOfYear y + if (y + 1) % 4 = 0 ∧ (y + 1) % 100 ≠ 0 then 366 else 365 := by
  unfold startOfYear
  split <;> omega

/-- A day of the year, the last of 366 only in a year that has as many, lies within its year. -/
theorem startOfYear_add_lt {y doy : Nat} (hy : y < 400)
    (h : doy ≤ 364 ∨ doy = 365 ∧ (y = 399 ∨ (y + 1) % 4 = 0 ∧ (y + 1) % 100 ≠ 0)) :
    startOfYear y + doy < startOfYear (y + 1) ∨ y = 399 ∧ startOfYear y + doy < 146097 := by
  have hnext := startOfYear_succ y
  have hend : startOfYear 399 = 145731 := rfl
  rcases h with h | ⟨h, rfl | hleap⟩
  · split at hnext <;> omega
  · omega
  · rw [if_pos hleap] at hnext
    omega

/-! ## Both directions -/

namespace Date

/-- The day number of the date of a day number is that number. -/
theorem toDays_ofDays (days : Int) : (ofDays days).toDays = days := by
  have hday : ((days + 719468) % 146097).toNat < 146097 := by omega
  obtain ⟨hy, hs, he⟩ := yearOfEra_bounds hday
  simp only [ofDays]
  generalize hd : ((days + 719468) % 146097).toNat = day at hy hs he
  generalize hyear : yearOfEra day = year at hy hs he
  simp only [toDays]
  have hlen : day - startOfYear year < 366 := by
    simp only [startOfYear] at he hs ⊢
    omega
  generalize hdoy : day - startOfYear year = doy at hlen
  generalize hm : (5 * doy + 2) / 153 = m
  by_cases h10 : m < 10
  · have h2 : ¬ m + 3 ≤ 2 := by omega
    simp only [if_pos h10, if_neg h2]
    have hera : ((days + 719468) / 146097 * 400 + (year : Int) + 0) / 400 = (days + 719468) / 146097 := by
      omega
    have hyoe : ((days + 719468) / 146097 * 400 + (year : Int) + 0) % 400 = year := by omega
    rw [hera, hyoe, Int.toNat_natCast, Nat.add_sub_cancel]
    omega
  · have h2 : m - 9 ≤ 2 := by omega
    have h9 : m - 9 + 9 = m := by omega
    simp only [if_neg h10, if_pos h2]
    have hera : ((days + 719468) / 146097 * 400 + (year : Int) + 1 - 1) / 400 =
        (days + 719468) / 146097 := by omega
    have hyoe : ((days + 719468) / 146097 * 400 + (year : Int) + 1 - 1) % 400 = year := by omega
    rw [hera, hyoe, Int.toNat_natCast, h9]
    omega

/-- The months of a year that begins in March, each by its first day and that of the next. -/
private theorem month_bounds {doy m : Nat} (hm : (5 * doy + 2) / 153 = m) :
    (153 * m + 2) / 5 ≤ doy ∧ doy < (153 * (m + 1) + 2) / 5 := by
  omega

theorem isLeapYear_iff (year : Int) :
    isLeapYear year = true ↔ year % 4 = 0 ∧ (year % 100 ≠ 0 ∨ year % 400 = 0) := by
  simp [isLeapYear]

theorem isValid_iff (d : Date) :
    d.isValid = true ↔
      1 ≤ d.month ∧ d.month ≤ 12 ∧ 1 ≤ d.day ∧ d.day ≤ daysInMonth d.year d.month := by
  simp [isValid, and_assoc]

/-- The date of a day number is in the calendar. -/
theorem isValid_ofDays (days : Int) : (ofDays days).isValid = true := by
  have hday : ((days + 719468) % 146097).toNat < 146097 := by omega
  obtain ⟨hy, hs, he⟩ := yearOfEra_bounds hday
  rw [isValid_iff]
  simp only [ofDays]
  generalize (days + 719468) / 146097 = era
  generalize ((days + 719468) % 146097).toNat = day at hday hy hs he
  generalize yearOfEra day = year at hy hs he
  have hnext := startOfYear_succ year
  have hend : startOfYear 399 = 145731 := rfl
  have hlen : day - startOfYear year ≤ 364 ∨
      day - startOfYear year = 365 ∧ isLeapYear (era * 400 + year + 1) = true := by
    rw [isLeapYear_iff]
    rcases he with he | rfl
    · split at hnext <;> omega
    · omega
  generalize day - startOfYear year = doy at hlen
  generalize hm : (5 * doy + 2) / 153 = m
  obtain ⟨hfrom, hto⟩ := month_bounds hm
  by_cases h10 : m < 10
  · rw [if_pos h10]
    refine ⟨by omega, by omega, by omega, ?_⟩
    rw [daysInMonth, if_neg (by omega)]
    split <;> omega
  · rw [if_neg h10]
    refine ⟨by omega, by omega, by omega, ?_⟩
    rw [if_pos (by omega), daysInMonth]
    rcases hlen with hlen | ⟨hlen, hleap⟩
    · split
      · split <;> omega
      · rw [if_neg (by omega)]
        omega
    · rw [if_pos (by omega), if_pos hleap]
      omega

theorem month_lengths : ∀ m < 11, (153 * (m + 1) + 2) / 5 - (153 * m + 2) / 5 =
    if m = 1 ∨ m = 3 ∨ m = 6 ∨ m = 8 then 30 else 31 := by decide

/-- The days of the months of a year that begins in March; only the last month may vary. -/
private theorem day_le_of_fromMarch {calendarYear year : Int} {month day m : Nat}
    (hlow : m < 10 → month = m + 3 ∧ calendarYear = year)
    (hhigh : 10 ≤ m → month = m - 9 ∧ calendarYear = year + 1)
    (hd : day ≤ daysInMonth calendarYear month) :
    (m < 11 → day ≤ (153 * (m + 1) + 2) / 5 - (153 * m + 2) / 5) ∧
      (m = 11 → day ≤ 28 ∨ day = 29 ∧ isLeapYear (year + 1) = true) := by
  unfold daysInMonth at hd
  constructor
  · intro hm
    rw [month_lengths m hm]
    rw [if_neg (by omega)] at hd
    split at hd <;> split <;> omega
  · rintro rfl
    obtain ⟨rfl, rfl⟩ := hhigh (by decide)
    rw [if_pos rfl] at hd
    split at hd
    · rename_i hleap
      rcases Nat.lt_or_ge day 29 with hlt | hge
      · exact .inl (by omega)
      · exact .inr ⟨by omega, hleap⟩
    · exact .inl hd

/-- A date of the calendar is the date of its day number. -/
theorem ofDays_toDays {d : Date} (h : d.isValid = true) : ofDays d.toDays = d := by
  obtain ⟨h1, h12, hd1, hd⟩ := (isValid_iff d).mp h
  obtain ⟨calendarYear, month, day⟩ := d
  simp only at h1 h12 hd1 hd
  have key : ∀ (year : Int) (m : Nat), m < 12 →
      (m < 10 → month = m + 3 ∧ calendarYear = year) →
      (10 ≤ m → month = m - 9 ∧ calendarYear = year + 1) →
      (Date.mk calendarYear month day).toDays = year / 400 * 146097 +
        startOfYear (year % 400).toNat + ((153 * m + 2) / 5 + day - 1 : Int) - 719468 →
      ofDays (Date.mk calendarYear month day).toDays = ⟨calendarYear, month, day⟩ := by
    intro year m hm hlow hhigh heq
    obtain ⟨hin, hfeb⟩ := day_le_of_fromMarch hlow hhigh hd
    obtain ⟨doy, hdoy⟩ : ∃ doy, doy = (153 * m + 2) / 5 + day - 1 := ⟨_, rfl⟩
    obtain ⟨y, hy⟩ : ∃ y, y = (year % 400).toNat := ⟨_, rfl⟩
    have hy400 : y < 400 := by omega
    have hlen : doy ≤ 364 ∨ doy = 365 ∧ (y = 399 ∨ (y + 1) % 4 = 0 ∧ (y + 1) % 100 ≠ 0) := by
      by_cases h11 : m = 11
      · rcases hfeb h11 with hle | ⟨rfl, hleap⟩
        · omega
        · rw [isLeapYear_iff] at hleap
          omega
      · omega
    have hwithin := startOfYear_add_lt hy400 hlen
    have hyear := yearOfEra_eq hy400 (Nat.le_add_right _ _) hwithin
    have hshift : (Date.mk calendarYear month day).toDays + 719468 =
        year / 400 * 146097 + ((startOfYear y + doy : Nat) : Int) := by
      rw [heq, ← hy]
      omega
    have hbound : startOfYear y + doy < 146097 := by
      have hle : startOfYear (y + 1) ≤ 146096 := by
        rw [startOfYear]
        omega
      omega
    simp only [ofDays]
    rw [hshift]
    have hday : ((year / 400 * 146097 + ((startOfYear y + doy : Nat) : Int)) % 146097).toNat =
        startOfYear y + doy := by omega
    have hera : (year / 400 * 146097 + ((startOfYear y + doy : Nat) : Int)) / 146097 =
        year / 400 := by omega
    rw [hday, hera, hyear, Nat.add_sub_cancel_left]
    have hm' : (5 * doy + 2) / 153 = m := by omega
    rw [hm']
    by_cases h10 : m < 10
    · obtain ⟨rfl, rfl⟩ := hlow h10
      rw [if_pos h10, if_neg (by omega)]
      congr 1 <;> omega
    · obtain ⟨rfl, rfl⟩ := hhigh (by omega)
      rw [if_neg h10, if_pos (by omega)]
      congr 1 <;> omega
  by_cases h2 : month ≤ 2
  · refine key (calendarYear - 1) (month + 9) (by omega) (by omega) (by omega) ?_
    simp only [toDays, if_pos h2]
  · refine key calendarYear (month - 3) (by omega) (by omega) (by omega) ?_
    simp only [toDays, if_neg h2]

end Date

end ObjectStore.Time
