import Mathlib.Data.List.Nodup
import ObjectStore.Proofs.Text.Numerals
import ObjectStore.Proofs.Time.Succession
import ObjectStore.Time.HttpDate

/-!
# The form of dates in headers

A date in a header has the names of a weekday and of a month and rows of two and of four digits,
with marks between them, 29 characters in all. The reader takes the dates of this form whose
weekday is the one of the calendar, and an instant is written in this form as long as its year has
four digits.
-/

namespace ObjectStore.Time

open Text (Decimal.IsRow Decimal.IsNumeral Decimal.nat? Decimal.nat?_eq_some_iff
  Decimal.isRow_padded Decimal.padded)

/-! ## Clocks -/

namespace Clock

/-- The day of a clock is counted in days and what else it shows in seconds. -/
theorem instant_of_second_lt {c : Clock} (h : c.second < 60) :
    c.instant = ⟨c.date.toDays * 86400 + c.hour * 3600 + c.minute * 60 + c.second, c.nano⟩ := by
  have hmin : min c.second 59 = c.second := by omega
  rw [instant, hmin]
  simp only [Instant.mk.injEq]
  omega

end Clock

namespace Instant

variable {t : Instant}

/-- The clock at an instant that is not within a leap second. -/
theorem clock_of_lt (h : t.nanos < 1000000000) :
    t.clock.date.isValid = true ∧ t.clock.hour < 24 ∧ t.clock.minute < 60 ∧ t.clock.second < 60 ∧
      t.clock.date.toDays * 86400 + t.clock.hour * 3600 + t.clock.minute * 60 +
        t.clock.second = t.seconds := by
  have hsecond : t.nanos / 1000000000 = 0 := Nat.div_eq_of_lt h
  simp only [clock, hsecond, Date.toDays_ofDays]
  refine ⟨Date.isValid_ofDays _, ?_⟩
  omega

end Instant

namespace HttpDate

/-- The text of a date, the place of its weekday in the week, and what clock it shows. -/
inductive IsFixdate : List Char → Nat → Clock → Prop where
  /-- The names and the rows of digits in their order. -/
  | mk {weekday month day year hour minute second : Nat} {weekdayName monthName : String}
      {d y h m s : List Char} (hweekday : weekdayNames[weekday]? = some weekdayName)
      (hday : Decimal.IsRow 2 d day) (hmonth : monthNames[month]? = some monthName)
      (hyear : Decimal.IsRow 4 y year) (hhour : Decimal.IsRow 2 h hour)
      (hminute : Decimal.IsRow 2 m minute) (hsecond : Decimal.IsRow 2 s second)
      (hvalid : Clock.isValid ⟨⟨year, month + 1, day⟩, hour, minute, second, 0⟩ = true) :
      IsFixdate
        (weekdayName.toList ++ [',', ' '] ++ d ++ [' '] ++ monthName.toList ++ [' '] ++ y ++
          [' '] ++ h ++ [':'] ++ m ++ [':'] ++ s ++ [' ', 'G', 'M', 'T'])
        weekday ⟨⟨year, month + 1, day⟩, hour, minute, second, 0⟩

/-! ## Names -/

theorem length_toList_weekday : ∀ name ∈ weekdayNames, name.toList.length = 3 := by decide

theorem length_toList_month : ∀ name ∈ monthNames, name.toList.length = 3 := by decide

/-- A name in a list without repetitions is found where it stands. -/
theorem idxOf?_eq_some_iff_of_nodup {names : List String} (h : names.Nodup) (name : String)
    (i : Nat) : names.idxOf? name = some i ↔ names[i]? = some name := by
  rw [List.idxOf?, List.findIdx?_eq_some_iff_getElem, List.getElem?_eq_some_iff]
  constructor
  · rintro ⟨hi, hname, _⟩
    exact ⟨hi, beq_iff_eq.mp hname⟩
  · rintro ⟨hi, rfl⟩
    refine ⟨hi, beq_self_eq_true _, ?_⟩
    intro j hj hsame
    exact Nat.ne_of_lt hj (h.getElem_inj_iff.mp (beq_iff_eq.mp hsame))

/-! ## Reading -/

theorem IsFixdate.length {text : List Char} {weekday : Nat} {clock : Clock}
    (h : IsFixdate text weekday clock) : text.length = 29 := by
  cases h with
  | mk hweekday hday hmonth hyear hhour hminute hsecond _ =>
    simp [length_toList_weekday _ (List.mem_of_getElem? hweekday),
      length_toList_month _ (List.mem_of_getElem? hmonth), hday.length, hyear.length,
      hhour.length, hminute.length, hsecond.length]

/-- A row of two digits has two characters. -/
theorem exists_of_isRow_two {digits : List Char} {n : Nat} (h : Decimal.IsRow 2 digits n) :
    ∃ c₁ c₂, digits = [c₁, c₂] ∧ Decimal.nat? [c₁, c₂] = some n := by
  obtain ⟨c₁, c₂, rfl⟩ := List.length_eq_two.mp h.length
  exact ⟨c₁, c₂, rfl, (Decimal.nat?_eq_some_iff ..).mpr h.toIsNumeral⟩

theorem exists_of_isRow_four {digits : List Char} {n : Nat} (h : Decimal.IsRow 4 digits n) :
    ∃ c₁ c₂ c₃ c₄, digits = [c₁, c₂, c₃, c₄] ∧ Decimal.nat? [c₁, c₂, c₃, c₄] = some n := by
  obtain ⟨c, rest, rfl⟩ := List.exists_cons_of_length_eq_add_one h.length
  obtain ⟨c₂, c₃, c₄, rfl⟩ := List.length_eq_three.mp (Nat.succ.inj h.length)
  exact ⟨c, c₂, c₃, c₄, rfl, (Decimal.nat?_eq_some_iff ..).mpr h.toIsNumeral⟩

/-- A name in a list of names of three letters is found by its letters. -/
theorem exists_of_name {names : List String} (hnodup : names.Nodup)
    (hlength : ∀ name ∈ names, name.toList.length = 3) {i : Nat} {name : String}
    (h : names[i]? = some name) :
    ∃ c₁ c₂ c₃, name.toList = [c₁, c₂, c₃] ∧
      names.idxOf? (String.ofList [c₁, c₂, c₃]) = some i := by
  obtain ⟨c₁, c₂, c₃, hname⟩ := List.length_eq_three.mp (hlength name (List.mem_of_getElem? h))
  refine ⟨c₁, c₂, c₃, hname, ?_⟩
  rw [← hname, String.ofList_toList, idxOf?_eq_some_iff_of_nodup hnodup, h]

theorem isRow_of_nat? {width : Nat} {digits : List Char} {n : Nat}
    (h : Decimal.nat? digits = some n) (hlength : digits.length = width) :
    Decimal.IsRow width digits n :=
  ⟨(Decimal.nat?_eq_some_iff ..).mp h, hlength⟩

/-- The texts that are read are the dates of headers. -/
theorem read?_eq_some_iff (text : List Char) (weekday : Nat) (clock : Clock) :
    read? text = some (weekday, clock) ↔ IsFixdate text weekday clock := by
  constructor
  · intro h
    unfold read? at h
    split at h
    · next w₁ w₂ w₃ d₁ d₂ m₁ m₂ m₃ y₁ y₂ y₃ y₄ h₁ h₂ n₁ n₂ s₁ s₂ =>
      simp only [Option.bind_eq_bind, Option.bind_eq_some_iff] at h
      obtain ⟨w, hw, day, hday, month, hmonth, year, hyear, hour, hhour, minute, hminute,
        second, hsecond, h⟩ := h
      split at h
      · next hvalid =>
        cases h
        have hdate := IsFixdate.mk
          ((idxOf?_eq_some_iff_of_nodup (by decide) _ _).mp hw) (isRow_of_nat? hday rfl)
          ((idxOf?_eq_some_iff_of_nodup (by decide) _ _).mp hmonth) (isRow_of_nat? hyear rfl)
          (isRow_of_nat? hhour rfl) (isRow_of_nat? hminute rfl) (isRow_of_nat? hsecond rfl)
          hvalid
        simpa using hdate
      · cases h
    · cases h
  · rintro ⟨hweekday, hday, hmonth, hyear, hhour, hminute, hsecond, hvalid⟩
    obtain ⟨w₁, w₂, w₃, hletters, hw⟩ := exists_of_name (by decide) length_toList_weekday hweekday
    obtain ⟨m₁, m₂, m₃, hletters', hm⟩ := exists_of_name (by decide) length_toList_month hmonth
    obtain ⟨d₁, d₂, rfl, hd⟩ := exists_of_isRow_two hday
    obtain ⟨y₁, y₂, y₃, y₄, rfl, hy⟩ := exists_of_isRow_four hyear
    obtain ⟨h₁, h₂, rfl, hh⟩ := exists_of_isRow_two hhour
    obtain ⟨n₁, n₂, rfl, hn⟩ := exists_of_isRow_two hminute
    obtain ⟨s₁, s₂, rfl, hs⟩ := exists_of_isRow_two hsecond
    rw [hletters, hletters']
    simp only [List.cons_append, List.nil_append, read?, hw, hd, hm, hy, hh, hn, hs,
      Option.bind_eq_bind, Option.bind_some]
    exact if_pos hvalid

/-- A text is read as an instant when it is a date whose weekday is the one of the calendar. -/
theorem parse?_eq_some_iff (text : String) (t : Instant) :
    parse? text = some t ↔
      ∃ clock, IsFixdate text.toList clock.date.weekday clock ∧ clock.instant = t := by
  simp only [parse?, Option.bind_eq_bind, Option.bind_eq_some_iff, Prod.exists, read?_eq_some_iff]
  constructor
  · rintro ⟨weekday, clock, hdate, h⟩
    split at h
    · next hweekday => exact ⟨clock, hweekday ▸ hdate, Option.some.inj h⟩
    · cases h
  · rintro ⟨clock, hdate, rfl⟩
    exact ⟨_, clock, hdate, if_pos rfl⟩

/-! ## Writing -/

/-- Weekdays follow one another from Thursday, 1 January 1970, and there are seven. -/
theorem weekday_eq_of_hasNumber {d : Date} {days : Int} (h : d.HasNumber days) :
    (d.weekday : Int) = (days + 4) % 7 := by
  obtain ⟨_, rfl⟩ := (Date.hasNumber_iff ..).mp h
  rw [Date.weekday]
  omega

theorem getElem?_eq_some_getD {names : List String} {i : Nat} (h : i < names.length) :
    names[i]? = some (names.getD i "") := by
  rw [List.getD_eq_getElem?_getD, List.getElem?_eq_getElem h, Option.getD_some]

theorem weekday_lt (d : Date) : d.weekday < weekdayNames.length := by
  change ((d.toDays + 4) % 7).toNat < 7
  omega

/-- An instant whose year has four digits is written as a date. -/
theorem isFixdate_format {t : Instant} (hn : t.nanos < 1000000000)
    (hy : 0 ≤ t.clock.date.year) (hy' : t.clock.date.year ≤ 9999) :
    IsFixdate (format t).toList t.clock.date.weekday { t.clock with nano := 0 } := by
  obtain ⟨hvalid, hhour, hminute, hsecond, _⟩ := t.clock_of_lt hn
  unfold format
  simp only [String.toList_ofList]
  rcases hc : t.clock with ⟨⟨year, month, day⟩, hour, minute, second, nano⟩
  rw [hc] at hy hy' hvalid hhour hminute hsecond
  obtain ⟨hmonth, hmonth', hday, hday'⟩ := (Date.isValid_iff _).mp hvalid
  obtain ⟨year, rfl⟩ := Int.eq_ofNat_of_zero_le hy
  obtain ⟨month, rfl⟩ := Nat.exists_eq_add_of_le' hmonth
  simp only at hy' hvalid hhour hminute hsecond
  have hdays : day ≤ 31 := by
    refine Nat.le_trans hday' ?_
    unfold daysInMonth
    split <;> split <;> omega
  have hshown : Clock.isValid ⟨⟨year, month + 1, day⟩, hour, minute, second, 0⟩ = true := by
    simp [Clock.isValid, hvalid, hhour, hminute, Nat.le_of_lt hsecond]
  have hyear : yearText year = Decimal.padded 4 year := by
    rw [yearText, if_pos ⟨hy, hy'⟩, Int.toNat_natCast]
  have htwo {n : Nat} (h : n < 100) : Decimal.IsRow 2 (Decimal.padded 2 n) n :=
    Decimal.isRow_padded (by decide) h
  have hfour : Decimal.IsRow 4 (Decimal.padded 4 year) year :=
    Decimal.isRow_padded (by decide) (by omega)
  have hname : monthNames[month]? = some (monthNames.getD month "") :=
    getElem?_eq_some_getD (Nat.lt_of_succ_le hmonth')
  have hname' : weekdayNames[Date.weekday ⟨year, month + 1, day⟩]? =
      some (weekdayNames.getD (Date.weekday ⟨year, month + 1, day⟩) "") :=
    getElem?_eq_some_getD (weekday_lt _)
  simp only [hyear, Nat.add_sub_cancel]
  exact .mk hname' (htwo (by omega)) hname hfour (htwo (by omega)) (htwo (by omega))
    (htwo (by omega)) hshown

/-- What is written reads back as the instant without its nanoseconds. -/
theorem parse?_format {t : Instant} (hn : t.nanos < 1000000000)
    (hy : 0 ≤ t.clock.date.year) (hy' : t.clock.date.year ≤ 9999) :
    parse? (format t) = some ⟨t.seconds, 0⟩ := by
  obtain ⟨_, _, _, hsecond, hseconds⟩ := t.clock_of_lt hn
  rw [parse?_eq_some_iff]
  refine ⟨{ t.clock with nano := 0 }, isFixdate_format hn hy hy', ?_⟩
  refine (Clock.instant_of_second_lt (c := { t.clock with nano := 0 }) hsecond).trans ?_
  exact congrArg (Instant.mk · 0) hseconds

example : parse? "Sun, 06 Nov 1994 08:49:37 GMT" = some ⟨784111777, 0⟩ ∧
    parse? "Mon, 06 Nov 1994 08:49:37 GMT" = none := by
  decide +kernel

/-- The nanoseconds are not written. -/
theorem format_eq_of_seconds_eq {t u : Instant} (hn : t.nanos < 1000000000)
    (hn' : u.nanos < 1000000000) (h : t.seconds = u.seconds) : format t = format u := by
  have hdate : t.clock.date = u.clock.date := by simp only [Instant.clock, h]
  have hhour : t.clock.hour = u.clock.hour := by simp only [Instant.clock, h]
  have hminute : t.clock.minute = u.clock.minute := by simp only [Instant.clock, h]
  have hsecond : t.clock.second = u.clock.second := by
    simp only [Instant.clock, h, Nat.div_eq_of_lt hn, Nat.div_eq_of_lt hn']
  unfold format
  simp only [hdate, hhour, hminute, hsecond]

end HttpDate

end ObjectStore.Time
