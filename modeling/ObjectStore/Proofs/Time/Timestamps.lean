import ObjectStore.Proofs.Text.Spans
import ObjectStore.Time.DayNumber
import ObjectStore.Time.Rfc3339

/-!
# Timestamps read back

A timestamp is written in UTC from what a clock shows, and every instant that a clock in UTC can
show reads back from it, leap seconds and years beyond four digits among them. The instants that are
read, from whatever offset and with however many digits of a fraction, are of this kind, so that
what was read is written and read again without change.
-/

namespace ObjectStore.Time

open Text (Stops stops_cons stops_nil)
open Text.Decimal (IsNumeral IsRow isRow_padded padded nat? nat?_eq_some_iff nat?_padded)

/-! ## Instants and clocks -/

/-- An instant that a timestamp can tell: in a range of years, with its leap seconds after a minute. -/
structure Instant.IsTellable (t : Instant) : Prop where
  /-- The year is one that timestamps are limited to. -/
  isRepresentable : t.isRepresentable = true
  /-- The nanoseconds are less than two seconds. -/
  nanos_lt : t.nanos < 2000000000
  /-- A leap second comes after the last second of a minute. -/
  last_of_minute : 1000000000 ≤ t.nanos → t.seconds % 60 = 59

/-- An instant outside leap seconds, in the range of years, can be told. -/
theorem Instant.isTellable_of_lt {t : Instant} (hr : t.isRepresentable = true)
    (hn : t.nanos < 1000000000) : t.IsTellable :=
  ⟨hr, Nat.lt_trans hn (by decide), fun h => absurd h (Nat.not_le.mpr hn)⟩

/-- What the clock shows at an instant. -/
theorem Instant.clock_spec {t : Instant} (h : t.IsTellable) :
    t.clock.date.isValid = true ∧ t.clock.hour < 24 ∧ t.clock.minute < 60 ∧
      t.clock.second ≤ 60 ∧ t.clock.nano < 1000000000 ∧
      t.clock.nano + (t.clock.second - min t.clock.second 59) * 1000000000 = t.nanos ∧
      t.clock.date.toDays * 86400 + t.clock.hour * 3600 + t.clock.minute * 60 +
        min t.clock.second 59 = t.seconds := by
  have hnanos := h.nanos_lt
  have hleap := h.last_of_minute
  simp only [clock, Date.toDays_ofDays]
  refine ⟨Date.isValid_ofDays _, ?_⟩
  omega

theorem Instant.isValid_clock {t : Instant} (h : t.IsTellable) : t.clock.isValid = true := by
  obtain ⟨hdate, hhour, hminute, hsecond, hnano, _⟩ := t.clock_spec h
  simp [Clock.isValid, hdate, hhour, hminute, hsecond, hnano]

/-- The instant at which a clock shows what it shows at an instant. -/
theorem Instant.instant_clock {t : Instant} (h : t.IsTellable) : t.clock.instant = t := by
  obtain ⟨_, _, _, _, _, hnanos, hseconds⟩ := t.clock_spec h
  rw [Clock.instant]
  apply congrArg₂ Instant.mk
  · omega
  · exact hnanos

namespace Rfc3339

variable {digits rest : List Char} {n width : Nat}

/-! ## The parts of a timestamp -/

theorem skipBlanks_of_stops (h : Stops Text.isBlank rest) : skipBlanks rest = rest :=
  h.dropWhile_eq

/-- A numeral is read whole, up to what does not go on with a digit or up to its full width. -/
theorem number?_append (h : IsNumeral digits n) (hw : digits.length ≤ width)
    (hs : digits.length = width ∨ Stops Char.isDigit rest) :
    number? width (digits ++ rest) = some (n, rest) := by
  have hrest : Stops Char.isDigit (rest.take (width - digits.length)) := by
    rcases hs with hs | hs
    · rw [hs, Nat.sub_self, List.take_zero]
      exact stops_nil
    · exact hs.take _
  rw [number?, List.take_append, List.take_of_length_le hw,
    Text.takeWhile_append_of_stops h.isDigit hrest, (nat?_eq_some_iff ..).mpr h]
  simp

theorem not_isBlank_digitChar : ∀ n < 10, Text.isBlank (Nat.digitChar n) = false := by
  decide +kernel

/-- A number below a hundred is read from its two digits, whatever follows. -/
theorem part?_padded (h : n < 100) : part? (padded 2 n ++ rest) = some (n, rest) := by
  have hrow : IsRow 2 (padded 2 n) n := isRow_padded (by decide) h
  rw [part?, skipBlanks_of_stops (hrow.stops not_isBlank_digitChar rest)]
  exact number?_append hrow.toIsNumeral (Nat.le_of_eq hrow.length) (.inl hrow.length)

theorem after?_cons {mark : Char} (h : Text.isBlank mark = false) :
    after? mark (mark :: rest) = some rest := by
  rw [after?, skipBlanks_of_stops (stops_cons.mpr h)]
  exact if_pos rfl

/-- A year is read from its digits, with a sign where there may be more than four. -/
theorem year?_yearText (year : Int) : year? (yearText year ++ '-' :: rest) =
    some (year, '-' :: rest) := by
  have hstop : Stops Char.isDigit ('-' :: rest) := by simp
  rw [yearText]
  split
  · next h =>
    obtain ⟨n, rfl⟩ := Int.eq_ofNat_of_zero_le h.1
    have hrow : IsRow 4 (padded 4 n) n := isRow_padded (by decide) (by omega)
    have hread := number?_append hrow.toIsNumeral (Nat.le_of_eq hrow.length)
      (Or.inr hstop)
    obtain ⟨c, digits, hdigits⟩ := List.exists_cons_of_ne_nil hrow.ne_nil
    have hc := hrow.isDigit c (hdigits ▸ List.mem_cons_self)
    have hsign : c ≠ '-' ∧ c ≠ '+' := by
      constructor <;>
      · rintro rfl
        exact absurd hc (by decide)
    rw [Int.toNat_natCast, year?, skipBlanks_of_stops (hrow.stops not_isBlank_digitChar _)]
    rw [hdigits] at hread ⊢
    split
    · next heq => exact absurd (List.cons.inj heq).1 hsign.1
    · next heq => exact absurd (List.cons.inj heq).1 hsign.2
    · rw [hread]
      rfl
  · next h =>
    have hnum : IsNumeral (padded 4 year.natAbs) year.natAbs :=
      (nat?_eq_some_iff ..).mp (nat?_padded 4 year.natAbs)
    have hread : number? (padded 4 year.natAbs ++ '-' :: rest).length
        (padded 4 year.natAbs ++ '-' :: rest) = some (year.natAbs, '-' :: rest) :=
      number?_append hnum (by simp) (.inr hstop)
    by_cases hneg : year < 0
    · rw [if_pos hneg, List.cons_append, year?, skipBlanks_of_stops (by simp; decide)]
      simp only [hread, Option.map_some, Option.some.injEq, Prod.mk.injEq, and_true]
      omega
    · rw [if_neg hneg, List.cons_append, year?, skipBlanks_of_stops (by simp; decide)]
      simp only [hread, Option.map_some, Option.some.injEq, Prod.mk.injEq, and_true]
      omega

/-- A date is read from its year, month and day. -/
theorem date?_append {date : Date} (h : date.isValid = true) :
    date? (yearText date.year ++ '-' :: padded 2 date.month ++ '-' :: padded 2 date.day ++ rest) =
      some (date, rest) := by
  obtain ⟨_, hmonth, _, hday⟩ := (Date.isValid_iff _).mp h
  have hdays : date.day < 100 := by
    refine Nat.lt_of_le_of_lt hday ?_
    unfold daysInMonth
    split <;> split <;> omega
  have hmark : Text.isBlank '-' = false := by decide +kernel
  rw [date?, List.append_assoc, List.append_assoc, List.cons_append, year?_yearText]
  simp only [List.cons_append, Option.bind_eq_bind, Option.bind_some, after?_cons hmark,
    part?_padded (Nat.lt_of_le_of_lt hmonth (by decide : 12 < 100)), part?_padded hdays]
  rfl

/-- The nanoseconds are read from the digits that show them, however many there are. -/
theorem nanos?_padded {digits : Nat} (hpos : 0 < digits) (hd : digits ≤ 9)
    (hn : n < 10 ^ digits) : nanos? (padded digits n) = some (n * 10 ^ (9 - digits)) := by
  have hrow : IsRow digits (padded digits n) n := isRow_padded hpos hn
  have hkept : (padded digits n).take 9 = padded digits n :=
    List.take_of_length_le (by rw [hrow.length]; exact hd)
  rw [nanos?, hkept, (nat?_eq_some_iff ..).mpr hrow.toIsNumeral, hrow.length]
  rfl

theorem fraction?_padded {digits : Nat} (hpos : 0 < digits) (hd : digits ≤ 9)
    (hn : n < 10 ^ digits) (hs : Stops Char.isDigit rest) :
    fraction? ('.' :: padded digits n ++ rest) = some (n * 10 ^ (9 - digits), rest) := by
  have hrow : IsRow digits (padded digits n) n := isRow_padded hpos hn
  rw [List.cons_append, fraction?, Text.takeWhile_append_of_stops hrow.isDigit hs,
    Text.dropWhile_append_of_stops hrow.isDigit hs, nanos?_padded hpos hd hn]
  rfl

/-- The fraction that shows a number of nanoseconds is read as this number. -/
theorem fraction?_fraction (hn : n < 1000000000) :
    fraction? (fraction n ++ ['Z']) = some (n, ['Z']) := by
  have hstop : Stops Char.isDigit ['Z'] := by simp
  unfold fraction
  split_ifs with hzero
  · subst hzero
    rfl
  -- Milliseconds, microseconds and nanoseconds have their own numbers of digits.
  all_goals
    rw [fraction?_padded (by decide) (by decide) (by omega) hstop]
    congr 2
    omega

/-- A clock is read from its hour, minute, second and fraction. -/
theorem clock?_append {clock : Clock} (h : clock.isValid = true) :
    clock? clock.date (padded 2 clock.hour ++ ':' :: padded 2 clock.minute ++
      ':' :: padded 2 clock.second ++ (fraction clock.nano ++ ['Z'])) = some (clock, ['Z']) := by
  simp only [Clock.isValid, Bool.and_eq_true, decide_eq_true_eq] at h
  obtain ⟨⟨⟨⟨_, hhour⟩, hminute⟩, hsecond⟩, hnano⟩ := h
  have hmark : Text.isBlank ':' = false := by decide +kernel
  have hhour' : clock.hour < 100 := by omega
  have hminute' : clock.minute < 100 := by omega
  have hsecond' : clock.second < 100 := by omega
  simp only [clock?, List.append_assoc, List.cons_append, part?_padded hhour',
    part?_padded hminute', part?_padded hsecond', after?_cons hmark, fraction?_fraction hnano,
    Option.bind_eq_bind, Option.bind_some]
  rfl

/-! ## Timestamps -/

/-- An instant that can be told reads back from its timestamp. -/
theorem parse?_format {t : Instant} (h : t.IsTellable) : parse? (format t) = some t := by
  have hvalid := t.isValid_clock h
  have hdate : t.clock.date.isValid = true := (t.clock_spec h).1
  have hblank : Text.isBlank 'Z' = false := by decide +kernel
  have htext : (format t).toList = yearText t.clock.date.year ++ '-' ::
      padded 2 t.clock.date.month ++ '-' :: padded 2 t.clock.date.day ++
      ('T' :: (padded 2 t.clock.hour ++ ':' :: padded 2 t.clock.minute ++
        ':' :: padded 2 t.clock.second ++ (fraction t.clock.nano ++ ['Z']))) := by
    simp [format]
  have hlocal : ({ t with seconds := t.seconds - 0 * 60 } : Instant) = t := by simp
  rw [parse?, htext, date?_append hdate]
  simp only [Option.bind_eq_bind, Option.bind_some, true_or, if_true, clock?_append hvalid,
    skipBlanks_of_stops (stops_cons.mpr hblank), offset?, skipBlanks_of_stops stops_nil,
    t.instant_clock h, hlocal, hvalid, h.isRepresentable, List.isEmpty_nil, and_self]
  rfl

/-- What is read from a timestamp can be told: a fixed offset moves no leap second. -/
theorem isTellable_of_parse? {text : String} {t : Instant} (h : parse? text = some t) :
    t.IsTellable := by
  simp only [parse?, Option.bind_eq_bind, Option.bind_eq_some_iff] at h
  obtain ⟨⟨date, s⟩, _, h⟩ := h
  cases s with
  | nil => cases h
  | cons mark s =>
    dsimp only at h
    split at h
    · simp only [Option.bind_eq_some_iff] at h
      obtain ⟨⟨clock, s⟩, _, ⟨offset, s⟩, _, h⟩ := h
      split at h
      · next hread =>
        obtain ⟨_, hvalid, _, hrepresentable⟩ := hread
        cases h
        simp only [Clock.isValid, Bool.and_eq_true, decide_eq_true_eq] at hvalid
        refine ⟨hrepresentable, ?_, ?_⟩
        · simp only [Clock.instant]
          omega
        · simp only [Clock.instant]
          omega
      · cases h
    · cases h

/-- The leap second at the end of 2016, read from an offset, and the first second of a far year. -/
example : (parse? "2017-01-01T01:59:60.25+02:00").map format = some "2016-12-31T23:59:60.250Z" ∧
    (parse? "+010000-01-01T00:00:00Z").map format = some "+10000-01-01T00:00:00Z" := by
  decide +kernel

end Rfc3339

end ObjectStore.Time
