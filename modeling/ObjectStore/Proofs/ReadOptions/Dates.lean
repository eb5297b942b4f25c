import ObjectStore.Proofs.ReadOptions.Precedence
import ObjectStore.Proofs.Time.HeaderDates

/-!
# What the dates of a read say

The date of a condition is sent as dates in headers are written, with the calendar in which one day
follows another. It tells the second of the instant that was set, and nothing else of it.
-/

namespace ObjectStore

/-- An instant whose year has four digits, without a leap second, and not the start of 1970. -/
structure Time.Instant.IsWritable (t : Time.Instant) : Prop where
  /-- The nanoseconds are less than a second. -/
  nanos_lt : t.nanos < 1000000000
  /-- The year is not negative. -/
  year_nonneg : 0 ≤ t.clock.date.year
  /-- The year has no more than four digits. -/
  year_le : t.clock.date.year ≤ 9999
  /-- The start of 1970 stands for no date. -/
  ne_epoch : t ≠ .epoch

namespace Time.HttpDate

/-- Writable instants are written alike when they lie within the same second. -/
theorem format_eq_format_iff {t u : Instant} (ht : t.IsWritable) (hu : u.IsWritable) :
    format u = format t ↔ u.seconds = t.seconds := by
  constructor
  · intro h
    have hread := parse?_format hu.nanos_lt hu.year_nonneg hu.year_le
    rw [h, parse?_format ht.nanos_lt ht.year_nonneg ht.year_le] at hread
    exact (congrArg Instant.seconds (Option.some.inj hread)).symm
  · exact format_eq_of_seconds_eq hu.nanos_lt ht.nanos_lt

end Time.HttpDate

namespace ReadOptions

open Time (HttpDate.format HttpDate.parse? HttpDate.IsFixdate)

/-- Both conditions send the date that was set. -/
theorem sends_date (o : ReadOptions) {t : Time.Instant} (ht : t ≠ .epoch) :
    (∃ o', o.setModifiedSince t = .ok o' ∧
      o'.header.get? HeaderName.ifModifiedSince = some (HttpDate.format t)) ∧
    ∃ o', o.setUnmodifiedSince t = .ok o' ∧
      o'.header.get? HeaderName.ifUnmodifiedSince = some (HttpDate.format t) := by
  constructor
  · exact ⟨_, if_neg ht, o.get?_header_setHeader _ (by decide +kernel)⟩
  · exact ⟨_, if_neg ht, o.get?_header_setHeader _ (by decide +kernel)⟩

/-- What a condition sends is the date that was set. -/
theorem exists_sends_iff {α : Type} {set : Except Error α} {sent : α → Option String}
    {text : String} (h : ∃ o', set = .ok o' ∧ sent o' = some text) (other : String) :
    (∃ o', set = .ok o' ∧ sent o' = some other) ↔ text = other := by
  obtain ⟨o', hset, hsent⟩ := h
  constructor
  · rintro ⟨o'', hset', hsent'⟩
    cases hset.symm.trans hset'
    exact Option.some.inj (hsent.symm.trans hsent')
  · rintro rfl
    exact ⟨o', hset, hsent⟩

/--
The date that a condition sends, for every instant with a year of four digits but the start of 1970,
also for those before it. It has 29 characters, in the form of dates in headers. Its day is the one
with as many days to it as the instant is days after 1 January 1970, counted one by one, and
its weekday the one that as many days bring about from a Thursday. It reads back as the instant
without its nanoseconds, so that another instant is sent in the same way if and only if it lies
within the same second.
-/
theorem date_of_condition (o : ReadOptions) (t : Time.Instant) (h : t.IsWritable) :
    let text := HttpDate.format t
    let clock := t.clock
    ((∃ o', o.setModifiedSince t = .ok o' ∧
      o'.header.get? HeaderName.ifModifiedSince = some text) ∧
    ∃ o', o.setUnmodifiedSince t = .ok o' ∧
      o'.header.get? HeaderName.ifUnmodifiedSince = some text) ∧
    text.length = 29 ∧
    HttpDate.IsFixdate text.toList clock.date.weekday { clock with nano := 0 } ∧
    (∃ days, clock.date.HasNumber days ∧ (clock.date.weekday : Int) = (days + 4) % 7 ∧
      clock.hour < 24 ∧ clock.minute < 60 ∧ clock.second < 60 ∧
      days * 86400 + clock.hour * 3600 + clock.minute * 60 + clock.second = t.seconds) ∧
    HttpDate.parse? text = some ⟨t.seconds, 0⟩ ∧
    ∀ (other : ReadOptions) (u : Time.Instant), u.IsWritable →
      ((∃ o', other.setModifiedSince u = .ok o' ∧
        o'.header.get? HeaderName.ifModifiedSince = some text) ↔ u.seconds = t.seconds) ∧
      ((∃ o', other.setUnmodifiedSince u = .ok o' ∧
        o'.header.get? HeaderName.ifUnmodifiedSince = some text) ↔ u.seconds = t.seconds) := by
  intro text clock
  obtain ⟨hvalid, hhour, hminute, hsecond, hseconds⟩ := t.clock_of_lt h.nanos_lt
  have hdate := Time.HttpDate.isFixdate_format h.nanos_lt h.year_nonneg h.year_le
  have hnumber : clock.date.HasNumber clock.date.toDays :=
    (Time.Date.hasNumber_iff ..).mpr ⟨hvalid, rfl⟩
  refine ⟨o.sends_date h.ne_epoch, ?_, hdate, ?_, ?_, ?_⟩
  · rw [← String.length_toList]
    exact hdate.length
  · exact ⟨clock.date.toDays, hnumber, Time.HttpDate.weekday_eq_of_hasNumber hnumber, hhour,
      hminute, hsecond, hseconds⟩
  · exact Time.HttpDate.parse?_format h.nanos_lt h.year_nonneg h.year_le
  · intro other u hu
    obtain ⟨hmodified, hunmodified⟩ := other.sends_date hu.ne_epoch
    rw [exists_sends_iff hmodified, exists_sends_iff hunmodified,
      Time.HttpDate.format_eq_format_iff h hu]
    exact ⟨Iff.rfl, Iff.rfl⟩

/-- The nanosecond before the start of 1970 is sent as the last second of 1969. -/
theorem date_of_condition_before_1970 :
    let t : Time.Instant := ⟨-1, 999999999⟩
    t.IsWritable ∧ ∃ o', ({} : ReadOptions).setModifiedSince t = .ok o' ∧
      o'.header.get? HeaderName.ifModifiedSince = some "Wed, 31 Dec 1969 23:59:59 GMT" := by
  intro t
  have h : t.IsWritable :=
    ⟨by decide, by decide +kernel, by decide +kernel, by decide⟩
  obtain ⟨⟨hmodified, _⟩, _⟩ := date_of_condition {} t h
  have htext : HttpDate.format t = "Wed, 31 Dec 1969 23:59:59 GMT" := by decide +kernel
  exact ⟨h, htext ▸ hmodified⟩

end ReadOptions

end ObjectStore
