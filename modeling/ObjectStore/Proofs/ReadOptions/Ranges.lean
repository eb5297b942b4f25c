import ObjectStore.Proofs.ReadOptions.Precedence
import ObjectStore.Proofs.Text.Numerals

/-!
# What the range of a read selects

The header of a range is a text of the grammar of byte ranges, with one range: the unit, an equals
sign, and either a hyphen before the number of the last bytes or a hyphen after the first position,
which the last position may follow. The reader of such headers takes these texts and no others, so
that it can say what a pair of numbers was turned into: the bytes that the pair asks for, and
a header that no other pair has.
-/

namespace ObjectStore

open Text (Decimal.nat? Decimal.IsNumeral Decimal.IsDecimal Decimal.isDecimal_toString
  Decimal.isNumeral_toDigits Decimal.nat?_eq_some_iff)

namespace ByteRange

/-! ## The grammar of headers -/

/-- What stands after the unit of a header, and the range that it names. -/
inductive IsSpecifier : List Char → ByteRange → Prop where
  /-- The last bytes, by their number. -/
  | suffix {digits : List Char} {count : Nat} (h : Decimal.IsNumeral digits count) :
      IsSpecifier ('-' :: digits) (.suffix count)
  /-- All bytes from a position on. -/
  | startingAt {digits : List Char} {first : Nat} (h : Decimal.IsNumeral digits first) :
      IsSpecifier (digits ++ ['-']) (.startingAt first)
  /-- The bytes from a position to one that is not before it. -/
  | between {digits digits' : List Char} {first last : Nat} (hf : Decimal.IsNumeral digits first)
      (hl : Decimal.IsNumeral digits' last) (h : first ≤ last) :
      IsSpecifier (digits ++ '-' :: digits') (.between first last)

/-! ## The reader -/

/-- What stands after the unit is divided by its first hyphen. -/
theorem parse?_unit (bounds : List Char) :
    parse? ("bytes=" ++ String.ofList bounds) =
      ofBoundTexts? (bounds.takeWhile (· ≠ '-')) (bounds.dropWhile (· ≠ '-')) := by
  have h : ("bytes=" ++ String.ofList bounds).toList =
      'b' :: 'y' :: 't' :: 'e' :: 's' :: '=' :: bounds := by simp
  rw [parse?, h]
  rfl

/-- A numeral holds no hyphen, so that it ends at the first one. -/
theorem parse?_numeral {digits : List Char} {n : Nat} (h : Decimal.IsNumeral digits n)
    (rest : List Char) :
    parse? ("bytes=" ++ String.ofList (digits ++ '-' :: rest)) =
      ofBoundTexts? digits ('-' :: rest) := by
  have hdigits : ∀ c ∈ digits, decide (c ≠ '-') = true :=
    fun c hc => decide_eq_true (h.ne_hyphen c hc)
  rw [parse?_unit, List.takeWhile_append_of_pos hdigits, List.dropWhile_append_of_pos hdigits]
  simp

/-- Specifiers are read as their ranges. -/
theorem parse?_of_isSpecifier {specifier : List Char} {range : ByteRange}
    (h : IsSpecifier specifier range) :
    parse? ("bytes=" ++ String.ofList specifier) = some range := by
  cases h with
  | suffix h =>
    rw [parse?_unit]
    change (Decimal.nat? _).map ByteRange.suffix = _
    rw [(Decimal.nat?_eq_some_iff ..).mpr h]
    rfl
  | startingAt h =>
    rw [parse?_numeral h]
    obtain ⟨c, digits, rfl⟩ := List.exists_cons_of_ne_nil h.ne_nil
    change (Decimal.nat? _).map ByteRange.startingAt = _
    rw [(Decimal.nat?_eq_some_iff ..).mpr h]
    rfl
  | between hf hl hle =>
    rw [parse?_numeral hf]
    obtain ⟨c, digits, rfl⟩ := List.exists_cons_of_ne_nil hf.ne_nil
    obtain ⟨c', digits', rfl⟩ := List.exists_cons_of_ne_nil hl.ne_nil
    change ((Decimal.nat? (c :: digits)).bind fun first =>
      (Decimal.nat? (c' :: digits')).bind fun last =>
        if first ≤ last then some (ByteRange.between first last) else none) = _
    rw [(Decimal.nat?_eq_some_iff ..).mpr hf, (Decimal.nat?_eq_some_iff ..).mpr hl]
    exact if_pos hle

/-- What is read on the two sides of a hyphen makes a specifier. -/
theorem isSpecifier_of_ofBoundTexts? {before after : List Char} {range : ByteRange}
    (h : ofBoundTexts? before ('-' :: after) = some range) :
    IsSpecifier (before ++ '-' :: after) range := by
  cases before with
  | nil =>
    obtain ⟨count, hcount, rfl⟩ := Option.map_eq_some_iff.mp h
    exact .suffix ((Decimal.nat?_eq_some_iff ..).mp hcount)
  | cons c before =>
    cases after with
    | nil =>
      obtain ⟨first, hfirst, rfl⟩ := Option.map_eq_some_iff.mp h
      exact .startingAt ((Decimal.nat?_eq_some_iff ..).mp hfirst)
    | cons c' after =>
      obtain ⟨first, hfirst, h⟩ := Option.bind_eq_some_iff.mp h
      obtain ⟨last, hlast, h⟩ := Option.bind_eq_some_iff.mp h
      split at h
      · next hle =>
        cases h
        exact .between ((Decimal.nat?_eq_some_iff ..).mp hfirst)
          ((Decimal.nat?_eq_some_iff ..).mp hlast) hle
      · cases h

/-- What is read as a range after the unit is a specifier. -/
theorem isSpecifier_of_parse? {specifier : List Char} {range : ByteRange}
    (h : parse? ("bytes=" ++ String.ofList specifier) = some range) :
    IsSpecifier specifier range := by
  rw [parse?_unit] at h
  rw [← List.takeWhile_append_dropWhile (p := (· ≠ '-')) (l := specifier)]
  cases hrest : specifier.dropWhile (· ≠ '-') with
  | nil =>
    rw [hrest] at h
    cases hbefore : specifier.takeWhile (· ≠ '-') <;> rw [hbefore] at h <;> cases h
  | cons c after =>
    have hc : c = '-' := by
      have hhead := List.head?_dropWhile_not (· ≠ '-') specifier
      rw [hrest] at hhead
      simpa using hhead
    subst hc
    rw [hrest] at h
    exact isSpecifier_of_ofBoundTexts? h

/-- The texts that are read as a range are the unit with a specifier. -/
theorem parse?_eq_some_iff (text : String) (range : ByteRange) :
    parse? text = some range ↔
      ∃ specifier, text = "bytes=" ++ String.ofList specifier ∧ IsSpecifier specifier range := by
  constructor
  · intro h
    obtain ⟨specifier, rfl⟩ : ∃ specifier, text = "bytes=" ++ String.ofList specifier := by
      rw [parse?] at h
      split at h
      · next bounds htext =>
        refine ⟨bounds, ?_⟩
        rw [← String.toList_inj, htext]
        simp
      · cases h
    exact ⟨specifier, rfl, isSpecifier_of_parse? h⟩
  · rintro ⟨specifier, rfl, h⟩
    exact parse?_of_isSpecifier h

/-- A part is written as a specifier after the unit, unless it ends before it starts. -/
theorem parse?_format {range : ByteRange}
    (h : ∀ first last, range = between first last → first ≤ last) :
    parse? range.format = some range := by
  rw [parse?_eq_some_iff]
  cases range with
  | suffix count =>
    refine ⟨_, ?_, .suffix (Decimal.isNumeral_toDigits count)⟩
    rw [← String.toList_inj]
    simp [format]
  | startingAt first =>
    refine ⟨_, ?_, .startingAt (Decimal.isNumeral_toDigits first)⟩
    rw [← String.toList_inj]
    simp [format]
  | between first last =>
    refine ⟨_, ?_, .between (Decimal.isNumeral_toDigits first) (Decimal.isNumeral_toDigits last)
      (h first last rfl)⟩
    rw [← String.toList_inj]
    simp [format]

/-! ## Pairs of numbers -/

/-- The pair of numbers that asks for a range. -/
def bounds : ByteRange → Int × Int
  | suffix count => (0, -count)
  | startingAt first => (first, 0)
  | between first last => (first, last)

/-- Whether the byte at a position is one of the bytes that a range selects from an object. -/
def Selects (range : ByteRange) (length position : Nat) : Prop :=
  (range.select length).1 ≤ position ∧
    position < (range.select length).1 + (range.select length).2

/-- A range comes from one of three kinds of pairs. -/
theorem ofBounds?_cases {first last : Int} {range : ByteRange}
    (h : ofBounds? first last = some range) :
    (first = 0 ∧ last < 0 ∧ range = suffix last.natAbs) ∨
    (0 < first ∧ last = 0 ∧ range = startingAt first.toNat) ∨
    (0 ≤ first ∧ first ≤ last ∧ range = between first.toNat last.toNat) := by
  rw [ofBounds?] at h
  split at h
  · next hp => exact .inl ⟨hp.1, hp.2, (Option.some.inj h).symm⟩
  · split at h
    · next hp => exact .inr (.inl ⟨hp.1, hp.2, (Option.some.inj h).symm⟩)
    · split at h
      · next hp => exact .inr (.inr ⟨hp.1, hp.2, (Option.some.inj h).symm⟩)
      · cases h

theorem isSome_ofBounds? (first last : Int) :
    (ofBounds? first last).isSome = true ↔
      (first = 0 ∧ last < 0) ∨ (0 < first ∧ last = 0) ∨ (0 ≤ first ∧ first ≤ last) := by
  rw [ofBounds?]
  split
  · next h => simp [h]
  · next hsuffix =>
    split
    · next h => simp [h]
    · next hstart =>
      split
      · next h => simp [h]
      · next hboth => simp [hsuffix, hstart, hboth]

/-- The pair that asks for the range of a pair is that pair. -/
theorem bounds_of_ofBounds? {first last : Int} {range : ByteRange}
    (h : ofBounds? first last = some range) : range.bounds = (first, last) := by
  rcases ofBounds?_cases h with ⟨hf, hl, rfl⟩ | ⟨hf, hl, rfl⟩ | ⟨hf, hl, rfl⟩
  · simp only [bounds, Prod.mk.injEq]
    omega
  · simp only [bounds, Prod.mk.injEq]
    omega
  · simp only [bounds, Prod.mk.injEq]
    omega

/-- What is written for a pair is read back. -/
theorem parse?_format_of_ofBounds? {first last : Int} {range : ByteRange}
    (h : ofBounds? first last = some range) : parse? range.format = some range := by
  apply parse?_format
  rintro first' last' rfl
  rcases ofBounds?_cases h with ⟨_, _, he⟩ | ⟨_, _, he⟩ | ⟨hf, hl, he⟩
  · cases he
  · cases he
  · cases he
    omega

/-- Different pairs are written differently. -/
theorem bounds_eq_of_format_eq {first last first' last' : Int} {range range' : ByteRange}
    (h : ofBounds? first last = some range) (h' : ofBounds? first' last' = some range')
    (hf : range'.format = range.format) : first' = first ∧ last' = last := by
  have hrange : range' = range := by
    have hread := parse?_format_of_ofBounds? h'
    rw [hf, parse?_format_of_ofBounds? h] at hread
    exact (Option.some.inj hread).symm
  have hpair : (first', last') = (first, last) := by
    rw [← bounds_of_ofBounds? h', hrange, bounds_of_ofBounds? h]
  exact Prod.mk.inj hpair

/-- The bytes of the range of a pair are those that the pair asks for. -/
theorem selects_of_ofBounds? {first last : Int} {range : ByteRange}
    (h : ofBounds? first last = some range) {length : Nat} (hlength : first < length)
    (position : Nat) :
    (first = 0 → last < 0 → (range.Selects length position ↔
      length - min (-last) length ≤ position ∧ position < length)) ∧
    (0 < first → last = 0 → (range.Selects length position ↔
      first ≤ position ∧ (position : Int) ≤ length - 1)) ∧
    (0 ≤ first → first ≤ last → (range.Selects length position ↔
      first ≤ position ∧ position ≤ min last (length - 1))) := by
  rcases ofBounds?_cases h with ⟨hf, hl, rfl⟩ | ⟨hf, hl, rfl⟩ | ⟨hf, hl, rfl⟩
  · simp only [Selects, select]
    omega
  · simp only [Selects, select]
    omega
  · simp only [Selects, select]
    omega

end ByteRange

/-! ## The setting -/

namespace ReadOptions

open ByteRange

/-- The range that was set is sent as the range that its pair is turned into. -/
theorem exists_range_of_setRange {o o' : ReadOptions} {first last : Int}
    (h : o.setRange first last = .ok o') :
    ∃ range, ofBounds? first last = some range ∧
      o'.header.get? HeaderName.range = some range.format := by
  rw [setRange] at h
  split at h
  · next range hrange =>
    cases h
    exact ⟨range, hrange, o.get?_header_setHeader range.format (by decide +kernel)⟩
  · cases h

/--
What setting a range does, for every pair of numbers. The pairs of three kinds are accepted and no
others: zero and a negative number, a positive number and zero, and two numbers in order that are
not negative. What is then sent reads, in the grammar of byte ranges, as a range that selects the
last bytes, all bytes from a position on, or the bytes from a position to another one, as far as the
object has them, and no other pair is sent in the same way. A message that refuses a pair
has both numbers in it.
-/
theorem setRange_selects (o : ReadOptions) (first last : Int) :
    ((∃ o', o.setRange first last = .ok o') ↔
      (first = 0 ∧ last < 0) ∨ (0 < first ∧ last = 0) ∨ (0 ≤ first ∧ first ≤ last)) ∧
    (∀ o', o.setRange first last = .ok o' → ∃ text range,
      o'.header.get? HeaderName.range = some text ∧ ByteRange.parse? text = some range ∧
      (∃ specifier, text = "bytes=" ++ String.ofList specifier ∧ IsSpecifier specifier range) ∧
      (∀ length position : Nat, first < length →
        (first = 0 → last < 0 → (range.Selects length position ↔
          length - min (-last) length ≤ position ∧ position < length)) ∧
        (0 < first → last = 0 → (range.Selects length position ↔
          first ≤ position ∧ (position : Int) ≤ length - 1)) ∧
        (0 ≤ first → first ≤ last → (range.Selects length position ↔
          first ≤ position ∧ position ≤ min last (length - 1)))) ∧
      ∀ (other other' : ReadOptions) (first' last' : Int),
        other.setRange first' last' = .ok other' →
        other'.header.get? HeaderName.range = some text → first' = first ∧ last' = last) ∧
    ∀ error, o.setRange first last = .error error → ∃ firstText lastText : String,
      Decimal.IsDecimal firstText.toList first ∧ Decimal.IsDecimal lastText.toList last ∧
      error = .invalidArgument
        ("Invalid range specified: start=" ++ firstText ++ " end=" ++ lastText) := by
  refine ⟨?_, ?_, ?_⟩
  · rw [← isSome_ofBounds?, setRange]
    cases ofBounds? first last <;> simp
  · intro o' h
    obtain ⟨range, hrange, hsent⟩ := exists_range_of_setRange h
    have hread := parse?_format_of_ofBounds? hrange
    refine ⟨range.format, range, hsent, hread, (parse?_eq_some_iff ..).mp hread, ?_, ?_⟩
    · intro length position hlength
      exact selects_of_ofBounds? hrange hlength position
    · intro other other' first' last' h' hsame
      obtain ⟨range', hrange', hsent'⟩ := exists_range_of_setRange h'
      rw [hsame] at hsent'
      exact bounds_eq_of_format_eq hrange hrange' (Option.some.inj hsent').symm
  · intro error h
    rw [setRange] at h
    split at h
    · cases h
    · cases h
      exact ⟨toString first, toString last, Decimal.isDecimal_toString first,
        Decimal.isDecimal_toString last, rfl⟩

end ReadOptions

end ObjectStore
