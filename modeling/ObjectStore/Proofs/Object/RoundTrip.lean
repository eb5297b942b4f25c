import ObjectStore.Object.Json
import ObjectStore.Proofs.Json.RoundTrip
import ObjectStore.Proofs.Time.Timestamps

/-!
# Entries read back

An entry is read back from its JSON text, whatever its texts hold and whichever of its fields are
missing. A text from elsewhere need not be the one that is written for the entry it describes, but
the entry does not change any more: a timestamp is told in UTC from then on, and whatever instant
was read can be told.
-/

namespace ObjectStore

open Json (Value)
open Time (Instant)

/-! ## Fields -/

namespace Json.Value

@[simp] theorem toString?_ofString (s : String) : (ofString s).toString? = some s := rfl

@[simp] theorem toInt64?_integer (n : Int64) : (integer n.toInt).toInt64? = some n := by
  rw [toInt64?, if_pos ⟨Int64.minValue_le_toInt n, Int64.toInt_le n⟩, Int64.ofInt_toInt]

@[simp] theorem toBool?_bool (b : Bool) : (bool b).toBool? = some b := rfl

/-- A field that may be missing is read back if what it holds is, and is not written as missing. -/
theorem toOption?_ofOption {α : Type} {write : α → Value} {read : Value → Option α} {a : Option α}
    (hread : ∀ b ∈ a, read (write b) = some b) (hne : ∀ b ∈ a, write b ≠ null) :
    (ofOption write a).toOption? read = some a := by
  cases a with
  | none => rfl
  | some b =>
    rw [ofOption, toOption?, hread b rfl]
    · rfl
    · exact hne b rfl

@[simp] theorem toOption?_ofString (s : Option String) :
    (ofOption ofString s).toOption? toString? = some s :=
  toOption?_ofOption (fun s _ => toString?_ofString s) (fun _ _ => Value.noConfusion)

/-- A timestamp that can be told is read back. -/
theorem toOption?_format {t : Option Instant} (h : ∀ u ∈ t, u.IsTellable) :
    (ofOption (fun u => ofString (Time.Rfc3339.format u)) t).toOption? toInstant? = some t :=
  toOption?_ofOption (fun u hu => Time.Rfc3339.parse?_format (h u hu))
    (fun _ _ => Value.noConfusion)

/-- What is read as a timestamp can be told. -/
theorem isTellable_of_toOption? {v : Value} {t : Option Instant}
    (h : v.toOption? toInstant? = some t) : ∀ u ∈ t, u.IsTellable := by
  intro u hu
  obtain rfl := Option.mem_def.mp hu
  rw [toOption?.eq_def] at h
  split at h
  · cases h
  · next v _ =>
    obtain ⟨w, hread, hw⟩ := Option.map_eq_some_iff.mp h
    obtain rfl := Option.some.inj hw
    rw [toInstant?.eq_def] at hread
    split at hread
    · exact Time.Rfc3339.isTellable_of_parse? hread
    · cases hread

theorem IsIntegral.ofOption {α : Type} {f : α → Value} (h : ∀ a, (f a).IsIntegral) (a : Option α) :
    (ofOption f a).IsIntegral := by
  cases a with
  | none => exact .null
  | some b => exact h b

end Json.Value

namespace ObjectEntry

/-- The instant of an entry, if it has one, can be told. -/
def IsTellable (entry : ObjectEntry) : Prop := ∀ t ∈ entry.lastModified, t.IsTellable

variable {entry : ObjectEntry}

/-! ## Entries -/

theorem ofJson?_toJson (h : entry.IsTellable) : ofJson? entry.toJson = some entry := by
  have hdate := Value.toOption?_format h
  simp [toJson, fieldNames, fieldValues, ofJson?, fieldMap?, ofFields?, List.lookup_cons, hdate]

theorem isIntegral_toJson (entry : ObjectEntry) : entry.toJson.IsIntegral := by
  have hvalues : ∀ v ∈ entry.fieldValues, v.IsIntegral := by
    simp only [fieldValues, List.forall_mem_cons, List.not_mem_nil, IsEmpty.forall_iff,
      implies_true, and_true]
    exact ⟨.text _, .integer _, .ofOption (fun _ => .text _) _, .text _,
      .ofOption (fun _ => .text _) _, .ofOption (fun _ => .text _) _, .bool _⟩
  refine .object fun f hf => ?_
  obtain ⟨⟨name, v⟩, hmem, rfl⟩ := List.mem_map.mp hf
  exact hvalues v (List.of_mem_zip hmem).2

/-- An entry is read back from its text if its instant can be told. -/
theorem parse?_format (h : entry.IsTellable) : parse? entry.format = some entry := by
  rw [parse?, format, Json.parse?_format entry.isIntegral_toJson, Option.bind_some,
    ofJson?_toJson h]

theorem isTellable_of_ofFields? {key size lastModified etag versionId storageClass isCommonPrefix :
    Option Value} (h : ofFields? key size lastModified etag versionId storageClass isCommonPrefix =
      some entry) : entry.IsTellable := by
  simp only [ofFields?, Option.bind_eq_bind, Option.bind_eq_some_iff, Option.pure_def,
    Option.some.injEq] at h
  obtain ⟨_, _, _, _, _, _, _, _, t, ht, _, _, _, _, _, _, _, _, _, _, rfl⟩ := h
  exact Value.isTellable_of_toOption? ht

/-- Whatever form a text gives to an entry, the instant that is read can be told. -/
theorem isTellable_of_parse? {text : String} (h : parse? text = some entry) : entry.IsTellable := by
  obtain ⟨v, _, hv⟩ := Option.bind_eq_some_iff.mp h
  rw [ofJson?.eq_def] at hv
  split at hv
  · simp only [Option.bind_eq_bind, Option.bind_eq_some_iff] at hv
    obtain ⟨named, _, hv⟩ := hv
    exact isTellable_of_ofFields? hv
  · exact isTellable_of_ofFields? hv
  · exact isTellable_of_ofFields? hv
  · cases hv

/-- Every entry is read back from its text, the instant of a leap second aside. An entry that was
read from any text at all, in leap seconds too, is read back from its own text, which is the text
that is written for it from then on. -/
theorem json_read_back :
    (∀ entry : ObjectEntry,
      (∀ t ∈ entry.lastModified, t.isRepresentable = true ∧ t.nanos < 1000000000) →
      parse? entry.format = some entry) ∧
    ∀ (text : String) (entry : ObjectEntry), parse? text = some entry →
      parse? entry.format = some entry ∧
        (parse? entry.format).map format = some entry.format := by
  constructor
  · intro entry h
    exact parse?_format fun t ht => Instant.isTellable_of_lt (h t ht).1 (h t ht).2
  · intro text entry h
    have hread := parse?_format (isTellable_of_parse? h)
    exact ⟨hread, by rw [hread, Option.map_some]⟩

/-- An entry of a year before the year 0, with characters that are escaped, and the leap second at
the end of 2016, told from an offset in a text with an unknown field and without optional ones. -/
theorem json_read_back_leap_second :
    (let entry : ObjectEntry :=
      { key := "a/\"\\\n\x01é", size := -9223372036854775808
        lastModified := some ⟨-62200000000, 250000000⟩, versionId := some "" }
     parse? entry.format = some entry) ∧
    (let entry : ObjectEntry :=
      { key := "A", size := 9007199254740993, lastModified := some ⟨1483228799, 1123456789⟩ }
     let text :=
      "\x7b\"unknown\":[1e3],\"etag\":\"\",\"size\":9007199254740993,\"key\":\"\\u0041\"," ++
        "\"last_modified\":\"2017-01-01t01:59:60.1234567899+02:00\"\x7d"
     parse? text = some entry ∧ parse? entry.format = some entry) := by
  constructor
  · refine json_read_back.1 _ fun t ht => ?_
    obtain rfl := Option.mem_some_iff.mp ht
    decide +kernel
  · intro entry text
    have hread : parse? text = some entry := by decide +kernel
    exact ⟨hread, (json_read_back.2 text entry hread).1⟩

end ObjectEntry

end ObjectStore
