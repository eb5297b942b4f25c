import ObjectStore.Query

/-!
# Pairs read back from a query

A written pair has no separator in it, and no equals sign but the one between its key and
its value: whatever else a key or a value holds is escaped. The pairs that were written are
therefore read back as they were, in their order, duplicates included.
-/

namespace ObjectStore

/-! ## What escaping leaves of a text -/

namespace Text.Percent

theorem isUnreserved_upperDigit : ∀ n < 16, isUnreserved (Hex.upperDigit n) = true := by decide

/-- A written byte is its own character, or begins with a percent sign. -/
theorem mem_encodeByte {keep : Char → Bool} {b : UInt8} {c : Char} (h : c ∈ encodeByte keep b) :
    keep c = true ∨ c = '%' ∨ isUnreserved c = true := by
  rw [encodeByte] at h
  split at h
  · next hk =>
    rw [keeps, Bool.and_eq_true] at hk
    rw [List.mem_singleton.mp h]
    exact .inl hk.2
  · have hb := b.toNat_lt
    simp only [List.mem_cons, List.not_mem_nil, or_false] at h
    rcases h with rfl | rfl | rfl
    · exact .inr (.inl rfl)
    · exact .inr (.inr (isUnreserved_upperDigit _ (by omega)))
    · exact .inr (.inr (isUnreserved_upperDigit _ (by omega)))

/-- A character with a meaning in URLs, other than the percent sign, stands in no escaped text. -/
theorem not_mem_toList_encode {c : Char} (hc : isUnreserved c = false) (hp : c ≠ '%') (s : String) :
    c ∉ (encode s).toList := by
  intro h
  rw [encode, String.toList_ofList, encodeBytes] at h
  obtain ⟨b, _, hb⟩ := List.mem_flatMap.mp h
  rcases mem_encodeByte hb with hk | he | hu
  · exact absurd (hk.symm.trans hc) (by decide)
  · exact hp he
  · exact absurd (hu.symm.trans hc) (by decide)

end Text.Percent

/-! ## Pieces and pairs -/

namespace Query

open Text.Percent (not_mem_toList_encode decode?_encode)

theorem pieces_eq_splitOn (separator : Char) (text : List Char) :
    pieces separator text = text.splitOn separator := by
  induction text with
  | nil => rw [pieces, List.splitOn_nil]
  | cons c rest ih =>
    rw [pieces, ih, List.splitOn_cons_eq_if_modifyHead]
    by_cases hc : c = separator
    · simp [hc]
    · rw [if_neg hc, if_neg (by simpa using hc)]
      cases hrest : rest.splitOn separator with
      | nil => exact absurd hrest (List.splitOn_ne_nil separator rest)
      | cons piece more => rfl

theorem toList_encodePair (pair : String × String) :
    (encodePair pair).toList =
      (Text.Percent.encode pair.1).toList ++ '=' :: (Text.Percent.encode pair.2).toList := by
  simp [encodePair]

/-- A written pair reads back as itself. -/
theorem decodePair?_encodePair (pair : String × String) :
    decodePair? (encodePair pair).toList = some pair := by
  have hkey : ∀ c ∈ (Text.Percent.encode pair.1).toList, (c != '=') = true := by
    intro c hc
    rw [bne_iff_ne]
    rintro rfl
    exact not_mem_toList_encode rfl (by decide) pair.1 hc
  rw [decodePair?, toList_encodePair, List.takeWhile_append_of_pos hkey,
    List.dropWhile_append_of_pos hkey]
  simp [decode?_encode]

/-- A written pair has no separator in it. -/
theorem separator_not_mem_encodePair (pair : String × String) :
    '&' ∉ (encodePair pair).toList := by
  rw [toList_encodePair, List.mem_append, List.mem_cons]
  rintro (h | h | h)
  · exact not_mem_toList_encode rfl (by decide) _ h
  · exact absurd h (by decide)
  · exact not_mem_toList_encode rfl (by decide) _ h

/-- The pieces of written pairs are the pairs. -/
theorem pieces_intercalate {pairs : List (String × String)} (h : pairs ≠ []) :
    pieces '&' ("&".intercalate (pairs.map encodePair)).toList =
      (pairs.map encodePair).map String.toList := by
  rw [pieces_eq_splitOn, String.toList_intercalate]
  refine List.splitOn_intercalate '&' ?_ (by simpa using h)
  simp only [List.map_map, List.mem_map]
  rintro _ ⟨pair, _, rfl⟩
  exact separator_not_mem_encodePair pair

/-- Pieces that write pairs read back as the pairs, in their order. -/
theorem mapM_decodePair?_encodePair (pairs : List (String × String)) :
    ((pairs.map encodePair).map String.toList).mapM decodePair? = some pairs := by
  have hpair : (decodePair? ∘ String.toList) ∘ encodePair = fun pair => pure pair :=
    funext decodePair?_encodePair
  rw [List.mapM_map, List.mapM_map, hpair, List.mapM_pure, List.map_id']
  rfl

/-- Written pairs read back as themselves, in their order. -/
theorem decode?_intercalate {pairs : List (String × String)} (h : pairs ≠ []) :
    decode? ("&".intercalate (pairs.map encodePair)) = some pairs := by
  have hpieces := pieces_intercalate h
  -- The empty text has one piece, which is no pair.
  have hne : ¬("&".intercalate (pairs.map encodePair)).isEmpty = true := by
    rw [String.isEmpty_iff]
    intro he
    rw [he, String.toList_empty, pieces] at hpieces
    have hmem : [] ∈ (pairs.map encodePair).map String.toList := by simp [← hpieces]
    simp [toList_encodePair] at hmem
  rw [decode?, if_neg hne, hpieces, mapM_decodePair?_encodePair]

end Query

end ObjectStore
