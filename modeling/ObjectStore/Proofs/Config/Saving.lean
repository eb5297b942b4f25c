import ObjectStore.Config.InPlace
import ObjectStore.Proofs.Config.RoundTrip
import ObjectStore.Proofs.FileTree.Writing

/-!
# Configurations saved and loaded

A configuration that was saved is the configuration that is loaded. One that has no written form is
refused before anything happens to the file.
-/

namespace ObjectStore

/-- Something can be written to a file at a path. -/
def FileTree.CanWrite (t : FileTree) (path : String) : Prop :=
  ∃ content t', t.write path content = .ok t'

namespace Config

variable {t : FileTree} {path : String} {c : Config}

/-- A document that is written to a file is in the file afterwards. -/
theorem exists_saved (hpath : t.CanWrite path) (text : String) :
    ∃ written closed, t.write path (Text.utf8 text) = .ok written ∧
      written.setMode path fileMode = .ok closed ∧ loadFrom closed path = ofText text := by
  obtain ⟨content, t', hwrite⟩ := hpath
  obtain ⟨way, hway⟩ := FileTree.leadsTo_of_write hwrite
  obtain ⟨mode, hwritten⟩ := hway.write (Text.utf8 text)
  obtain ⟨closed, hclosed, hcontains, hread⟩ := hway.setMode (Text.utf8 text) mode fileMode
  refine ⟨_, closed, hwritten, hclosed, ?_⟩
  have htext : closed.readText path = .ok text := by
    simp only [FileTree.readText, hread, bind, Except.bind, Text.ofUtf8?_utf8]
    rfl
  rw [loadFrom, if_pos hcontains, htext]

/-- Saving in place does what saving says, whether or not it succeeds. -/
theorem runOn_saveInPlace_eq (hpath : t.CanWrite path) (c : Config) :
    (saveInPlace path c).runOn t =
      match saveTo t path c with
      | .ok t' => (.ok (), t')
      | .error e => (.error e, t) := by
  rw [runOn_saveInPlace, saveTo]
  cases c.format with
  | error e => rfl
  | ok text =>
    obtain ⟨written, closed, hwrite, hmode, _⟩ := exists_saved hpath text
    simp only [bind, Except.bind, hwrite, hmode]

theorem isWritable_iff_lt : c.isWritable = true ↔ ∀ s ∈ c.transfer,
    s.listPageSize < 2 ^ 63 ∧ s.deleteBatchSize < 2 ^ 63 ∧ s.timeout < 2 ^ 63 := by
  simp only [isWritable_iff, maxNumber, Nat.lt_iff_add_one_le, Nat.reducePow,
    Nat.succ_le_succ_iff]

/-- A configuration with a written form is saved, and is what is loaded. -/
theorem exists_loadFrom (hpath : t.CanWrite path) (h : c.isWritable = true) :
    ∃ closed, (saveInPlace path c).runOn t = (.ok (), closed) ∧ loadFrom closed path = .ok c := by
  obtain ⟨text, hformat⟩ : ∃ text, c.format = .ok text := ⟨_, if_pos h⟩
  obtain ⟨written, closed, hwrite, hmode, hload⟩ := exists_saved hpath text
  refine ⟨closed, ?_, ?_⟩
  · simp only [runOn_saveInPlace, hformat, hwrite, hmode]
  · rw [hload, ofText, parse?_of_format hformat]

/-- A configuration without a written form is refused before the file is written. -/
theorem runOn_saveInPlace_of_not_isWritable (h : ¬c.isWritable = true) :
    (saveInPlace path c).runOn t =
      (.error (.serialization "out-of-range value for u64 type"), t) := by
  have hformat : c.format = .error (.serialization "out-of-range value for u64 type") := if_neg h
  rw [runOn_saveInPlace, hformat]

/-- Saving succeeds exactly if all numbers fit 64 bits with a sign, and then the same configuration
is loaded, whatever its texts hold and whichever of its parts are not set. Otherwise there is an
error of the written form, and the files are as they were. -/
theorem save_then_load (hpath : t.CanWrite path) (c : Config) :
    let saved := (saveInPlace path c).runOn t
    saveTo t path c = saved.1.map (fun _ => saved.2) ∧
    (saved.1 = .ok () ↔ ∀ s ∈ c.transfer,
      s.listPageSize < 2 ^ 63 ∧ s.deleteBatchSize < 2 ^ 63 ∧ s.timeout < 2 ^ 63) ∧
    (saved.1 = .ok () → loadFrom saved.2 path = .ok c) ∧
    (saved.1 ≠ .ok () →
      (∃ message, saved.1 = .error (.serialization message)) ∧ saved.2 = t) := by
  intro saved
  have hsaveTo : saved = _ := runOn_saveInPlace_eq hpath c
  refine ⟨?_, ?_⟩
  · rw [hsaveTo]
    cases saveTo t path c <;> rfl
  rw [← isWritable_iff_lt]
  by_cases h : c.isWritable = true
  · obtain ⟨closed, hsaved, hload⟩ := exists_loadFrom hpath h
    have hok : saved = (.ok (), closed) := hsaved
    rw [hok]
    exact ⟨iff_of_true rfl h, fun _ => hload, fun hne => absurd rfl hne⟩
  · have herror : saved = (.error (.serialization "out-of-range value for u64 type"), t) :=
      runOn_saveInPlace_of_not_isWritable h
    rw [herror]
    refine ⟨iff_of_false ?_ h, ?_, fun _ => ⟨⟨_, rfl⟩, rfl⟩⟩
    · simp
    · simp

/-- The parts of the path of a file right below the top. -/
theorem walkable_top : FileTree.walkable "/c" = .ok ["c"] := by
  have hsplit : "/c".splitOn "/" = ["", "c"] := by
    rw [String.splitOn, if_neg (by decide +kernel), String.splitOnAux, if_neg (by decide +kernel),
      if_pos (by decide +kernel), if_pos (by decide +kernel), String.splitOnAux,
      if_neg (by decide +kernel), if_neg (by decide +kernel), String.splitOnAux,
      if_pos (by decide +kernel)]
    decide +kernel
  have hparts : FileTree.parts "/c" = ["c"] := by
    rw [FileTree.parts, hsplit]
    decide +kernel
  rw [FileTree.walkable, String.contains_char_eq, if_neg (by simp), if_neg (by decide +kernel),
    hparts]

/-- A file with other content: texts with quotes, a backslash, a line break and a control, an empty
secret and no sections but the first are saved and loaded; a number of 64 bits is refused. -/
theorem save_then_load_quotes :
    let t : FileTree := ⟨[(["c"], .file 0o644 [65])]⟩
    let c : Config :=
      { endpoint := { url := "\"\x27\n\x27\x27\x27\\\x01", region := "", secretAccessKey := some "" } }
    let large : Config :=
      { endpoint := { url := "" }, transfer := some { timeout := 9223372036854775808 } }
    loadFrom ((saveInPlace "/c" c).runOn t).2 "/c" = .ok c ∧
      (∃ message, ((saveInPlace "/c" large).runOn t).1 = .error (.serialization message)) ∧
      ((saveInPlace "/c" large).runOn t).2 = t := by
  intro t c large
  have hpath : t.CanWrite "/c" := by
    have hway : t.LeadsTo "/c" ["c"] :=
      ⟨⟨["c"], walkable_top, by decide +kernel⟩, by simp [FileTree.IsDirectory, FileTree.node?, t],
        by decide +kernel⟩
    obtain ⟨mode, hwrite⟩ := hway.write []
    exact ⟨[], _, hwrite⟩
  obtain ⟨_, hsaved, hload, _⟩ := save_then_load hpath c
  obtain ⟨_, hlarge, _, hrefused⟩ := save_then_load hpath large
  refine ⟨hload (hsaved.mpr (by simp [c])), hrefused ?_⟩
  intro hok
  have := hlarge.mp hok
  simp [large] at this

end Config

end ObjectStore
