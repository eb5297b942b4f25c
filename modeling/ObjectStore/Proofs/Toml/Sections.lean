import ObjectStore.Proofs.Toml.Values

/-!
# Documents of sections

A document that is made of sections, each with a header and with pairs under keys of its own, is read
as one table for each section. First every line is read back from the characters that it is written
with; then the lines are entered, and none of them meets a key or a table that is there already.
-/

namespace ObjectStore.Toml

open ObjectStore.Text (Stops stops_cons takeWhile_append_of_stops dropWhile_append_of_stops)

/-! ## Keys -/

/-- A name that may stand as a key without quotes. -/
structure IsBareKey (name : String) : Prop where
  /-- There is a character. -/
  ne_nil : name.toList ≠ []
  /-- Every character may stand there. -/
  isBareKeyChar : ∀ c ∈ name.toList, isBareKeyChar c = true

variable {name : String} {rest : List Char}

/-- The characters that a line of pairs may not begin with, or not without another meaning. -/
def reserved : List Char := [' ', '\t', '\n', '\r', '#', '\ufeff', '"', '\x27', '[']

/-- A bare key begins with no reserved character. -/
theorem IsBareKey.exists_cons (h : IsBareKey name) :
    ∃ c more, name.toList = c :: more ∧ c ∉ reserved := by
  have hreserved : ∀ c ∈ reserved, Toml.isBareKeyChar c = false := by
    simp [reserved, Toml.isBareKeyChar]
  obtain ⟨c, more, hc⟩ := List.exists_cons_of_ne_nil h.ne_nil
  refine ⟨c, more, hc, fun hm => ?_⟩
  have hbare := h.isBareKeyChar c (hc ▸ List.mem_cons_self)
  rw [hreserved c hm] at hbare
  cases hbare

theorem IsBareKey.append_ne (h : IsBareKey name) {c : Char} (hc : c ∈ reserved)
    (rest more : List Char) : name.toList ++ rest ≠ c :: more := by
  obtain ⟨d, s, hd, hnot⟩ := h.exists_cons
  rw [hd]
  intro heq
  exact hnot ((List.cons.inj heq).1 ▸ hc)

theorem keyPart?_append (h : IsBareKey name) (hs : Stops isBareKeyChar rest) :
    keyPart? (name.toList ++ rest) = some (name, rest) := by
  have htake := takeWhile_append_of_stops h.isBareKeyChar hs
  have hdrop := dropWhile_append_of_stops h.isBareKeyChar hs
  have hne : name.toList.isEmpty = false := List.isEmpty_eq_false_iff.mpr h.ne_nil
  rw [keyPart?]
  · simp only [htake, hdrop, hne, Bool.false_eq_true, if_false, String.ofList_toList]
  · exact fun more => h.append_ne (by decide) rest more
  · exact fun more => h.append_ne (by decide) rest more

theorem skipBlanks_append (h : IsBareKey name) (rest : List Char) :
    skipBlanks (name.toList ++ rest) = name.toList ++ rest := by
  obtain ⟨c, more, hc, hnot⟩ := h.exists_cons
  simp only [reserved, List.mem_cons, not_or] at hnot
  rw [hc]
  exact Stops.dropWhile_eq (stops_cons.mpr (by simp [hnot]))

/-- A bare key is read up to the blanks after it. -/
theorem key?_append (h : IsBareKey name) (hs : Stops isBareKeyChar rest)
    (hdot : Stops (· = '.') (skipBlanks rest)) :
    key? (name.toList ++ rest) = some (([], name), skipBlanks rest) := by
  have hparts : keyParts? (name.toList ++ rest) = some ([name], skipBlanks rest) := by
    rw [keyParts?, skipBlanks_append h, keyPart?_append h hs]
    split
    · next heq => simp at heq
    · next heq =>
      obtain ⟨rfl, rfl⟩ := Prod.mk.inj (Option.some.inj heq)
      split
      · next heq => simp [heq] at hdot
      · rfl
  rw [key?, hparts]
  rfl

/-! ## Lines -/

/-- Characters that are read as one line, wherever a line may begin. -/
structure WritesLine (written : List Char) (line : Line) : Prop where
  /-- The line does not begin with what may stand between lines. -/
  exists_cons : ∃ c more, written = c :: more ∧ c ∉ reserved.take 6
  /-- The line is read with its end. -/
  line?_append : ∀ rest, line? (written ++ rest) = some (line, rest)

/-- The header of a section. -/
def writeHeader (name : String) : List Char := '[' :: name.toList ++ [']', '\n']

theorem writesLine_header (h : IsBareKey name) :
    WritesLine (writeHeader name) (.header [] name) where
  exists_cons := ⟨'[', _, rfl, by decide⟩
  line?_append rest := by
    have hkey : key? (name.toList ++ ']' :: '\n' :: rest) = some (([], name), ']' :: '\n' :: rest) :=
      key?_append h (stops_cons.mpr (by decide)) (stops_cons.mpr (by decide))
    rw [writeHeader, List.cons_append, List.cons_append, List.append_assoc, List.cons_append,
      List.singleton_append, line?]
    · simp only [hkey, Option.bind_eq_bind, Option.bind_some]
      rfl
    · exact fun more => h.append_ne (by decide) _ more

/-- A key with what is written for its value. -/
def writePair (name : String) (value : List Char) : List Char :=
  name.toList ++ [' ', '=', ' '] ++ value ++ ['\n']

theorem writesLine_pair (h : IsBareKey name) {written : List Char} {v : Value}
    (hv : WritesValue written v) : WritesLine (writePair name written) (.pair [] name v) where
  exists_cons := by
    obtain ⟨c, more, hc, hnot⟩ := h.exists_cons
    exact ⟨c, _, by rw [writePair, hc]; rfl, fun hm => hnot (List.mem_of_mem_take hm)⟩
  line?_append rest := by
    have htext : writePair name written ++ rest =
        name.toList ++ ' ' :: '=' :: ' ' :: (written ++ '\n' :: rest) := by
      simp [writePair]
    have hkey : key? (name.toList ++ ' ' :: '=' :: ' ' :: (written ++ '\n' :: rest)) =
        some (([], name), '=' :: ' ' :: (written ++ '\n' :: rest)) :=
      key?_append h (stops_cons.mpr (by decide)) (stops_cons.mpr (by decide))
    have hskip : skipBlanks (' ' :: (written ++ '\n' :: rest)) = written ++ '\n' :: rest :=
      (hv.stops.append (stops_cons.mpr (by decide))).dropWhile_eq
    have hpair : pair? (value? maxDepth)
        (name.toList ++ ' ' :: '=' :: ' ' :: (written ++ '\n' :: rest)) =
          some ((([], name), v), '\n' :: rest) := by
      rw [pair?, hkey]
      simp only [Option.bind_eq_bind, Option.bind_some, hskip, hv.value?_append]
      rfl
    rw [htext, line?]
    · rw [hpair]
      rfl
    · exact fun more => h.append_ne (by decide) _ _
    · exact fun more => h.append_ne (by decide) _ _

/-! ## Rows of lines -/

variable {written : List Char} {line : Line}

theorem WritesLine.skipFiller_append (h : WritesLine written line) (rest : List Char) :
    skipFiller (written ++ rest) = written ++ rest := by
  obtain ⟨c, more, rfl, hc⟩ := h.exists_cons
  simp only [reserved, List.take_succ_cons, List.take_zero, List.mem_cons, not_or] at hc
  rw [List.cons_append, skipFiller]
  all_goals
    intros
    simp_all

/-- A line after what does not count is read before the lines that follow. -/
theorem WritesLine.lines?_eq (h : WritesLine written line) {s : List Char}
    (hskip : skipFiller s = written ++ rest) (hlength : (written ++ rest).length ≤ s.length) :
    lines? s = (lines? rest).map (line :: ·) := by
  have hread := h.line?_append rest
  obtain ⟨c, more, hc, _⟩ := h.exists_cons
  have hshorter : rest.length < s.length := by
    rw [hc, List.length_append, List.length_cons] at hlength
    omega
  rw [lines?, hskip]
  split
  · next heq => simp [hc] at heq
  · simp only [hread, if_pos hshorter]

theorem WritesLine.lines?_append (h : WritesLine written line) (rest : List Char) :
    lines? (written ++ rest) = (lines? rest).map (line :: ·) :=
  h.lines?_eq (h.skipFiller_append rest) (Nat.le_refl _)

/-- An empty line before a line does not count. -/
theorem WritesLine.lines?_newline (h : WritesLine written line) (rest : List Char) :
    lines? ('\n' :: (written ++ rest)) = lines? (written ++ rest) := by
  have hskip : skipFiller ('\n' :: (written ++ rest)) = written ++ rest := by
    rw [skipFiller, h.skipFiller_append]
  rw [h.lines?_eq hskip (Nat.le_succ _), h.lines?_append]

/-- Lines one after the other are read in their order. -/
theorem lines?_flatMap {α : Type} {items : List α} {write : α → List Char} {line : α → Line}
    (h : ∀ a ∈ items, WritesLine (write a) (line a)) (rest : List Char) :
    lines? (items.flatMap write ++ rest) = (lines? rest).map (items.map line ++ ·) := by
  induction items with
  | nil => cases hrest : lines? rest <;> simp [hrest]
  | cons a items ih =>
    obtain ⟨ha, hitems⟩ := List.forall_mem_cons.mp h
    rw [List.flatMap_cons, List.append_assoc, ha.lines?_append, ih hitems, Option.map_map]
    rfl

/-! ## Entering sections -/

variable {fields table : Fields} {key : String} {v w : Value} {current : List String}

namespace Fields

theorem lookup_eq_none (h : name ∉ fields.map (·.1)) : fields.lookup name = none := by
  rw [List.lookup_eq_none_iff]
  intro p hp
  simp only [bne_iff_ne, ne_eq]
  rintro rfl
  exact h (List.mem_map_of_mem hp)

theorem lookup_cons_ne (h : key ≠ name) (v : Value) (fields : Fields) :
    List.lookup key ((name, v) :: fields) = fields.lookup key := by
  rw [List.lookup_cons, beq_eq_false_iff_ne.mpr h]

theorem lookup_append_singleton (h : fields.lookup name = none) (v : Value) :
    (fields ++ [(name, v)]).lookup name = some v := by
  rw [List.lookup_append, h]
  simp

theorem put_append_singleton (h : fields.lookup name = none) (v w : Value) :
    put name w (fields ++ [(name, v)]) = fields ++ [(name, w)] := by
  induction fields with
  | nil => simp [put]
  | cons field fields ih =>
    rw [List.lookup_cons] at h
    split at h
    · cases h
    · next hne =>
      have hname : field.1 ≠ name := fun heq => by simp [heq] at hne
      rw [List.cons_append, put, if_neg hname, ih h, List.cons_append]

end Fields

namespace Draft

/-- A header opens a table that is not there. -/
theorem enter_header (h : fields.lookup name = none) :
    enter ⟨fields, current⟩ (.header [] name) =
      some ⟨fields ++ [(name, .table .header [])], [name]⟩ := by
  simp [enter, Fields.descend, openTable, h]

/-- A pair goes to the table of the last header, under a key that is not there. -/
theorem enter_pair (h : fields.lookup name = none) (hkey : table.lookup key = none) :
    enter ⟨fields ++ [(name, .table .header table)], [name]⟩ (.pair [] key v) =
      some ⟨fields ++ [(name, .table .header (table ++ [(key, v)]))], [name]⟩ := by
  simp [enter, Fields.descend, Fields.addPair, Fields.lookup_append_singleton h,
    Fields.put_append_singleton h, hkey]

/-- Pairs under different keys all go to the table of the last header. -/
theorem foldlM_pairs (h : fields.lookup name = none) {pairs : Fields}
    (hkeys : ((table ++ pairs).map (·.1)).Nodup) :
    (pairs.map fun p => Line.pair [] p.1 p.2).foldlM enter
        ⟨fields ++ [(name, .table .header table)], [name]⟩ =
      some ⟨fields ++ [(name, .table .header (table ++ pairs))], [name]⟩ := by
  induction pairs generalizing table with
  | nil => simp
  | cons p pairs ih =>
    have hkey : table.lookup p.1 = none := by
      refine Fields.lookup_eq_none fun hmem => ?_
      rw [List.map_append, List.map_cons] at hkeys
      exact (List.nodup_append.mp hkeys).2.2 p.1 hmem p.1 List.mem_cons_self rfl
    have hnodup : ((table ++ [p] ++ pairs).map (·.1)).Nodup := by simpa using hkeys
    have hrest := ih hnodup
    rw [List.map_cons, List.foldlM_cons, enter_pair h hkey]
    simpa using hrest

end Draft

/-! ## Documents -/

section Documents

variable {σ : Type} (write : σ → List Char) (value : σ → Value)

/-- A section: its header and its pairs. -/
def writeSection (s : String × List (String × σ)) : List Char :=
  writeHeader s.1 ++ s.2.flatMap fun p => writePair p.1 (write p.2)

/-- The table of a section. -/
def sectionTable (s : String × List (String × σ)) : Fields := s.2.map fun p => (p.1, value p.2)

/-- The lines of a section. -/
def sectionLines (s : String × List (String × σ)) : List Line :=
  .header [] s.1 :: (sectionTable value s).map fun p => .pair [] p.1 p.2

/-- A section whose names and values are read back, with no key twice. -/
structure IsSection (s : String × List (String × σ)) : Prop where
  /-- The name of the section needs no quotes. -/
  isBareKey : IsBareKey s.1
  /-- Neither does a key. -/
  isBareKey_key : ∀ p ∈ s.2, IsBareKey p.1
  /-- Every value is read back at the end of its line. -/
  writesValue : ∀ p ∈ s.2, WritesValue (write p.2) (value p.2)
  /-- No key stands twice. -/
  nodup : (s.2.map (·.1)).Nodup

variable {write value} {s : String × List (String × σ)} {sections : List (String × List (String × σ))}

theorem IsSection.lines?_append (h : IsSection write value s) (rest : List Char) :
    lines? (writeSection write s ++ rest) = (lines? rest).map (sectionLines value s ++ ·) := by
  have hpairs := lines?_flatMap (fun p hp => writesLine_pair (h.isBareKey_key p hp)
    (h.writesValue p hp)) rest
  rw [writeSection, List.append_assoc, (writesLine_header h.isBareKey).lines?_append, hpairs,
    Option.map_map, sectionLines, sectionTable, List.map_map]
  rfl

theorem lines?_nil : lines? [] = some [] := by
  rw [lines?]
  rfl

/-- A document of sections begins with the header of the first one. -/
theorem exists_intercalate (write : σ → List Char) (s : String × List (String × σ))
    (sections : List (String × List (String × σ))) :
    ∃ rest, ['\n'].intercalate ((s :: sections).map (writeSection write)) =
      writeHeader s.1 ++ rest := by
  cases sections with
  | nil => exact ⟨_, by rw [List.map_singleton, List.intercalate_singleton, writeSection]⟩
  | cons t sections =>
    refine ⟨s.2.flatMap (fun p => writePair p.1 (write p.2)) ++
      (['\n'] ++ ['\n'].intercalate ((t :: sections).map (writeSection write))), ?_⟩
    rw [List.map_cons, List.map_cons, List.intercalate_cons_cons, writeSection, List.append_assoc,
      List.append_assoc]

/-- The lines of a document of sections are those of its sections. -/
theorem lines?_sections (h : ∀ s ∈ sections, IsSection write value s) :
    lines? (['\n'].intercalate (sections.map (writeSection write))) =
      some (sections.flatMap (sectionLines value)) := by
  induction sections with
  | nil => exact lines?_nil
  | cons s sections ih =>
    obtain ⟨hs, hsections⟩ := List.forall_mem_cons.mp h
    cases sections with
    | nil =>
      have hread := hs.lines?_append []
      rw [List.append_nil, lines?_nil] at hread
      simpa using hread
    | cons t sections =>
      have hrest := ih hsections
      -- The empty line stands before the header of the next section.
      obtain ⟨rest, hheader⟩ := exists_intercalate write t sections
      have hline := writesLine_header (hsections t List.mem_cons_self).isBareKey
      have hnewline := hline.lines?_newline rest
      rw [← hheader, hrest] at hnewline
      rw [List.map_cons, List.map_cons, List.intercalate_cons_cons, ← List.map_cons,
        List.append_assoc, List.singleton_append, hs.lines?_append, hnewline, List.flatMap_cons]
      rfl

/-- The lines of sections with different names make one table for each. -/
theorem Draft.foldlM_sections (h : ∀ s ∈ sections, IsSection write value s) (fields : Fields)
    (current : List String) (hnames : (fields.map (·.1) ++ sections.map (·.1)).Nodup) :
    ∃ last, (sections.flatMap (sectionLines value)).foldlM enter ⟨fields, current⟩ =
      some ⟨fields ++ sections.map fun s => (s.1, .table .header (sectionTable value s)), last⟩ := by
  induction sections generalizing fields current with
  | nil => exact ⟨current, by simp⟩
  | cons s sections ih =>
    obtain ⟨hs, hsections⟩ := List.forall_mem_cons.mp h
    have hname : fields.lookup s.1 = none := by
      refine Fields.lookup_eq_none fun hmem => ?_
      exact (List.nodup_append.mp hnames).2.2 s.1 hmem s.1 (by simp) rfl
    have hkeys : ((([] : Fields) ++ sectionTable value s).map (·.1)).Nodup := by
      rw [List.nil_append, sectionTable, List.map_map]
      exact hs.nodup
    have hpairs := foldlM_pairs hname hkeys
    obtain ⟨last, hrest⟩ := ih hsections (fields ++ [(s.1, .table .header (sectionTable value s))])
      [s.1] (by simpa using hnames)
    refine ⟨last, ?_⟩
    rw [List.flatMap_cons, List.foldlM_append, sectionLines, List.foldlM_cons, enter_header hname]
    simp only [Option.bind_eq_bind, Option.bind_some]
    rw [hpairs]
    simpa using hrest

/-- A document of sections with different names is read as one table for each section. -/
theorem parse?_sections (h : ∀ s ∈ sections, IsSection write value s)
    (hnames : (sections.map (·.1)).Nodup) :
    parse? (String.ofList (['\n'].intercalate (sections.map (writeSection write)))) =
      some (sections.map fun s => (s.1, .table .header (sectionTable value s))) := by
  have hlines := lines?_sections h
  obtain ⟨last, hfold⟩ := Draft.foldlM_sections h [] [] (by simpa using hnames)
  have hmark : ∀ rest, ['\n'].intercalate (sections.map (writeSection write)) ≠ '\ufeff' :: rest := by
    cases sections with
    | nil => simp
    | cons s sections =>
      obtain ⟨more, hheader⟩ := exists_intercalate write s sections
      rw [hheader]
      simp [writeHeader]
  rw [parse?, String.toList_ofList]
  split
  · next heq => exact absurd heq (hmark _)
  · rw [hlines]
    simp only [Option.bind_eq_bind, Option.bind_some]
    rw [hfold]
    rfl

end Documents

end ObjectStore.Toml
