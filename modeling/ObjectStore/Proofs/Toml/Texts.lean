import ObjectStore.Proofs.Text.Spans
import ObjectStore.Toml.Text

/-!
# Texts in TOML read back

A text is read back from whichever of its forms is written. What is written for a character is read
as this character whatever follows, quotes between tripled quotes aside: there it is the row of
quotes that counts, and the writer lets no row grow to three.
-/

namespace ObjectStore.Toml.Text

open ObjectStore.Text (Stops stops_cons stops_nil Hex.digit?_upperDigit Hex.four Hex.number?_four
  Hex.upperDigit)

/-- A reader of texts: it answers the text and what follows it. -/
abbrev Reader := List Char → Option (List Char × List Char)

/-- What is written for a character is read as this character, whatever follows. -/
def ReadsAs (read : Reader) (written : List Char) (c : Char) : Prop :=
  ∀ rest, read (written ++ rest) = (read rest).map fun r => (c :: r.1, r.2)

/-! ## Escapes -/

/-- A reader of texts between double quotes reads what may stand there for a character. -/
structure ReadsEscapes (multiline : Bool) (read : Reader) : Prop where
  /-- An escape by letter. -/
  letter : ∀ {letter c : Char}, letter ≠ 'u' → letter ≠ 'U' → unescape? letter = some c →
    ReadsAs read ['\\', letter] c
  /-- An escape by number. -/
  number : ∀ {c : Char}, c.toNat < 65536 →
    ReadsAs read ('\\' :: 'u' :: Hex.four Hex.upperDigit c.toNat) c
  /-- A character that stands for itself. -/
  plain : ∀ {c : Char}, c ≠ '"' → c ≠ '\\' → isPlain c = true ∨ multiline = true ∧ c = '\n' →
    ReadsAs read [c] c

theorem scalar?_four {c : Char} (h : c.toNat < 65536) :
    scalar? (Hex.four Hex.upperDigit c.toNat) = some c := by
  have hvalid : c.toNat.isValidChar := c.valid
  rw [scalar?, Hex.number?_four Hex.digit?_upperDigit h, Option.bind_eq_bind, Option.bind_some,
    dif_pos hvalid]
  rfl

/-- A carriage return does not stand for itself, nor for a line break. -/
theorem ne_return {c : Char} (h : isPlain c = true ∨ c = '\n') : c ≠ '\r' := by
  rintro rfl
  revert h
  decide

theorem readsEscapes_basic? : ReadsEscapes false basic? where
  letter {letter c} hu hU h rest := by
    rw [List.cons_append, List.singleton_append, basic?]
    · rw [h]
      cases basic? rest <;> rfl
    · intro a b c d rest' heq
      exact absurd heq hu
    · intro a b c d e f g h rest' heq
      exact absurd heq hU
  number {c} h rest := by
    have hscalar := scalar?_four h
    simp only [Hex.four, List.cons_append, List.nil_append, basic?] at hscalar ⊢
    rw [hscalar]
    cases basic? rest <;> rfl
  plain {c} hq hb hp rest := by
    have hplain : isPlain c = true := hp.resolve_right fun h => Bool.false_ne_true h.1
    rw [List.singleton_append, basic?]
    · rw [if_pos ⟨hplain, hb⟩]
      cases basic? rest <;> rfl
    · exact hq
    all_goals
      intros
      simp_all

theorem readsEscapes_multilineBasic? : ReadsEscapes true multilineBasic? where
  letter {letter c} hu hU h rest := by
    rw [List.cons_append, List.singleton_append, multilineBasic?]
    · rw [h]
      cases multilineBasic? rest <;> rfl
    · intro a b c d rest' heq
      exact absurd heq hu
    · intro a b c d e f g h rest' heq
      exact absurd heq hU
  number {c} h rest := by
    have hscalar := scalar?_four h
    simp only [Hex.four, List.cons_append, List.nil_append, multilineBasic?] at hscalar ⊢
    rw [hscalar]
    cases multilineBasic? rest <;> rfl
  plain {c} hq hb hp rest := by
    have hr : c ≠ '\r' := ne_return (hp.imp_right And.right)
    rw [List.singleton_append, multilineBasic?]
    · rw [if_pos ⟨hp.imp_right And.right, hb⟩]
      cases multilineBasic? rest <;> rfl
    all_goals
      intros
      simp_all

/-- A character is written by letter, by number, or as itself. -/
theorem escape_cases (multiline : Bool) (c : Char) :
    (∃ letter, letter ≠ 'u' ∧ letter ≠ 'U' ∧ unescape? letter = some c ∧
      escape multiline c = ['\\', letter]) ∨
    (c.toNat < 65536 ∧ escape multiline c = '\\' :: 'u' :: Hex.four Hex.upperDigit c.toNat) ∨
    (c ≠ '\\' ∧ (isPlain c = true ∨ multiline = true ∧ c = '\n') ∧ escape multiline c = [c]) := by
  by_cases hm : c ∈ ['\x08', '\t', '\x0c', '\r', '\\']
  · left
    simp only [List.mem_cons, List.not_mem_nil, or_false] at hm
    rcases hm with rfl | rfl | rfl | rfl | rfl
    all_goals exact ⟨_, by simp, by simp, by rfl, rfl⟩
  · simp only [List.mem_cons, List.not_mem_nil, or_false, not_or] at hm
    by_cases hn : c = '\n'
    · subst hn
      cases multiline with
      | false => exact .inl ⟨'n', by simp, by simp, rfl, rfl⟩
      | true => exact .inr (.inr ⟨by simp, .inr ⟨rfl, rfl⟩, rfl⟩)
    · by_cases hcontrol : isControl c = true
      · refine .inr (.inl ⟨?_, by simp [escape, hm, hn, hcontrol]⟩)
        simp only [isControl, Bool.or_eq_true, Bool.and_eq_true, decide_eq_true_eq] at hcontrol
        omega
      · refine .inr (.inr ⟨hm.2.2.2.2, .inl ?_, ?_⟩)
        · simp [isPlain, hn, hcontrol]
        · simp [escape, hm, hn, hcontrol]

/-- What is written for a character that is no double quote is read as this character. -/
theorem ReadsEscapes.escape {multiline : Bool} {read : Reader} (h : ReadsEscapes multiline read)
    {c : Char} (hq : c ≠ '"') : ReadsAs read (escape multiline c) c := by
  rcases escape_cases multiline c with
    ⟨letter, hu, hU, hc, hescape⟩ | ⟨hsize, hescape⟩ | ⟨hb, hplain, hescape⟩
  · rw [hescape]
    exact h.letter hu hU hc
  · rw [hescape]
    exact h.number hsize
  · rw [hescape]
    exact h.plain hq hb hplain

/-- What is written for a character begins with a double quote or a line break only if the
character is one. -/
theorem exists_escape (multiline : Bool) {c : Char} (hq : c ≠ '"') :
    ∃ d more, escape multiline c = d :: more ∧ d ≠ '"' ∧ (c ≠ '\n' → d ≠ '\n' ∧ d ≠ '\r') := by
  rcases escape_cases multiline c with
    ⟨letter, _, _, _, hescape⟩ | ⟨_, hescape⟩ | ⟨_, hplain, hescape⟩
  · exact ⟨'\\', [letter], hescape, by simp, fun _ => by simp⟩
  · exact ⟨'\\', _, hescape, by simp, fun _ => by simp⟩
  · exact ⟨c, [], hescape, hq, fun hn => ⟨hn, ne_return (hplain.imp_right And.right)⟩⟩

/-! ## Texts of one line -/

/-- A text is read back from its escapes between double quotes. -/
theorem basic?_escapeAll (row : Nat) (s rest : List Char) :
    basic? (escapeAll false row s ++ '"' :: rest) = some (s, rest) := by
  induction s generalizing row with
  | nil => rfl
  | cons c s ih =>
    by_cases hq : c = '"'
    · subst hq
      have hquote : ReadsAs basic? ['\\', '"'] '"' :=
        readsEscapes_basic?.letter (by decide) (by decide) rfl
      have hread := hquote (escapeAll false 0 s ++ '"' :: rest)
      rw [ih] at hread
      rw [escapeAll, if_pos rfl, if_neg (by simp)]
      exact hread
    · rw [escapeAll, if_neg hq, List.append_assoc, readsEscapes_basic?.escape hq, ih]
      rfl

/-- A text without single quotes is read back as it stands between them. -/
theorem literal?_append {s : List Char} (h : ∀ c ∈ s, c ≠ '\x27' ∧ isPlain c = true)
    (rest : List Char) : literal? (s ++ '\x27' :: rest) = some (s, rest) := by
  induction s with
  | nil => rfl
  | cons c s ih =>
    obtain ⟨hc, hs⟩ := List.forall_mem_cons.mp h
    rw [List.cons_append, literal?, if_neg hc.1, if_pos hc.2, ih hs]
    rfl

/-! ## Texts between tripled quotes -/

/-- A text with what is written for it between tripled quotes, after a row of quotes: no row has
more than two, and whatever does not stand for a quote is read as its character. -/
inductive Rows (quote : Char) (read : Reader) : Nat → List Char → List Char → Prop where
  | nil (row : Nat) : Rows quote read row [] []
  | quote {row : Nat} {s written : List Char} (hrow : row < 2)
    (hrest : Rows quote read (row + 1) s written) :
    Rows quote read row (quote :: s) (quote :: written)
  | other {row : Nat} {c d : Char} {s more written : List Char} (hd : d ≠ quote)
    (hread : ReadsAs read (d :: more) c) (hrest : Rows quote read 0 s written) :
    Rows quote read row (c :: s) (d :: more ++ written)

/-- A reader of texts between tripled quotes: the first three quotes in a row close the text. -/
structure ReadsTripled (quote : Char) (read : Reader) : Prop where
  /-- Three quotes close the text, with those that follow. -/
  close : ∀ rest, read (quote :: quote :: quote :: rest) = some (closing quote rest)
  /-- A quote before anything but two more is read as itself. -/
  alone : ∀ rest, ¬[quote, quote] <+: rest →
    read (quote :: rest) = (read rest).map fun r => (quote :: r.1, r.2)

section Tripled

variable {quote : Char} {read : Reader} {rest : List Char}

theorem closing_of_stops (h : Stops (· = quote) rest) : closing quote rest = ([], rest) := by
  match rest with
  | [] => rfl
  | [c] => simpa [closing] using h
  | c :: d :: rest =>
    have hc : c ≠ quote := by simpa using h
    rw [closing, if_neg hc]

theorem closing_cons (h : Stops (· = quote) rest) :
    closing quote (quote :: rest) = ([quote], rest) := by
  match rest with
  | [] => simp [closing]
  | c :: rest => simpa [closing] using h

theorem closing_cons_cons : closing quote (quote :: quote :: rest) = ([quote, quote], rest) := by
  simp [closing]

/-- After a quote, a text is at its end, or one quote before it, or it ends the row of quotes. -/
theorem Rows.ends_row {row : Nat} {s written : List Char} (h : Rows quote read row s written)
    (hrow : 0 < row) (rest : List Char) :
    (s = [] ∧ written = []) ∨ (s = [quote] ∧ written = [quote]) ∨
      ¬[quote, quote] <+: written ++ rest := by
  cases h with
  | nil => exact .inl ⟨rfl, rfl⟩
  | quote hrow' hrest =>
    cases hrest with
    | nil => exact .inr (.inl ⟨rfl, rfl⟩)
    | quote hrow'' => omega
    | other hd => exact .inr (.inr (by simp [hd.symm]))
  | other hd => exact .inr (.inr (by simp [hd.symm]))

/-- A text is read back from what is written for it between tripled quotes. -/
theorem Rows.read_eq (hread : ReadsTripled quote read) (hs : Stops (· = quote) rest) {row : Nat}
    {s written : List Char} (h : Rows quote read row s written) :
    read (written ++ quote :: quote :: quote :: rest) = some (s, rest) := by
  induction h with
  | nil row => rw [List.nil_append, hread.close, closing_of_stops hs]
  | quote hrow hrest ih =>
    -- Quotes at the end of the text make one row with the closing ones.
    rcases hrest.ends_row (Nat.succ_pos _) (quote :: quote :: quote :: rest) with
      ⟨rfl, rfl⟩ | ⟨rfl, rfl⟩ | hend
    · rw [List.singleton_append, hread.close, closing_cons hs]
    · rw [List.cons_append, List.singleton_append, hread.close, closing_cons_cons]
    · rw [List.cons_append, hread.alone _ hend, ih]
      rfl
  | other hd hreads hrest ih =>
    rw [List.append_assoc, hreads, ih]
    rfl

end Tripled

theorem readsTripled_multilineBasic? : ReadsTripled '"' multilineBasic? where
  close rest := by rw [multilineBasic?]
  alone rest h := by
    rw [multilineBasic?]
    · rw [if_pos (by decide)]
      cases multilineBasic? rest <;> rfl
    all_goals
      intros
      simp_all

theorem readsTripled_multilineLiteral? : ReadsTripled '\x27' multilineLiteral? where
  close rest := by rw [multilineLiteral?]
  alone rest h := by
    rw [multilineLiteral?]
    · rw [if_pos (by decide)]
      cases multilineLiteral? rest <;> rfl
    all_goals
      intros
      simp_all

/-- The escapes between double quotes let no row of quotes grow to three. -/
theorem rows_escapeAll (row : Nat) (s : List Char) :
    Rows '"' multilineBasic? row s (escapeAll true row s) := by
  induction s generalizing row with
  | nil => exact .nil row
  | cons c s ih =>
    by_cases hq : c = '"'
    · subst hq
      rw [escapeAll, if_pos rfl]
      by_cases hrow : row < 2
      · rw [if_pos ⟨rfl, hrow⟩]
        exact .quote hrow (ih (row + 1))
      · rw [if_neg (fun h => hrow h.2)]
        exact .other (by decide)
          (readsEscapes_multilineBasic?.letter (by decide) (by decide) rfl) (ih 0)
    · obtain ⟨d, more, hescape, hd, _⟩ := exists_escape true hq
      have hread := readsEscapes_multilineBasic?.escape hq
      rw [escapeAll, if_neg hq]
      rw [hescape] at hread ⊢
      exact .other hd hread (ih 0)

theorem le_longestRow (c : Char) (row : Nat) (s : List Char) : row ≤ longestRow c row s := by
  induction s generalizing row with
  | nil => exact Nat.le_refl row
  | cons d s ih =>
    rw [longestRow]
    split
    · exact Nat.le_trans (Nat.le_succ row) (ih (row + 1))
    · exact Nat.le_max_left ..

/-- A text without rows of three single quotes is read as it stands. -/
theorem rows_of_longestRow {row : Nat} {s : List Char} (hrow : longestRow '\x27' row s < 3)
    (hs : ∀ c ∈ s, isControl c = false) : Rows '\x27' multilineLiteral? row s s := by
  induction s generalizing row with
  | nil => exact .nil row
  | cons c s ih =>
    obtain ⟨hc, hrest⟩ := List.forall_mem_cons.mp hs
    rw [longestRow] at hrow
    by_cases hq : c = '\x27'
    · subst hq
      rw [if_pos rfl] at hrow
      have hle := le_longestRow '\x27' (row + 1) s
      exact .quote (by omega) (ih hrow hrest)
    · rw [if_neg hq] at hrow
      have hread : ReadsAs multilineLiteral? [c] c := by
        have hplain : isPlain c = true ∨ c = '\n' := by
          by_cases hn : c = '\n'
          · exact .inr hn
          · exact .inl (by simp [isPlain, hn, hc])
        have hr := ne_return hplain
        intro rest
        rw [List.singleton_append, multilineLiteral?]
        · rw [if_pos hplain]
          cases multilineLiteral? rest <;> rfl
        all_goals
          intros
          simp_all
      exact .other hq hread (ih (Nat.lt_of_le_of_lt (Nat.le_max_right ..) hrow) hrest)

/-! ## Every form -/

section Forms

variable {s rest : List Char}

theorem read?_of_double (h : ¬['"', '"'] <+: rest) : read? ('"' :: rest) = basic? rest := by
  rw [read?]
  intro more heq
  exact h ⟨more, heq.symm⟩

theorem read?_of_single (h : ¬['\x27', '\x27'] <+: rest) :
    read? ('\x27' :: rest) = literal? rest := by
  rw [read?]
  intro more heq
  exact h ⟨more, heq.symm⟩

/-- A line break after the opening is skipped, and it is there whenever the text might begin with
one. -/
theorem skipOpening_opening (h : '\n' ∉ s → Stops (fun c => c = '\n' || c = '\r') rest) :
    skipOpening (opening s ++ rest) = rest := by
  rw [opening]
  split
  · rfl
  · next hn =>
    have hstop := h (by simpa using hn)
    rw [List.nil_append]
    cases rest with
    | nil => rfl
    | cons c rest =>
      simp only [stops_cons, Bool.or_eq_false_iff, decide_eq_false_iff_not] at hstop
      rw [skipOpening]
      · intro rest' heq
        exact hstop.1 (List.cons.inj heq).1
      · intro rest' heq
        exact hstop.2 (List.cons.inj heq).1

theorem of_form_eq_literal (h : form s = .literal) : ∀ c ∈ s, c ≠ '\x27' ∧ isPlain c = true := by
  simp only [form] at h
  split_ifs at h with _ hliteral
  simp only [Bool.and_eq_true, Bool.not_eq_true', List.any_eq_false, List.contains_eq_mem,
    decide_eq_false_iff_not] at hliteral
  obtain ⟨⟨hcontrol, hquote⟩, hline⟩ := hliteral
  intro c hc
  refine ⟨fun hq => hquote (hq ▸ hc), ?_⟩
  have hn : c ≠ '\n' := fun hn => hline (hn ▸ hc)
  simp [isPlain, hn, hcontrol c hc]

theorem of_form_eq_multilineLiteral (h : form s = .multilineLiteral) :
    longestRow '\x27' 0 s < 3 ∧ ∀ c ∈ s, isControl c = false := by
  simp only [form] at h
  split_ifs at h with _ _ _ hliteral
  simp only [Bool.and_eq_true, Bool.not_eq_true', List.any_eq_false, decide_eq_true_eq] at hliteral
  exact ⟨hliteral.2, fun c hc => by simpa using hliteral.1 c hc⟩

/-- What is escaped for a text without line breaks begins with none. -/
theorem stops_escapeAll (h : '\n' ∉ s) :
    Stops (fun c => c = '\n' || c = '\r') (escapeAll true 0 s ++ '"' :: rest) := by
  cases s with
  | nil => simp [escapeAll]
  | cons c s =>
    by_cases hq : c = '"'
    · subst hq
      simp [escapeAll]
    · obtain ⟨d, more, hescape, _, hbreak⟩ := exists_escape true hq
      have hc : c ≠ '\n' := List.ne_of_not_mem_cons h |>.symm
      rw [escapeAll, if_neg hq, hescape]
      simp [hbreak hc]

/-- Neither does a text without line breaks that is written as it stands. -/
theorem stops_of_not_control (h : '\n' ∉ s) (hcontrol : ∀ c ∈ s, isControl c = false) :
    Stops (fun c => c = '\n' || c = '\r') (s ++ '\x27' :: rest) := by
  cases s with
  | nil => simp
  | cons c s =>
    have hn : c ≠ '\n' := (List.ne_of_not_mem_cons h).symm
    have hplain : isPlain c = true := by simp [isPlain, hn, hcontrol c List.mem_cons_self]
    simp [hn, ne_return (.inl hplain)]

/-- The quotes around a text on one line are not the first two of three. -/
theorem not_prefix_escapeAll (h : Stops (· = '"') rest) :
    ¬['"', '"'] <+: escapeAll false 0 s ++ '"' :: rest := by
  cases s with
  | nil =>
    cases rest with
    | nil => simp [escapeAll]
    | cons c rest => simpa [escapeAll, eq_comm] using h
  | cons c s =>
    by_cases hq : c = '"'
    · simp [escapeAll, hq]
    · obtain ⟨d, more, hescape, hd, _⟩ := exists_escape false hq
      simp [escapeAll, hq, hescape, hd.symm]

theorem not_prefix_of_ne {quote : Char} (hs : ∀ c ∈ s, c ≠ quote) (h : Stops (· = quote) rest) :
    ¬[quote, quote] <+: s ++ quote :: rest := by
  cases s with
  | nil =>
    cases rest with
    | nil => simp
    | cons c rest => simpa [eq_comm] using h
  | cons c s => simp [(hs c List.mem_cons_self).symm]

/-- A text is read back from what is written for it, whatever follows but more quotes. -/
theorem read?_write (s : List Char) (hs : Stops (fun c => c = '"' || c = '\x27') rest) :
    read? (write s ++ rest) = some (s, rest) := by
  have hdouble : Stops (· = '"') rest := fun c hc => (Bool.or_eq_false_iff.mp (hs c hc)).1
  have hsingle : Stops (· = '\x27') rest := fun c hc => (Bool.or_eq_false_iff.mp (hs c hc)).2
  rw [write]
  split
  · rw [List.append_assoc, List.cons_append, List.singleton_append,
      read?_of_double (not_prefix_escapeAll hdouble), basic?_escapeAll]
  · next h =>
    have hplain := of_form_eq_literal h
    rw [List.append_assoc, List.cons_append, List.singleton_append,
      read?_of_single (not_prefix_of_ne (fun c hc => (hplain c hc).1) hsingle),
      literal?_append hplain]
  · have hread := (rows_escapeAll 0 s).read_eq readsTripled_multilineBasic? hdouble
    simp only [List.cons_append, List.nil_append, List.append_assoc]
    rw [read?, skipOpening_opening fun hn => stops_escapeAll hn, hread]
  · next h =>
    obtain ⟨hrow, hcontrol⟩ := of_form_eq_multilineLiteral h
    have hread := (rows_of_longestRow hrow hcontrol).read_eq readsTripled_multilineLiteral? hsingle
    simp only [List.cons_append, List.nil_append, List.append_assoc]
    rw [read?, skipOpening_opening fun hn => stops_of_not_control hn hcontrol, hread]

/-- Two quotes at the end of a text make a row of five with those that close it. -/
example : String.ofList (write "a\n\"\"".toList) = "\"\"\"\na\n\"\"\"\"\"" := by
  decide +kernel

end Forms

end ObjectStore.Toml.Text
