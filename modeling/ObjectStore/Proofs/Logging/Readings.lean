import Mathlib.Data.List.Induction
import Mathlib.Data.List.DropRight
import Mathlib.Data.String.Basic
import ObjectStore.Logging.Directive

/-!
# Where the reading of directives breaks down

The parts of a directive are cut out at places of the text without the blanks around it. Where all
of these are places of the whole text as well, each part can be cut out. They are if the text does
not begin with a blank, and if all its characters are ASCII; so the reading breaks down only over
a text that begins with a blank and has another character than those of ASCII.
-/

namespace ObjectStore

namespace Text

/-! ## Places -/

/-- Whether a number of bytes tells a place in a text. -/
def IsPlace (n : Nat) (s : List Char) : Prop := ∃ t u, s = t ++ u ∧ width t = n

theorem isPlace_width (s : List Char) : IsPlace (width s) s := ⟨s, [], by simp, rfl⟩

theorem IsPlace.le_width {n : Nat} {s : List Char} (h : IsPlace n s) : n ≤ width s := by
  obtain ⟨t, u, rfl, rfl⟩ := h
  rw [width_append]
  omega

/-- What lies between two places can be cut out. -/
theorem exists_between? {start stop : Nat} {s : List Char} (hstart : IsPlace start s)
    (hstop : IsPlace stop s) (hle : start ≤ stop) : ∃ t, between? start stop s = some t := by
  obtain ⟨before, rest, rfl, rfl⟩ := hstart
  obtain ⟨t, u, heq, rfl⟩ := hstop
  rcases List.append_eq_append_iff.mp heq with ⟨part, rfl, rfl⟩ | ⟨part, rfl, rfl⟩
  · rw [width_append, ← List.append_assoc]
    exact ⟨part, between?_append ..⟩
  · -- The first place is not behind the second one, so that there is nothing between them.
    have hsame : width t + width part = width t := by
      rw [width_append] at hle
      omega
    have hnothing := between?_append (t ++ part) [] rest
    rw [List.append_nil, width_append, hsame] at hnothing
    rw [width_append, hsame]
    exact ⟨[], hnothing⟩

theorem width_eq_length {s : List Char} (h : ∀ c ∈ s, c.toNat < 128) : width s = s.length := by
  induction s with
  | nil => rfl
  | cons c s ih =>
    have hsize : c.utf8Size = 1 := by
      rw [Char.utf8Size_eq_one_iff, UInt32.le_iff_toNat_le]
      exact Nat.le_of_lt_succ (h c List.mem_cons_self)
    have hrest := ih fun d hd => h d (List.mem_cons_of_mem c hd)
    rw [width, hsize, hrest, List.length_cons, Nat.add_comm]

/-- A text without its blanks is a part of it, the first one if it does not begin with a blank. -/
theorem exists_eq_append_trim (s : List Char) :
    ∃ lead trail, s = lead ++ trim s ++ trail ∧ lead = s.takeWhile isBlank := by
  have hlead : s.takeWhile isBlank ++ s.dropWhile isBlank = s := List.takeWhile_append_dropWhile
  obtain ⟨trail, htrail⟩ := List.rdropWhile_prefix isBlank (s.dropWhile isBlank)
  refine ⟨s.takeWhile isBlank, trail, ?_, rfl⟩
  rw [List.append_assoc, trim, ← List.rdropWhile, htrail, hlead]

/-- Whether every place of one text is a place of another. -/
def KeepsPlaces (shown whole : List Char) : Prop := ∀ n, IsPlace n shown → IsPlace n whole

/-- A text that does not begin with a blank keeps the places of the text without its blanks. -/
theorem keepsPlaces_of_head {s : List Char} (h : ∀ c ∈ s.head?, isBlank c = false) :
    KeepsPlaces (trim s) s := by
  obtain ⟨lead, trail, heq, hlead⟩ := exists_eq_append_trim s
  have hnil : lead = [] := by
    cases s with
    | nil => exact hlead
    | cons c s => rw [hlead, List.takeWhile_cons_of_neg (by simp [h c rfl])]
  rintro n ⟨t, u, htrim, rfl⟩
  rw [hnil, htrim, List.nil_append, List.append_assoc] at heq
  exact ⟨t, u ++ trail, heq, rfl⟩

/-- A text of ASCII characters has a place at every number of bytes. -/
theorem keepsPlaces_of_ascii {s : List Char} (h : ∀ c ∈ s, c.toNat < 128) :
    KeepsPlaces (trim s) s := by
  obtain ⟨lead, trail, heq, _⟩ := exists_eq_append_trim s
  rintro n ⟨t, u, htrim, rfl⟩
  have hsub : t.Sublist s := by
    rw [heq, htrim]
    simp
  have hwidth : width t = t.length := width_eq_length fun c hc => h c (hsub.subset hc)
  refine ⟨s.take t.length, s.drop t.length, (List.take_append_drop ..).symm, ?_⟩
  rw [hwidth, width_eq_length fun c hc => h c (List.mem_of_mem_take hc), List.length_take,
    Nat.min_eq_left hsub.length_le]

end Text

namespace Logging

/-! ## Readings that do not break down -/

/-- Whether the reading of something comes to an end, with or without success. -/
def IsSound {α : Type} (reading : Except Flaw α) : Prop := reading ≠ .error .broken

section

variable {α β : Type} {reading : Except Flaw α} {next : α → Except Flaw β}

theorem isSound_ok (a : α) : IsSound (.ok a : Except Flaw α) := by simp [IsSound]

theorem isSound_malformed : IsSound (.error .malformed : Except Flaw α) := by simp [IsSound]

theorem isSound_ofForm (r : Option α) : IsSound (Directive.ofForm r) := by
  cases r <;> simp [IsSound, Directive.ofForm]

/-- One reading after another comes to an end if both do. -/
theorem IsSound.bind (h : IsSound reading) (hnext : ∀ a, IsSound (next a)) :
    IsSound (reading >>= next) := by
  cases reading with
  | error flaw =>
    intro hbroken
    exact h (by cases hbroken; rfl)
  | ok a => exact hnext a

end

namespace Directive

open ObjectStore.Text

variable {shown text before rest : List Char}

/-- A part of the shown text can be cut out, if the text has its places. -/
theorem isSound_part (hkeeps : KeepsPlaces shown text) (before middle : List Char)
    (h : shown = before ++ (middle ++ rest)) :
    IsSound (part text (width before) (width before + width middle)) := by
  have hstart : IsPlace (width before) text := hkeeps _ ⟨before, _, h, rfl⟩
  have hstop : IsPlace (width before + width middle) text :=
    hkeeps _ ⟨before ++ middle, rest, by rw [h, List.append_assoc], width_append ..⟩
  obtain ⟨s, hs⟩ := exists_between? hstart hstop (Nat.le_add_right ..)
  rw [part, hs]
  exact isSound_ok s

theorem isSound_levelOf (s : List Char) : IsSound (levelOf s) := by
  rw [levelOf]
  split
  · exact isSound_ok _
  · exact isSound_ofForm _

theorem isSound_withLevel (hkeeps : KeepsPlaces shown text) (h : shown = before ++ rest)
    (d : Directive) : IsSound (withLevel d text (width before) rest) := by
  cases rest with
  | nil => exact isSound_ok d
  | cons c rest =>
    rw [withLevel]
    split
    · next hc =>
      have hstart : IsPlace (width before + 1) text :=
        hkeeps _ ⟨before ++ [c], rest, by simp [h], by rw [width_append, hc]; rfl⟩
      obtain ⟨s, hs⟩ := exists_between? hstart (isPlace_width text) hstart.le_width
      rw [part, hs]
      exact (isSound_levelOf s).bind fun level => isSound_ok _
    · exact isSound_malformed

/-- A text is its first characters of a kind and what follows them, which is of another kind. -/
theorem of_dropWhile_eq_cons {p : Char → Bool} {s tail : List Char} {c : Char}
    (h : s.dropWhile p = c :: tail) : s = s.takeWhile p ++ c :: tail ∧ p c = false := by
  refine ⟨?_, ?_⟩
  · rw [← h, List.takeWhile_append_dropWhile]
  · have hhead := List.head?_dropWhile_not p s
    rwa [h] at hhead

theorem isSound_withField (hkeeps : KeepsPlaces shown text) (h : shown = before ++ rest)
    (d : Directive) : IsSound (withField d text (width before) rest) := by
  rw [withField]
  split
  · exact isSound_malformed
  · next brace tail hdrop =>
    obtain ⟨hrest, hbrace⟩ := of_dropWhile_eq_cons hdrop
    obtain rfl : brace = '\x7d' := by simpa using hbrace
    generalize rest.takeWhile (· ≠ '\x7d') = field at hrest
    subst hrest
    refine (isSound_part hkeeps before field h).bind fun cut => ?_
    refine (isSound_ofForm _).bind fun filter => ?_
    split
    · next tail =>
      have hstart : width before + width field + 2 = width (before ++ field ++ ['\x7d', ']']) := by
        rw [width_append, width_append]
        rfl
      rw [hstart]
      exact isSound_withLevel hkeeps (by simp [h]) _
    · exact isSound_malformed

theorem isSound_withSpan (hkeeps : KeepsPlaces shown text) (h : shown = before ++ rest)
    (d : Directive) : IsSound (withSpan d text (width before) rest) := by
  rw [withSpan]
  split
  · exact isSound_malformed
  · next mark tail hdrop =>
    obtain ⟨hrest, hmark⟩ := of_dropWhile_eq_cons hdrop
    have hsize : mark.utf8Size = 1 := by
      have hcases : mark = ']' ∨ mark = '\x7b' := by
        simpa [or_iff_not_imp_left] using hmark
      rcases hcases with rfl | rfl <;> rfl
    generalize rest.takeWhile _ = name at hrest
    subst hrest
    have hstart : width before + width name + 1 = width (before ++ name ++ [mark]) := by
      rw [width_append, width_append, width, hsize]
      rfl
    refine (isSound_part hkeeps before name h).bind fun span => ?_
    rw [hstart]
    split
    · exact isSound_withLevel hkeeps (by simp [h]) _
    · exact isSound_withField hkeeps (by simp [h]) _

/-- The reading of a directive comes to an end if the whole text has the places of the shown one. -/
theorem isSound_parse {s : String} (hkeeps : KeepsPlaces (trim s.toList) s.toList) :
    IsSound (parse s) := by
  rw [parse]
  dsimp only
  generalize s.toList = whole at hkeeps
  generalize trim whole = shown at hkeeps
  split
  · exact isSound_malformed
  · split
    · split
      · exact isSound_ok _
      · exact isSound_ok _
    · exact isSound_malformed
  · next first c rest _ hdrop =>
    obtain ⟨hshown, hmark⟩ := of_dropWhile_eq_cons hdrop
    have hsize : c.utf8Size = 1 := by
      have hcases : c = '=' ∨ c = '[' := by simpa [or_iff_not_imp_left] using hmark
      rcases hcases with rfl | rfl <;> rfl
    generalize shown.takeWhile _ = target at hshown
    have hstart : width target + 1 = width (target ++ [c]) := by
      rw [width_append, width, hsize]
      rfl
    have hspan (d : Directive) : IsSound (withSpan d whole (width target + 1) rest) := by
      rw [hstart]
      exact isSound_withSpan hkeeps (by simp [hshown]) d
    have htarget : IsSound (part whole 0 (width target)) := by
      have hpart := isSound_part hkeeps [] target hshown
      rwa [width, Nat.zero_add] at hpart
    split
    · exact hspan _
    · split
      · refine htarget.bind fun name => ?_
        split
        · exact hspan _
        · exact isSound_withLevel hkeeps hshown _
      · exact isSound_malformed

/-- The reading of a directive breaks down only over blanks before characters of several bytes. -/
theorem of_parse_eq_broken {s : String} (h : parse s = .error .broken) :
    (∃ c ∈ s.toList.head?, isBlank c = true) ∧ ∃ c ∈ s.toList, 128 ≤ c.toNat := by
  constructor
  · by_contra hnone
    have hkeeps : KeepsPlaces (trim s.toList) s.toList := keepsPlaces_of_head fun c hc =>
      Bool.eq_false_iff.mpr fun hblank => hnone ⟨c, hc, hblank⟩
    exact isSound_parse hkeeps h
  · by_contra hnone
    have hkeeps : KeepsPlaces (trim s.toList) s.toList := keepsPlaces_of_ascii fun c hc =>
      Nat.not_le.mp fun hle => hnone ⟨c, hc, hle⟩
    exact isSound_parse hkeeps h

end Directive

/-- What goes wrong with several texts goes wrong with one of them. -/
theorem exists_of_mapM_eq_error {α β : Type} {read : α → Except Flaw β} {texts : List α}
    {flaw : Flaw} (h : texts.mapM read = .error flaw) : ∃ text ∈ texts, read text = .error flaw := by
  induction texts with
  | nil => cases h
  | cons text texts ih =>
    rw [List.mapM_cons] at h
    cases hread : read text with
    | error e =>
      rw [hread] at h
      cases h
      exact ⟨text, List.mem_cons_self, hread⟩
    | ok a =>
      cases hrest : texts.mapM read with
      | error e =>
        rw [hread, hrest] at h
        cases h
        obtain ⟨other, hm, hother⟩ := ih hrest
        exact ⟨other, List.mem_cons_of_mem text hm, hother⟩
      | ok bs =>
        rw [hread, hrest] at h
        cases h

/-- The reading breaks down only over a directive that begins with a blank and is not ASCII. -/
theorem of_parseDirectives_eq_broken {text : String} (h : parseDirectives text = .error .broken) :
    ∃ piece ∈ text.splitToList (· = ','),
      (∃ c ∈ piece.toList.head?, Text.isBlank c = true) ∧ ∃ c ∈ piece.toList, 128 ≤ c.toNat := by
  obtain ⟨piece, hm, hpiece⟩ := exists_of_mapM_eq_error h
  exact ⟨piece, List.mem_of_mem_filter hm, Directive.of_parse_eq_broken hpiece⟩

/-- The blank shifts the end of the target into its letter. -/
theorem parseDirectives_shifted : parseDirectives " é=info" = .error .broken := by
  rw [parseDirectives, String.splitToList_of_valid]
  rfl

end Logging

end ObjectStore
