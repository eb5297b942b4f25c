import ObjectStore.Json.Printer
import ObjectStore.Json.Reader
import ObjectStore.Proofs.Text.Spans

/-!
# Texts and numbers in JSON

A text is read back from its literal character by character, since each escape is read as one piece
that stands for the character it was written for. An integer is read back from its digits, as long
as what follows cannot be taken for a part of a number.
-/

namespace ObjectStore.Json

open Text (Stops stops_cons stops_nil)
open Text.Decimal (IsNumeral isNumeral_toDigits)

/-! ## Texts -/

/-- A piece stands for a character, whatever pieces follow. -/
def Piece.StandsFor (piece : Piece) (c : Char) : Prop :=
  ∀ pieces, assemble? (piece :: pieces) = (assemble? pieces).map (c :: ·)

theorem standsFor_char (c : Char) : Piece.StandsFor (.char c) c := by
  intro pieces
  rw [assemble?]

/-- A unit below the surrogates stands for the character of its number. -/
theorem standsFor_unit {u : Nat} (h : u < 0xd800) : Piece.StandsFor (.unit u) (Char.ofNat u) := by
  have hhigh : ¬(0xd800 ≤ u ∧ u < 0xe000) := by omega
  intro pieces
  cases pieces with
  | nil => simp only [assemble?, hhigh, if_false]
  | cons piece pieces =>
    cases piece with
    | char c => simp only [assemble?, hhigh, if_false]
    | unit v => rw [assemble?, if_neg (by omega), if_neg hhigh]

/-- An escape by letter is read as the character of the letter. -/
theorem pieces?_letter {letter c : Char} (hu : letter ≠ 'u') (h : unescape? letter = some c)
    (rest : List Char) : pieces? ('\\' :: letter :: rest) =
      (pieces? rest).map fun read => (.char c :: read.1, read.2) := by
  rw [pieces?]
  · rw [h]
    cases pieces? rest <;> rfl
  · intro a b c d rest' hletter
    exact absurd hletter hu

/-- A character that is not escaped is read as itself. -/
theorem pieces?_plain {c : Char} (hq : c ≠ '"') (hb : c ≠ '\\') (hn : 32 ≤ c.toNat)
    (rest : List Char) : pieces? (c :: rest) =
      (pieces? rest).map fun read => (.char c :: read.1, read.2) := by
  have hplain : ¬(c = '\\' ∨ c.toNat < 32) := by
    rintro (h | h)
    · exact hb h
    · omega
  rw [pieces?, if_neg hplain]
  · cases pieces? rest <;> rfl
  · exact hq
  · intro a b x d rest' h _
    exact hb h
  · intro e rest' h _
    exact hb h

/-- A character is written by letter, by number, or as itself. -/
theorem escape_cases (c : Char) :
    (∃ letter, letter ≠ 'u' ∧ unescape? letter = some c ∧ escape c = ['\\', letter]) ∨
    (c.toNat < 32 ∧ escape c = '\\' :: 'u' :: Text.Hex.four Text.Hex.lowerDigit c.toNat) ∨
    (c ≠ '"' ∧ c ≠ '\\' ∧ 32 ≤ c.toNat ∧ escape c = [c]) := by
  by_cases hm : c ∈ ['"', '\\', '\x08', '\x0c', '\n', '\r', '\t']
  · left
    simp only [List.mem_cons, List.not_mem_nil, or_false] at hm
    rcases hm with rfl | rfl | rfl | rfl | rfl | rfl | rfl
    all_goals exact ⟨_, by simp, by rfl, rfl⟩
  · simp only [List.mem_cons, List.not_mem_nil, or_false, not_or] at hm
    by_cases hn : c.toNat < 32
    · exact .inr (.inl ⟨hn, by simp [escape, hm, hn]⟩)
    · exact .inr (.inr ⟨hm.1, hm.2.1, Nat.not_lt.mp hn, by simp [escape, hm, hn]⟩)

/-- What is written for a character is read as one piece that stands for it. -/
theorem exists_piece (c : Char) : ∃ piece : Piece, piece.StandsFor c ∧ ∀ rest,
    pieces? (escape c ++ rest) = (pieces? rest).map fun read => (piece :: read.1, read.2) := by
  rcases escape_cases c with ⟨letter, hu, hc, hescape⟩ | ⟨hn, hescape⟩ | ⟨hq, hb, hn, hescape⟩
  · refine ⟨.char c, standsFor_char c, fun rest => ?_⟩
    rw [hescape]
    exact pieces?_letter hu hc rest
  · refine ⟨.unit c.toNat, ?_, fun rest => ?_⟩
    · have hstands := standsFor_unit (u := c.toNat) (by omega)
      rwa [Char.ofNat_toNat] at hstands
    · have hnumber := Text.Hex.number?_four Text.Hex.digit?_lowerDigit (n := c.toNat) (by omega)
      rw [hescape]
      simp only [Text.Hex.four, List.cons_append, List.nil_append, pieces?]
      rw [← Text.Hex.four, hnumber]
      cases pieces? rest <;> rfl
  · refine ⟨.char c, standsFor_char c, fun rest => ?_⟩
    rw [hescape]
    exact pieces?_plain hq hb hn rest

/-- The characters of a text are read up to the closing quote. -/
theorem exists_pieces (s rest : List Char) : ∃ pieces,
    pieces? (s.flatMap escape ++ '"' :: rest) = some (pieces, rest) ∧
      assemble? pieces = some s := by
  induction s with
  | nil => exact ⟨[], by simp [pieces?], rfl⟩
  | cons c s ih =>
    obtain ⟨pieces, hread, hpieces⟩ := ih
    obtain ⟨piece, hstands, hpiece⟩ := exists_piece c
    refine ⟨piece :: pieces, ?_, ?_⟩
    · rw [List.flatMap_cons, List.append_assoc, hpiece, hread]
      rfl
    · rw [hstands, hpieces]
      rfl

/-- A text is read back from its literal, after the opening quote. -/
theorem text?_escape (s : String) (rest : List Char) :
    text? (s.toList.flatMap escape ++ '"' :: rest) = some (some s, rest) := by
  obtain ⟨pieces, hread, hpieces⟩ := exists_pieces s.toList rest
  rw [text?, hread]
  simp [hpieces]

/-! ## Integers -/

/-- Whether a character after an integer would be taken for a part of the number. -/
def goesOn (c : Char) : Bool := c.isDigit || c = '.' || c = 'e' || c = 'E'

variable {rest : List Char}

theorem stops_isDigit_of_goesOn (h : Stops goesOn rest) : Stops Char.isDigit rest := by
  intro c hc
  have hgoesOn := h c hc
  simp only [goesOn, Bool.or_eq_false_iff] at hgoesOn
  exact hgoesOn.1.1.1

theorem natOfDigits_of_isNumeral {digits : List Char} {n : Nat} (h : IsNumeral digits n) :
    natOfDigits digits = n := h.foldl_eq

/-- The digits of a number are read whole: they begin with a zero only if there is no other. -/
theorem wholeDigits?_append (n : Nat) (h : Stops Char.isDigit rest) :
    wholeDigits? (Nat.toDigits 10 n ++ rest) = some (Nat.toDigits 10 n, rest) := by
  by_cases hn : n = 0
  · subst hn
    rfl
  · have hfirst := Text.Decimal.head?_toDigits_ne_zero hn
    have hdigits := (isNumeral_toDigits n).isDigit
    obtain ⟨c, digits, hc⟩ :=
      List.exists_cons_of_ne_nil (Nat.toDigits_ne_nil (b := 10) (n := n))
    have hread : digits? (Nat.toDigits 10 n ++ rest) = some (Nat.toDigits 10 n, rest) := by
      rw [digits?, Text.takeWhile_append_of_stops hdigits h,
        Text.dropWhile_append_of_stops hdigits h, hc]
      rfl
    rw [hc] at hfirst hread ⊢
    rw [List.cons_append, wholeDigits?, ← List.cons_append]
    · exact hread
    · intro rest' hzero
      exact hfirst (congrArg some (List.cons.inj hzero).1)

/-- Where a number does not go on, it has neither a fraction nor an exponent. -/
theorem fraction?_of_stops (h : Stops goesOn rest) :
    fraction? rest = some ([], rest) ∧ exponent? rest = some ([], rest) := by
  cases rest with
  | nil => exact ⟨rfl, rfl⟩
  | cons c rest =>
    simp only [stops_cons, goesOn, Bool.or_eq_false_iff, decide_eq_false_iff_not] at h
    obtain ⟨⟨⟨_, hpoint⟩, he⟩, hE⟩ := h
    constructor
    · rw [fraction?]
      intro rest' hc
      exact hpoint (List.cons.inj hc).1
    · rw [exponent?, if_neg]
      simp [he, hE]

/-- An integer is read back from its digits. -/
theorem number?_toString (n : Int) (h : Stops goesOn rest) :
    number? ((toString n).toList ++ rest) = some (.integer n, rest) := by
  have hwhole := wholeDigits?_append n.natAbs (stops_isDigit_of_goesOn h)
  obtain ⟨hfraction, hexponent⟩ := fraction?_of_stops h
  have hvalue := natOfDigits_of_isNumeral (isNumeral_toDigits n.natAbs)
  rw [Text.Decimal.toList_toString]
  by_cases hn : n < 0
  · have hsize : -(n.natAbs : Int) = n := by omega
    rw [if_pos hn, List.append_assoc, List.singleton_append, number?]
    simp only [hwhole, hfraction, hexponent, hvalue, Option.bind_eq_bind, Option.bind_some]
    rw [if_pos ⟨rfl, rfl, .inr (by omega)⟩]
    exact congrArg (fun m => some (Value.integer m, rest)) hsize
  · have hsize : (n.natAbs : Int) = n := by omega
    have hhyphen := (isNumeral_toDigits n.natAbs).ne_hyphen
    obtain ⟨c, digits, hc⟩ :=
      List.exists_cons_of_ne_nil (Nat.toDigits_ne_nil (b := 10) (n := n.natAbs))
    rw [if_neg hn, List.nil_append, number?]
    · simp only [hwhole, hfraction, hexponent, hvalue, Option.bind_eq_bind, Option.bind_some]
      rw [if_pos ⟨rfl, rfl, .inl rfl⟩]
      exact congrArg (fun m => some (Value.integer m, rest)) hsize
    · intro rest' heq
      rw [hc] at heq hhyphen
      exact hhyphen c List.mem_cons_self (List.cons.inj heq).1

end ObjectStore.Json
