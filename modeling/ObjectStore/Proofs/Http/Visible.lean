import ObjectStore.Proofs.Http.Fields
import ObjectStore.Proofs.Query.RoundTrip
import ObjectStore.Text.Base64

/-!
# Values that can always be sent

A value of visible characters can be sent under every name. Base64 and the text of a query are made
of visible characters only, whatever the bytes or the parameters are that they write.
-/

namespace ObjectStore

namespace Text

/-- Whether a character is a visible one of ASCII. -/
def isVisible (c : Char) : Bool := '!' ≤ c && c ≤ '~'

/-- Whether all characters of a text are visible ones of ASCII. -/
def isAllVisible (text : String) : Bool := text.toList.all isVisible

/-! ## Base64 -/

theorem Base64.isVisible_symbol : ∀ n < 64, isVisible (symbol n) = true := by decide

/-- The symbols of Base64 and its filling are visible. -/
theorem Base64.all_isVisible_encodeBytes (bytes : List UInt8) :
    (encodeBytes bytes).all isVisible = true := by
  fun_induction encodeBytes bytes with
  | case1 => rfl
  | case2 a =>
    have ha := a.toNat_lt
    simp (disch := omega) only [List.all_cons, isVisible_symbol]
    rfl
  | case3 a b =>
    have ha := a.toNat_lt
    have hb := b.toNat_lt
    simp (disch := omega) only [List.all_cons, isVisible_symbol]
    rfl
  | case4 a b c rest ih =>
    have ha := a.toNat_lt
    have hb := b.toNat_lt
    have hc := c.toNat_lt
    simp (disch := omega) only [List.all_cons, isVisible_symbol, ih]
    rfl

theorem Base64.isAllVisible_encode (bytes : List UInt8) : isAllVisible (encode bytes) = true := by
  rw [isAllVisible, encode, String.toList_ofList, all_isVisible_encodeBytes]

end Text

/-! ## Queries -/

namespace Query

open Text (isVisible isAllVisible)

private theorem isVisible_ofNat : ∀ n < 128, Text.Percent.isUnreserved (Char.ofNat n) = true →
    isVisible (Char.ofNat n) = true := by decide

theorem isVisible_of_isUnreserved {c : Char} (h : Text.Percent.isUnreserved c = true) :
    isVisible c = true := by
  have htoken : HeaderName.isTokenChar c = true := by
    simp only [Text.Percent.isUnreserved, Bool.or_eq_true, beq_iff_eq] at h
    rcases h with (((h | rfl) | rfl) | rfl) | rfl
    · rw [HeaderName.isTokenChar, h, Bool.true_or]
    all_goals decide
  have hc := isVisible_ofNat c.toNat (HeaderName.toNat_lt_of_isTokenChar htoken)
  rw [Char.ofNat_toNat] at hc
  exact hc h

theorem isVisible_of_isUpperDigit {c : Char} (h : Text.Hex.isUpperDigit c = true) :
    isVisible c = true := by
  simp only [Text.Hex.isUpperDigit, Bool.or_eq_true, Bool.and_eq_true, decide_eq_true_eq] at h
  rw [isVisible, Bool.and_eq_true, decide_eq_true_eq, decide_eq_true_eq]
  rcases h with ⟨hlow, hhigh⟩ | ⟨hlow, hhigh⟩
  · exact ⟨Char.le_trans (by decide) hlow, Char.le_trans hhigh (by decide)⟩
  · exact ⟨Char.le_trans (by decide) hlow, Char.le_trans hhigh (by decide)⟩

/-- Unreserved characters, escapes and separators are visible. -/
theorem all_isVisible_of_isWritten {text : List Char} (h : IsWritten text) :
    text.all isVisible = true := by
  induction h with
  | nil => rfl
  | unreserved hc _ ih => rw [List.all_cons, isVisible_of_isUnreserved hc, ih, Bool.and_self]
  | escape hhigh hlow _ ih =>
    simp only [List.all_cons, isVisible_of_isUpperDigit hhigh, isVisible_of_isUpperDigit hlow, ih]
    rfl
  | separator hc _ ih =>
    rw [List.all_cons, ih]
    rcases hc with rfl | rfl <;> rfl

theorem isAllVisible_encode (q : Query) : isAllVisible q.encode = true :=
  all_isVisible_of_isWritten q.isWritten_encode

end Query

/-! ## Fields -/

namespace Http.Fields

open Text (isVisible isAllVisible)

theorem isValueChar_of_isVisible {c : Char} (h : isVisible c = true) : isValueChar c = true := by
  rw [isVisible, Bool.and_eq_true, decide_eq_true_eq, decide_eq_true_eq] at h
  have hlow : 33 ≤ c.toNat := h.1
  have hhigh : c.toNat ≤ 126 := h.2
  simp only [isValueChar, Bool.or_eq_true, Bool.and_eq_true, decide_eq_true_eq]
  omega

/-- A visible value can be sent under every name. -/
theorem isSendable_of_isAllVisible {name value : String} (hname : name ≠ "")
    (htoken : HeaderName.isToken name = true) (hvalue : isAllVisible value = true) :
    isSendable name value = true := by
  have hall : value.toList.all isValueChar = true := by
    rw [List.all_eq_true]
    intro c hc
    exact isValueChar_of_isVisible (List.all_eq_true.mp hvalue c hc)
  have hempty : name.isEmpty = false := by
    rwa [← Bool.not_eq_true, String.isEmpty_iff]
  rw [isSendable, htoken, hall, hempty]
  rfl

/-- A header with a visible value arrives, in place of what stood there. -/
theorem getAll_project_of_isAllVisible (f : Fields) {h : Headers} {name value : String}
    (hname : name ≠ "") (htoken : HeaderName.isToken name = true) (hget : h.get? name = some value)
    (hvalue : isAllVisible value = true) : (f.project h).getAll name = [value] := by
  have hsendable := isSendable_of_isAllVisible hname htoken hvalue
  rw [getAll_project _ _ htoken, hget, Option.filter_some, if_pos hsendable, Option.elim_some]

end Http.Fields

end ObjectStore
