import ObjectStore.Proofs.Json.Scalars

/-!
# Values read back

A value is read back from its text. Only decimals are left out, for they stand as they were written
and need not be numbers at all. The reader nests no deeper than the text is long, and what is
written between two brackets is shorter than what is written with them.
-/

namespace ObjectStore.Json

open Text (Stops stops_cons stops_nil)

/-! ## Rows of items -/

/-- A text that begins with neither a blank nor a closing mark, as every item does. -/
def Opens (s : List Char) : Prop :=
  ∃ c more, s = c :: more ∧ c ∉ [' ', '\t', '\n', '\r', ']', '\x7d']

theorem opens_cons {c : Char} (h : c ∉ [' ', '\t', '\n', '\r', ']', '\x7d']) (rest : List Char) :
    Opens (c :: rest) := ⟨c, rest, rfl, h⟩

theorem Opens.append {s : List Char} (h : Opens s) (rest : List Char) : Opens (s ++ rest) := by
  obtain ⟨c, more, rfl, hc⟩ := h
  exact opens_cons hc (more ++ rest)

theorem Opens.skipBlanks_eq {s : List Char} (h : Opens s) : skipBlanks s = s := by
  obtain ⟨c, more, rfl, hc⟩ := h
  refine Stops.dropWhile_eq (stops_cons.mpr ?_)
  simp only [List.mem_cons, not_or] at hc
  simp [hc]

theorem skipBlanks_of_mem {c : Char} (h : c ∈ [',', ':', ']', '\x7d']) (rest : List Char) :
    skipBlanks (c :: rest) = c :: rest := by
  refine Stops.dropWhile_eq (stops_cons.mpr ?_)
  simp only [List.mem_cons, List.not_mem_nil, or_false] at h
  rcases h with rfl | rfl | rfl | rfl <;> rfl

section Items

variable {α : Type} {close : Char} {item : List Char → Option (α × List Char)}
  {write : α → List Char} {items : List α}

/-- A row of items begins as its first item does. -/
theorem opens_intercalate (hne : items ≠ []) (hopens : ∀ a ∈ items, Opens (write a)) :
    Opens ([','].intercalate (items.map write)) := by
  obtain ⟨a, items, rfl⟩ := List.exists_cons_of_ne_nil hne
  have ha := hopens a List.mem_cons_self
  cases items with
  | nil => rwa [List.map_singleton, List.intercalate_singleton]
  | cons b items =>
    rw [List.map_cons, List.map_cons, List.intercalate_cons_cons, List.append_assoc]
    exact ha.append _

/-- An item is no longer than the row in which it stands. -/
theorem length_le_intercalate (write : α → List Char) {a : α}
    (h : a ∈ items) : (write a).length ≤ ([','].intercalate (items.map write)).length := by
  induction items with
  | nil => exact absurd h List.not_mem_nil
  | cons b items ih =>
    cases items with
    | nil => rw [List.map_singleton, List.intercalate_singleton, List.eq_of_mem_singleton h]
    | cons c items =>
      rw [List.map_cons, List.map_cons, List.intercalate_cons_cons, ← List.map_cons,
        List.length_append, List.length_append]
      rcases List.mem_cons.mp h with rfl | h
      · omega
      · exact Nat.le_trans (ih h) (Nat.le_add_left ..)

/-- Items are read back from what is written for each of them, with a comma between any two. -/
theorem itemsUntil_intercalate (hclose : close ∈ [']', '\x7d']) (hne : items ≠ [])
    (hopens : ∀ a ∈ items, Opens (write a))
    (hitem : ∀ a ∈ items, ∀ rest, Stops goesOn rest → item (write a ++ rest) = some (a, rest))
    (rest : List Char) :
    itemsUntil close item ([','].intercalate (items.map write) ++ close :: rest) =
      some (items, rest) := by
  have hskip : skipBlanks (close :: rest) = close :: rest :=
    skipBlanks_of_mem (List.mem_of_mem_drop (i := 2) hclose) rest
  have hcomma : ',' ≠ close := by
    rintro rfl
    exact absurd hclose (by decide)
  have hstop : goesOn close = false := by
    simp only [List.mem_cons, List.not_mem_nil, or_false] at hclose
    rcases hclose with rfl | rfl <;> rfl
  induction items with
  | nil => exact absurd rfl hne
  | cons a items ih =>
    have ha := hitem a List.mem_cons_self
    cases items with
    | nil =>
      rw [List.map_singleton, List.intercalate_singleton, itemsUntil, ha _ (stops_cons.mpr hstop)]
      simp only [hskip, if_true]
    | cons b items =>
      have hopens' : ∀ c ∈ b :: items, Opens (write c) :=
        fun c hc => hopens c (List.mem_cons_of_mem a hc)
      have hnext := ((opens_intercalate (List.cons_ne_nil b items) hopens').append
        (close :: rest)).skipBlanks_eq
      have hrest := ih (List.cons_ne_nil b items) hopens'
        (fun c hc => hitem c (List.mem_cons_of_mem a hc))
      rw [List.map_cons, List.map_cons, List.intercalate_cons_cons, ← List.map_cons,
        List.append_assoc, List.append_assoc, List.singleton_append, itemsUntil,
        ha _ (stops_cons.mpr rfl)]
      simp only [skipBlanks_of_mem (List.mem_cons_self (a := ',')), if_neg hcomma, hnext]
      rw [if_pos, hrest]
      · rfl
      · refine ⟨trivial, ?_⟩
        simp only [List.length_append, List.length_cons]
        omega

/-- Items, or none at all, are read back up to the closing mark. -/
theorem itemsOrNone_intercalate (hclose : close ∈ [']', '\x7d'])
    (hopens : ∀ a ∈ items, Opens (write a))
    (hitem : ∀ a ∈ items, ∀ rest, Stops goesOn rest → item (write a ++ rest) = some (a, rest))
    (rest : List Char) :
    itemsOrNone close item ([','].intercalate (items.map write) ++ close :: rest) =
      some (items, rest) := by
  by_cases hne : items = []
  · subst hne
    rw [List.map_nil, List.intercalate_nil, List.nil_append, itemsOrNone,
      skipBlanks_of_mem (List.mem_of_mem_drop (i := 2) hclose)]
    exact if_pos rfl
  · have hread := itemsUntil_intercalate hclose hne hopens hitem rest
    obtain ⟨c, more, hfirst, hc⟩ := (opens_intercalate hne hopens).append (close :: rest)
    have hnot : c ≠ close := by
      rintro rfl
      exact hc (List.mem_append_right [' ', '\t', '\n', '\r'] hclose)
    rw [hfirst] at hread ⊢
    rw [itemsOrNone, (opens_cons hc more).skipBlanks_eq]
    simp only [if_neg hnot, hread]

end Items

/-! ## Values -/

/-- A value in which every number is an integer. -/
inductive Value.IsIntegral : Value → Prop where
  | null : IsIntegral .null
  | bool (b : Bool) : IsIntegral (.bool b)
  | integer (n : Int) : IsIntegral (.integer n)
  | text (content : Option String) : IsIntegral (.text content)
  | array {items : List Value} (hitems : ∀ v ∈ items, IsIntegral v) : IsIntegral (.array items)
  | object {fields : List (Option String × Value)} (hfields : ∀ f ∈ fields, IsIntegral f.2) :
    IsIntegral (.object fields)

/-- The characters of a field. -/
def printField (field : Option String × Value) : List Char :=
  quoteContent field.1 ++ ':' :: field.2.print

theorem printItems_eq (items : List Value) :
    Value.printItems items = [','].intercalate (items.map Value.print) := by
  induction items with
  | nil => rfl
  | cons v items ih =>
    cases items with
    | nil => rw [Value.printItems, List.map_singleton, List.intercalate_singleton]
    | cons w items =>
      rw [Value.printItems, ih, List.map_cons, List.map_cons, List.map_cons,
        List.intercalate_cons_cons, List.append_assoc]
      rfl

theorem printFields_eq (fields : List (Option String × Value)) :
    Value.printFields fields = [','].intercalate (fields.map printField) := by
  induction fields with
  | nil => rfl
  | cons f fields ih =>
    cases fields with
    | nil => rw [Value.printFields, List.map_singleton, List.intercalate_singleton, printField]
    | cons g fields =>
      rw [Value.printFields, ih, List.map_cons, List.map_cons, List.map_cons,
        List.intercalate_cons_cons]
      simp [printField]

/-- A text, or a literal without content, is read back after its opening quote. -/
theorem exists_quoteContent (content : Option String) : ∃ body, quoteContent content = '"' :: body ∧
    ∀ rest, text? (body ++ rest) = some (content, rest) := by
  cases content with
  | none =>
    refine ⟨['\\', 'u', 'd', '8', '0', '0', '"'], by unfold quoteContent; simp, fun rest => ?_⟩
    have hunit : Text.Hex.number? ['d', '8', '0', '0'] = some 0xd800 := by decide
    simp [text?, pieces?, hunit, assemble?]
  | some s =>
    refine ⟨s.toList.flatMap escape ++ ['"'], rfl, fun rest => ?_⟩
    rw [List.append_assoc, List.singleton_append, text?_escape]

theorem opens_printField (field : Option String × Value) : Opens (printField field) := by
  obtain ⟨body, hquote, _⟩ := exists_quoteContent field.1
  rw [printField, hquote]
  exact opens_cons (by decide) _

/-- What is written for an integer begins with a digit or a hyphen. -/
theorem exists_toString (n : Int) : ∃ c more, (toString n).toList = c :: more ∧
    (c.isDigit = true ∨ c = '-') := by
  obtain ⟨c, digits, hc⟩ :=
    List.exists_cons_of_ne_nil (Nat.toDigits_ne_nil (b := 10) (n := n.natAbs))
  have hdigit := (Text.Decimal.isNumeral_toDigits n.natAbs).isDigit c (hc ▸ List.mem_cons_self)
  rw [Text.Decimal.toList_toString, hc]
  by_cases hn : n < 0
  · exact ⟨'-', c :: digits, by rw [if_pos hn]; rfl, .inr rfl⟩
  · exact ⟨c, digits, by rw [if_neg hn]; rfl, .inl hdigit⟩

/-- The characters with which a number begins are none of those with which other values begin. -/
theorem not_mem_of_begins_number {c : Char} (h : c.isDigit = true ∨ c = '-') :
    c ∉ [' ', '\t', '\n', '\r', ']', '\x7d', 'n', 't', 'f', '"', '[', '\x7b'] := by
  rcases h with h | rfl
  · simpa using Text.eq_false_of_isDigit
      (p := (· ∈ [' ', '\t', '\n', '\r', ']', '\x7d', 'n', 't', 'f', '"', '[', '\x7b']))
      (by decide) h
  · decide

theorem Value.IsIntegral.opens {v : Value} (h : v.IsIntegral) : Opens v.print := by
  cases h with
  | null => exact opens_cons (by decide) _
  | bool b => cases b <;> exact opens_cons (by decide) _
  | integer n =>
    obtain ⟨c, more, heq, hc⟩ := exists_toString n
    rw [Value.print, heq]
    exact opens_cons (fun hm => not_mem_of_begins_number hc (List.mem_append_left _ hm)) more
  | text content =>
    obtain ⟨body, hquote, _⟩ := exists_quoteContent content
    rw [Value.print, hquote]
    exact opens_cons (by decide) _
  | array _ => exact opens_cons (by decide) _
  | object _ => exact opens_cons (by decide) _

/-- A value that begins like a number is read as one. -/
theorem value?_of_begins_number {c : Char} (h : c.isDigit = true ∨ c = '-') (depth : Nat)
    (rest : List Char) : value? (depth + 1) (c :: rest) = number? (c :: rest) := by
  have hc := not_mem_of_begins_number h
  simp only [List.mem_cons, not_or] at hc
  rw [value?]
  all_goals
    intros
    simp_all

/-- A field is read back from its name and value. -/
theorem field?_printField {value : List Char → Option (Value × List Char)}
    {field : Option String × Value} {rest : List Char} (hopens : Opens field.2.print)
    (hread : value (field.2.print ++ rest) = some (field.2, rest)) :
    field? value (printField field ++ rest) = some (field, rest) := by
  obtain ⟨body, hquote, hname⟩ := exists_quoteContent field.1
  rw [printField, hquote, List.append_assoc, List.cons_append, field?, hname]
  simp only [List.cons_append, Option.bind_eq_bind, Option.bind_some,
    skipBlanks_of_mem (by decide : ':' ∈ [',', ':', ']', '\x7d']), (hopens.append rest).skipBlanks_eq, hread]
  rfl

/-- A value is read back from what is written for it, if there are as many levels as characters. -/
theorem value?_print {v : Value} (h : v.IsIntegral) {depth : Nat} (hdepth : v.print.length ≤ depth)
    {rest : List Char} (hs : Stops goesOn rest) :
    value? (depth + 1) (v.print ++ rest) = some (v, rest) := by
  induction h generalizing depth rest with
  | null => simp [Value.print, value?]
  | bool b => cases b <;> simp [Value.print, value?]
  | integer n =>
    obtain ⟨c, more, heq, hc⟩ := exists_toString n
    have hread := number?_toString n hs
    rw [Value.print]
    rw [heq] at hread ⊢
    rw [List.cons_append, value?_of_begins_number hc, ← List.cons_append, hread]
  | text content =>
    obtain ⟨body, hquote, hread⟩ := exists_quoteContent content
    rw [Value.print, hquote, List.cons_append, value?, hread]
    rfl
  | @array items hitems ih =>
    rw [Value.print, printItems_eq] at hdepth ⊢
    simp only [List.cons_append, List.length_cons, List.length_append] at hdepth
    obtain ⟨depth, rfl⟩ := Nat.exists_eq_add_one_of_ne_zero (by omega : depth ≠ 0)
    have hitem : ∀ v ∈ items, ∀ rest, Stops goesOn rest →
        value? (depth + 1) (v.print ++ rest) = some (v, rest) := by
      intro v hv rest hs
      have hlength := length_le_intercalate Value.print hv
      exact ih v hv (by omega) hs
    have hread := itemsOrNone_intercalate (by decide : ']' ∈ [']', '\x7d'])
      (fun v hv => (hitems v hv).opens) hitem rest
    simp only [List.cons_append, List.append_assoc, List.nil_append]
    rw [value?, hread]
    rfl
  | @object fields hfields ih =>
    rw [Value.print, printFields_eq] at hdepth ⊢
    simp only [List.cons_append, List.length_cons, List.length_append] at hdepth
    obtain ⟨depth, rfl⟩ := Nat.exists_eq_add_one_of_ne_zero (by omega : depth ≠ 0)
    have hfield : ∀ f ∈ fields, ∀ rest, Stops goesOn rest →
        field? (value? (depth + 1)) (printField f ++ rest) = some (f, rest) := by
      intro f hf rest hs
      have hlength := length_le_intercalate printField hf
      rw [printField, List.length_append, List.length_cons] at hlength
      exact field?_printField (hfields f hf).opens (ih f hf (by omega) hs)
    have hread := itemsOrNone_intercalate (by decide : '\x7d' ∈ [']', '\x7d'])
      (fun f _ => opens_printField f) hfield rest
    simp only [List.cons_append, List.append_assoc, List.nil_append]
    rw [value?, hread]
    rfl

/-- A value is read back from its text. -/
theorem parse?_format {v : Value} (h : v.IsIntegral) : parse? v.format = some v := by
  have hread := value?_print h (Nat.le_refl _) stops_nil
  rw [List.append_nil] at hread
  rw [parse?, Value.format, String.toList_ofList, h.opens.skipBlanks_eq]
  simp only [hread]
  rfl

end ObjectStore.Json
