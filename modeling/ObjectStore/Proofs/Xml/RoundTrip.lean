import Mathlib.Algebra.BigOperators.Group.List.Basic
import ObjectStore.Proofs.Text.Spans
import ObjectStore.Xml.Reader

/-!
# Documents read back

A document is read back as the node that it was written for. Names must be such, without a
namespace, and the texts in a content must be told apart by what is written: none is empty, and
there is an element between any two. The reader first cuts the document into tokens and then
matches them up, and so does the proof.
-/

namespace ObjectStore.Xml

open Text (Stops stops_cons takeWhile_append_of_stops dropWhile_append_of_stops)

/-! ## Texts -/

/-- A character is read back from what is written for it. -/
theorem resolve?_escape (c : Char) (rest : List Char) :
    resolve? none (escape c ++ rest) = (resolve? none rest).map (c :: ·) := by
  unfold escape
  split
  case h_8 _ hne _ _ _ _ _ _ =>
    have hplain : c ≠ '&' := hne
    rw [List.singleton_append, resolve?, if_neg hplain]
  all_goals
    simp [resolve?, reference?]
    cases resolve? none rest <;> rfl

theorem unescape?_escapeText (s : String) : unescape? (escapeText s) = some s := by
  have hread (chars : List Char) : resolve? none (chars.flatMap escape) = some chars := by
    induction chars with
    | nil => rfl
    | cons c chars ih => rw [List.flatMap_cons, resolve?_escape, ih, Option.map_some]
  rw [unescape?, escapeText, hread, Option.map_some, String.ofList_toList]

/-- What is written for a character has neither the marks of tags nor quotes, and is something. -/
theorem mem_escape {c d : Char} (h : d ∈ escape c) : d ≠ '<' ∧ d ≠ '"' := by
  have hall : (escape c).all (fun d => d ≠ '<' ∧ d ≠ '"') = true := by
    unfold escape
    split
    case h_8 _ _ hbracket _ hquote _ _ _ => simpa using ⟨hbracket, hquote⟩
    all_goals decide
  exact of_decide_eq_true (List.all_eq_true.mp hall d h)

theorem escape_ne_nil (c : Char) : escape c ≠ [] := by
  unfold escape
  split
  case h_8 => exact List.cons_ne_nil _ _
  all_goals decide

theorem mem_escapeText {s : String} {c : Char} (h : c ∈ escapeText s) : c ≠ '<' ∧ c ≠ '"' := by
  obtain ⟨d, _, hc⟩ := List.mem_flatMap.mp h
  exact mem_escape hc

theorem escapeText_ne_nil {s : String} (h : s ≠ "") : escapeText s ≠ [] := by
  intro hnil
  rw [escapeText, List.flatMap_eq_nil_iff] at hnil
  cases hs : s.toList with
  | nil => exact h (String.toList_eq_nil_iff.mp hs)
  | cons c rest => exact escape_ne_nil c (hnil c (hs ▸ List.mem_cons_self))

/-! ## Names -/

/-- A name that an element or an attribute may have. -/
structure IsName (name : List Char) : Prop where
  /-- It begins as names do. -/
  begins : ∃ c more, name = c :: more ∧ isNameStart c = true
  /-- It has the characters of names only. -/
  all : ∀ c ∈ name, isNameChar c = true

theorem isName_iff {name : List Char} :
    IsName name ↔ name.head?.any isNameStart = true ∧ name.all isNameChar = true := by
  constructor
  · rintro ⟨⟨c, more, rfl, hc⟩, hall⟩
    exact ⟨hc, List.all_eq_true.mpr hall⟩
  · rintro ⟨hc, hall⟩
    cases name with
    | nil => cases hc
    | cons c more => exact ⟨⟨c, more, rfl, hc⟩, List.all_eq_true.mp hall⟩

/-- A name is read up to a character that names have not. -/
theorem IsName.name?_append {name : List Char} (h : IsName name) {rest : List Char}
    (hstops : Stops isNameChar rest) : name? (name ++ rest) = some (name, rest) := by
  have htake := takeWhile_append_of_stops h.all hstops
  have hdrop := dropWhile_append_of_stops h.all hstops
  obtain ⟨c, more, rfl, hc⟩ := h.begins
  rw [List.cons_append] at htake hdrop ⊢
  rw [name?, if_pos hc, htake, hdrop]

/-- A name begins with none of the marks of tags, and with no blank. -/
theorem IsName.exists_cons {name : List Char} (h : IsName name) :
    ∃ c more, name = c :: more ∧ isBlank c = false ∧ c ∉ ['/', '?', '!', '>'] := by
  obtain ⟨c, more, rfl, hc⟩ := h.begins
  refine ⟨c, more, rfl, ?_, ?_⟩
  · rw [← Bool.not_eq_true]
    intro hblank
    simp only [isBlank, Bool.or_eq_true, decide_eq_true_eq] at hblank
    rcases hblank with ((rfl | rfl) | rfl) | rfl <;> exact absurd hc (by decide)
  · intro hm
    simp only [List.mem_cons, List.not_mem_nil, or_false] at hm
    rcases hm with rfl | rfl | rfl | rfl <;> exact absurd hc (by decide)

/-! ## Tags -/

/-- What comes before a mark is found if the mark does not stand in it. -/
theorem splitAt?_append {mark : Char} {before : List Char} (h : mark ∉ before)
    (rest : List Char) : splitAt? [mark] (before ++ mark :: rest) = some (before, rest) := by
  induction before with
  | nil => simp [splitAt?]
  | cons c before ih =>
    rw [List.mem_cons, not_or] at h
    simp [splitAt?, h.1, ih h.2]

/-- A value is read back up to its closing quote. -/
theorem quoted?_escapeText (value : String) (rest : List Char) :
    quoted? ('"' :: (escapeText value ++ '"' :: rest)) = some (value, rest) := by
  have hmark : '"' ∉ escapeText value := fun hm => (mem_escapeText hm).2 rfl
  rw [quoted?, splitAt?_append hmark]
  simp [unescape?_escapeText]

/-- One attribute is read back with those that follow it. -/
theorem attributes?_succ {a : String × String} (ha : IsName a.1.toList) {count : Nat}
    {rest after : List Char} {more : List (String × String)}
    (hread : attributes? count rest = some (more, after)) :
    attributes? (count + 1) (printAttribute a ++ rest) = some (a :: more, after) := by
  obtain ⟨c, tail, hname, hblank, _⟩ := ha.exists_cons
  have hprint : printAttribute a ++ rest =
      ' ' :: (a.1.toList ++ '=' :: '"' :: (escapeText a.2 ++ '"' :: rest)) := by
    simp [printAttribute]
  have hskip : skipBlanks (printAttribute a ++ rest) =
      a.1.toList ++ '=' :: '"' :: (escapeText a.2 ++ '"' :: rest) := by
    rw [hprint, hname]
    exact Stops.dropWhile_eq (stops_cons.mpr hblank)
  have hstart : (printAttribute a ++ rest).head?.filter isBlank = some ' ' := by
    rw [hprint]
    rfl
  have hequals (s : List Char) : skipBlanks ('=' :: s) = '=' :: s := rfl
  have hquote (s : List Char) : skipBlanks ('"' :: s) = '"' :: s := rfl
  rw [attributes?, hskip, ha.name?_append (stops_cons.mpr rfl), hstart]
  simp [hequals, hquote, quoted?_escapeText, hread]

theorem attributes?_append {attributes : List (String × String)}
    (hnames : ∀ a ∈ attributes, IsName a.1.toList) {count : Nat}
    (hcount : attributes.length ≤ count) (rest : List Char) :
    attributes? count (attributes.flatMap printAttribute ++ '>' :: rest) =
      some (attributes, '>' :: rest) := by
  induction attributes generalizing count with
  | nil =>
    cases count with
    | zero => rfl
    | succ count => rfl
  | cons a attributes ih =>
    obtain ⟨count, rfl⟩ := Nat.exists_eq_add_one_of_ne_zero (by simp at hcount; omega : count ≠ 0)
    obtain ⟨ha, hrest⟩ := List.forall_mem_cons.mp hnames
    rw [List.flatMap_cons, List.append_assoc]
    exact attributes?_succ ha (ih hrest (Nat.le_of_succ_le_succ hcount))

/-- The tag that begins an element is read back. -/
theorem markup?_start {name : List Char} (hname : IsName name)
    {attributes : List (String × String)} (hattributes : ∀ a ∈ attributes, IsName a.1.toList)
    (rest : List Char) :
    markup? (name ++ (attributes.flatMap printAttribute ++ '>' :: rest)) =
      some ([.start name attributes], rest) := by
  have hstops : Stops isNameChar (attributes.flatMap printAttribute ++ '>' :: rest) := by
    cases attributes with
    | nil => exact stops_cons.mpr rfl
    | cons a attributes => exact stops_cons.mpr rfl
  have hcount : attributes.length ≤
      (attributes.flatMap printAttribute ++ '>' :: rest).length := by
    have hsum : (attributes.map fun a => (printAttribute a).length).length ≤
        (attributes.map fun a => (printAttribute a).length).sum := by
      refine List.length_le_sum_of_one_le _ fun n hn => ?_
      obtain ⟨a, _, rfl⟩ := List.mem_map.mp hn
      exact Nat.le_add_left 1 _
    rw [List.length_map] at hsum
    rw [List.length_append, List.length_flatMap]
    exact hsum.trans (Nat.le_add_right _ _)
  have hread := hname.name?_append hstops
  have hmore := attributes?_append hattributes hcount rest
  obtain ⟨c, more, rfl, _, hc⟩ := hname.exists_cons
  simp only [List.mem_cons, List.not_mem_nil, or_false, not_or] at hc
  have htag : markup? (c :: more ++ (attributes.flatMap printAttribute ++ '>' :: rest)) =
      tag? (c :: more ++ (attributes.flatMap printAttribute ++ '>' :: rest)) := by
    rw [List.cons_append, markup?]
    all_goals
      intros
      simp_all
  rw [htag, List.cons_append, tag?]
  · rw [← List.cons_append, hread]
    simp only [Option.bind_eq_bind, Option.bind_some, hmore]
    rfl
  · intros
    simp_all

/-- The tag that ends an element is read back. -/
theorem markup?_stop {name : List Char} (hname : IsName name) (rest : List Char) :
    markup? ('/' :: (name ++ '>' :: rest)) = some ([.stop name], rest) := by
  have hskip : skipBlanks ('>' :: rest) = '>' :: rest := rfl
  have hstops : Stops isNameChar ('>' :: rest) := stops_cons.mpr (by decide)
  simp [markup?, tag?, hname.name?_append hstops, hskip]

/-! ## Tokens -/

/-- A document is cut into these tokens, if at least as many are allowed as it has characters. -/
def IsCut (s : List Char) (tokens : List Token) : Prop :=
  ∀ count, s.length ≤ count → tokens? count s = some tokens

theorem isCut_nil : IsCut [] [] := by
  intro count _
  cases count <;> rfl

/-- Markup is cut off with its tokens. -/
theorem IsCut.markup {s rest : List Char} {tokens more : List Token}
    (hread : markup? (s ++ rest) = some (tokens, rest)) (h : IsCut rest more) :
    IsCut ('<' :: (s ++ rest)) (tokens ++ more) := by
  intro count hcount
  obtain ⟨count, rfl⟩ := Nat.exists_eq_add_one_of_ne_zero (by simp at hcount; omega : count ≠ 0)
  simp only [List.length_cons, List.length_append] at hcount
  rw [tokens?, if_pos rfl, hread]
  simp [h count (by omega)]

/-- A text is cut off up to the next tag. -/
theorem IsCut.text {content : String} (hne : content ≠ "") {rest : List Char} {more : List Token}
    (hstops : Stops (· ≠ '<') rest) (h : IsCut rest more) :
    IsCut (escapeText content ++ rest) (.text content :: more) := by
  intro count hcount
  have hall : ∀ c ∈ escapeText content, decide (c ≠ '<') = true := fun c hc => by
    simpa using (mem_escapeText hc).1
  have htake := takeWhile_append_of_stops hall hstops
  have hdrop := dropWhile_append_of_stops hall hstops
  have hunescape := unescape?_escapeText content
  obtain ⟨c, tail, hcons⟩ := List.exists_cons_of_ne_nil (escapeText_ne_nil hne)
  have hc : c ≠ '<' := (mem_escapeText (hcons ▸ List.mem_cons_self)).1
  rw [hcons] at htake hdrop hunescape hcount ⊢
  obtain ⟨count, rfl⟩ := Nat.exists_eq_add_one_of_ne_zero (by simp at hcount; omega : count ≠ 0)
  simp only [List.length_cons, List.length_append] at hcount
  rw [List.cons_append] at htake hdrop ⊢
  rw [tokens?, if_neg hc, htake, hdrop, hunescape]
  simp [h count (by omega)]

/-! ## Nodes -/

/--
A content whose nodes can be told from what is written for them: the names are names, without a
namespace, no text is empty, and none comes right after another.
-/
inductive IsTidy : List Node → Prop where
  | nil : IsTidy []
  | text {content : String} {rest : List Node} (hcontent : content ≠ "")
    (hnext : ∀ other, rest.head? ≠ some (.text other)) (hrest : IsTidy rest) :
    IsTidy (.text content :: rest)
  | element {name : String} {attributes : List (String × String)} {content rest : List Node}
    (hname : IsName name.toList) (hlocal : ':' ∉ name.toList)
    (hattributes : ∀ a ∈ attributes, IsName a.1.toList) (hcontent : IsTidy content)
    (hrest : IsTidy rest) : IsTidy (.element name attributes content :: rest)

namespace Node

mutual

/-- The tokens of a node. -/
def tokens : Node → List Token
  | text content => [.text content]
  | element name attributes content =>
    .start name.toList attributes :: tokensAll content ++ [.stop name.toList]

/-- The tokens of nodes one after another. -/
def tokensAll : List Node → List Token
  | [] => []
  | node :: nodes => tokens node ++ tokensAll nodes

end

end Node

open Node (printAll tokensAll)

/-- What is written for a content is cut into its tokens, up to the tag that follows it. -/
theorem IsTidy.isCut_append {nodes : List Node} (h : IsTidy nodes) {rest : List Char}
    {more : List Token} (hstops : Stops (· ≠ '<') rest) (hrest : IsCut rest more) :
    IsCut (printAll nodes ++ rest) (tokensAll nodes ++ more) := by
  -- A text ends where the next tag begins, so the induction is for any rest.
  induction h generalizing rest more with
  | nil => exact hrest
  | @text content nodes hcontent hnext _ ih =>
    have hopens : Stops (· ≠ '<') (printAll nodes ++ rest) := by
      cases nodes with
      | nil => exact hstops
      | cons node nodes =>
        cases node with
        | text other => exact absurd rfl (hnext other)
        | element name attributes content =>
          rw [printAll, Node.print]
          exact stops_cons.mpr (by decide)
    rw [printAll, Node.print, tokensAll, Node.tokens, List.append_assoc]
    exact (ih hstops hrest).text hcontent hopens
  | @element name attributes content nodes hname _ hattributes _ _ ihcontent ihnodes =>
    have hstop := (ihnodes hstops hrest).markup (s := '/' :: name.toList ++ ['>'])
      (by simpa using markup?_stop hname (printAll nodes ++ rest))
    have hinner := ihcontent (stops_cons.mpr (by decide)) hstop
    have hstart := hinner.markup
      (s := name.toList ++ (attributes.flatMap printAttribute ++ ['>']))
      (by simpa using markup?_start hname hattributes _)
    rw [printAll, Node.print, tokensAll, Node.tokens]
    simpa using hstart

/-- The tokens of a content are matched up to it, before the end of what it stands in. -/
theorem IsTidy.content?_append {nodes : List Node} (h : IsTidy nodes) {rest : List Token}
    (hrest : rest = [] ∨ ∃ name more, rest = .stop name :: more) {size : Nat}
    (hsize : (tokensAll nodes).length ≤ size) :
    content? size (tokensAll nodes ++ rest) = some (nodes, rest) := by
  induction h generalizing rest size with
  | nil =>
    rcases hrest with rfl | ⟨name, more, rfl⟩ <;> cases size <;> rfl
  | @text content nodes _ _ _ ih =>
    rw [tokensAll, Node.tokens, List.length_append, List.length_singleton] at hsize
    obtain ⟨size, rfl⟩ := Nat.exists_eq_add_one_of_ne_zero (by omega : size ≠ 0)
    rw [tokensAll, Node.tokens, List.singleton_append, List.cons_append, content?,
      ih hrest (by omega)]
    rfl
  | @element name attributes content nodes _ hlocal _ _ _ ihcontent ihnodes =>
    rw [tokensAll, Node.tokens] at hsize ⊢
    simp only [List.length_append, List.length_cons, List.length_nil] at hsize
    obtain ⟨size, rfl⟩ := Nat.exists_eq_add_one_of_ne_zero (by omega : size ≠ 0)
    have hinner := ihcontent (.inr ⟨name.toList, tokensAll nodes ++ rest, rfl⟩)
      (by omega : (tokensAll content).length ≤ size)
    have hname : localName name.toList = name := by simp [localName, hlocal]
    simp only [List.cons_append, List.append_assoc, List.nil_append]
    rw [content?, hinner]
    simp [ihnodes hrest (by omega : (tokensAll nodes).length ≤ size), hname]

/-- A content that holds a value: a text, unless the value is empty. -/
def contentOf (value : String) : List Node := if value = "" then [] else [.text value]

/-- A field is written like the element that holds its value. -/
theorem Node.print_field (name value : String) :
    (field name value).print = (element name [] (contentOf value)).print := by
  rw [field, contentOf]
  split
  · next h => simp [h, print, printAll, escapeText]
  · rfl

theorem isTidy_contentOf (value : String) : IsTidy (contentOf value) := by
  rw [contentOf]
  split
  · exact .nil
  · next h => exact .text h (by simp) .nil

/-- The value is what the content amounts to. -/
theorem textOf?_contentOf (value : String) : textOf? (contentOf value) = some value := by
  rw [contentOf]
  split
  · next h => rw [h, textOf?]
  · simp [textOf?]

/-- A document is read back as the element that it was written for. -/
theorem parse?_format {name : String} {attributes : List (String × String)} {content : List Node}
    (h : IsTidy [.element name attributes content]) :
    parse? (Node.element name attributes content).format =
      some (.element name attributes content) := by
  let node : Node := .element name attributes content
  have hprint : printAll [node] ++ [] = node.print := by simp [printAll]
  have htokens := h.isCut_append (Text.stops_nil) isCut_nil
  rw [hprint] at htokens
  have hcontent := h.content?_append (.inl rfl) (Nat.le_refl _)
  rw [parse?, Node.format, String.toList_ofList, htokens _ (Nat.le_refl _)]
  simp only [List.append_nil] at hcontent ⊢
  simp [hcontent, Node.isBlank]

end ObjectStore.Xml
