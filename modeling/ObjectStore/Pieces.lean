/-!
# Lists in pieces

A list is cut into pieces of a fixed length from its start on; only the last piece
may be shorter. Put together again the pieces are the list (`flatten_pieces`), and
no piece is empty or too long.
-/

namespace ObjectStore

variable {α : Type}

/-- The pieces of a list, of `size` elements each; a piece has at least one. -/
def pieces (size : Nat) : List α → List (List α)
  | [] => []
  | a :: rest => (a :: rest.take (size - 1)) :: pieces size (rest.drop (size - 1))
termination_by l => l.length
decreasing_by rw [List.length_drop, List.length_cons]; omega

@[simp] theorem pieces_nil (size : Nat) : pieces size ([] : List α) = [] := by
  rw [pieces]

/-- The pieces in a row are the list. -/
@[simp] theorem flatten_pieces (size : Nat) (l : List α) : (pieces size l).flatten = l := by
  fun_induction pieces size l with
  | case1 => rfl
  | case2 a rest ih => rw [List.flatten_cons, ih, List.cons_append, List.take_append_drop]

/-- A piece is not empty. -/
theorem ne_nil_of_mem_pieces {size : Nat} {l piece : List α} (h : piece ∈ pieces size l) :
    piece ≠ [] := by
  fun_induction pieces size l with
  | case1 => exact nomatch h
  | case2 a rest ih =>
    rcases List.mem_cons.mp h with rfl | h
    · exact List.cons_ne_nil _ _
    · exact ih h

/-- A piece has no more elements than it may. -/
theorem length_le_of_mem_pieces {size : Nat} (hs : 0 < size) {l piece : List α}
    (h : piece ∈ pieces size l) : piece.length ≤ size := by
  fun_induction pieces size l with
  | case1 => exact nomatch h
  | case2 a rest ih =>
    rcases List.mem_cons.mp h with rfl | h
    · rw [List.length_cons, List.length_take]
      omega
    · exact ih h

/-- Every piece but the last is full. -/
theorem length_eq_of_mem_dropLast_pieces {size : Nat} (hs : 0 < size) {l piece : List α}
    (h : piece ∈ (pieces size l).dropLast) : piece.length = size := by
  fun_induction pieces size l with
  | case1 => exact nomatch h
  | case2 a rest ih =>
    cases hd : rest.drop (size - 1) with
    | nil =>
      rw [hd, pieces_nil] at h
      exact nomatch h
    | cons b tail =>
      have hl : (rest.drop (size - 1)).length = tail.length + 1 := by rw [hd, List.length_cons]
      rw [List.length_drop] at hl
      have hne : pieces size (rest.drop (size - 1)) ≠ [] := by
        rw [hd, pieces]
        exact List.cons_ne_nil _ _
      rw [List.dropLast_cons_of_ne_nil hne] at h
      rcases List.mem_cons.mp h with rfl | h
      · rw [List.length_cons, List.length_take]
        omega
      · exact ih h

/-- The number of pieces is that of the elements by their size, rounded up. -/
theorem length_pieces {size : Nat} (hs : 0 < size) (l : List α) :
    (pieces size l).length = (l.length + (size - 1)) / size := by
  fun_induction pieces size l with
  | case1 => rw [List.length_nil, List.length_nil, Nat.zero_add, Nat.div_eq_of_lt (by omega)]
  | case2 a rest ih =>
    have hsum : (a :: rest).length + (size - 1) = rest.length + size := by
      rw [List.length_cons]
      omega
    rw [List.length_cons, ih, List.length_drop, hsum, Nat.add_div_right _ hs]
    -- Only where the first piece is full there is more to be divided.
    rcases Nat.le_total (size - 1) rest.length with hle | hlt
    · rw [Nat.sub_add_cancel hle]
    · rw [Nat.sub_eq_zero_of_le hlt, Nat.zero_add, Nat.div_eq_of_lt (by omega),
        Nat.div_eq_of_lt (by omega)]

/-- A list of at most `size` elements is one piece. -/
theorem pieces_eq_singleton {size : Nat} {l : List α} (hl : l ≠ []) (h : l.length ≤ size) :
    pieces size l = [l] := by
  cases l with
  | nil => exact absurd rfl hl
  | cons a rest =>
    rw [List.length_cons] at h
    rw [pieces, List.take_of_length_le (by omega), List.drop_of_length_le (by omega), pieces_nil]

/-- A full first piece is cut off. -/
theorem pieces_append {size : Nat} (hs : 0 < size) {first : List α} (h : first.length = size)
    (rest : List α) : pieces size (first ++ rest) = first :: pieces size rest := by
  cases first with
  | nil => subst h; exact absurd hs (Nat.lt_irrefl 0)
  | cons a first =>
    rw [List.length_cons] at h
    have hl : first.length = size - 1 := by omega
    rw [List.cons_append, pieces, ← hl, List.take_left, List.drop_left]

end ObjectStore
