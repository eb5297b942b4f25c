/-!
# Places in a text

A place in a text is told by the number of bytes before it. There is one before each
character and one at the end, and none within a character, so that a text cannot be cut
at every number of bytes.
-/

namespace ObjectStore.Text

/-- The number of bytes of a text. -/
def width : List Char → Nat
  | [] => 0
  | c :: s => c.utf8Size + width s

/-- A text in two parts, cut at a number of bytes; there are none if that is no place in it. -/
def cut? (n : Nat) : List Char → Option (List Char × List Char)
  | [] => if n = 0 then some ([], []) else none
  | c :: s =>
    if n = 0 then some ([], c :: s)
    else if c.utf8Size ≤ n then (cut? (n - c.utf8Size) s).map fun (t, u) => (c :: t, u)
    else none

/-- The text between two places, if they are such and in this order. -/
def between? (start stop : Nat) (s : List Char) : Option (List Char) := do
  if start ≤ stop then
    let (_, rest) ← cut? start s
    let (part, _) ← cut? (stop - start) rest
    return part
  else none

theorem width_append (s t : List Char) : width (s ++ t) = width s + width t := by
  induction s with
  | nil => rw [List.nil_append, width, Nat.zero_add]
  | cons c s ih => rw [List.cons_append, width, width, ih, Nat.add_assoc]

/-- A text can be cut after any part of it. -/
theorem cut?_append (s t : List Char) : cut? (width s) (s ++ t) = some (s, t) := by
  induction s with
  | nil => cases t <;> rfl
  | cons c s ih =>
    have hpos : width (c :: s) ≠ 0 := by
      have hsize := c.utf8Size_pos
      rw [width]
      omega
    rw [List.cons_append, cut?, if_neg hpos, width, if_pos (Nat.le_add_right ..),
      Nat.add_sub_cancel_left, ih, Option.map_some]

/-- The text between the two ends of a part is the part. -/
theorem between?_append (s t u : List Char) :
    between? (width s) (width s + width t) (s ++ t ++ u) = some t := by
  rw [between?, if_pos (Nat.le_add_right ..), List.append_assoc, cut?_append,
    Nat.add_sub_cancel_left]
  change (cut? (width t) (t ++ u)).bind _ = _
  rw [cut?_append]
  rfl

end ObjectStore.Text
