import ObjectStore.Text.Decimal

/-!
# Byte ranges

A read of a part of an object names the part in one of three ways: by how many
bytes it is from the end, by where it starts, or by its two ends. The part is
written as it stands in a header and read back by `parse?`; `select` says which
bytes of an object of a given length it is.
-/

namespace ObjectStore

open ObjectStore.Text (Decimal.nat?)

/-- A part of an object. -/
inductive ByteRange where
  /-- The last `count` bytes. -/
  | suffix (count : Nat)
  /-- Everything from the byte at `first` on. -/
  | startingAt (first : Nat)
  /-- The bytes from `first` to `last`, both included. -/
  | between (first last : Nat)
  deriving DecidableEq, Repr

namespace ByteRange

/--
The part that a pair of numbers asks for. A negative end counts from the end of the object, an end of
zero after a positive start leaves the end open, and otherwise the pair names both ends.
-/
def ofBounds? (first last : Int) : Option ByteRange :=
  if first = 0 ∧ last < 0 then some (.suffix last.natAbs)
  else if 0 < first ∧ last = 0 then some (.startingAt first.toNat)
  else if 0 ≤ first ∧ first ≤ last then some (.between first.toNat last.toNat)
  else none

/-- The part as it stands in the `Range` header. -/
def format : ByteRange → String
  | suffix count => "bytes=-" ++ toString count
  | startingAt first => "bytes=" ++ toString first ++ "-"
  | between first last => "bytes=" ++ toString first ++ "-" ++ toString last

/-- The part of what stands before the hyphen of a range, and of the hyphen with what follows it. -/
def ofBoundTexts? : List Char → List Char → Option ByteRange
  | _, [] => none
  | [], _ :: count => (Decimal.nat? count).map suffix
  | first, [_] => (Decimal.nat? first).map startingAt
  | first, _ :: last => do
    let first ← Decimal.nat? first
    let last ← Decimal.nat? last
    if first ≤ last then return between first last else none

/-- The part that a `Range` header names. A part that ends before it starts is none. -/
def parse? (text : String) : Option ByteRange :=
  match text.toList with
  | 'b' :: 'y' :: 't' :: 'e' :: 's' :: '=' :: bounds =>
    ofBoundTexts? (bounds.takeWhile (· ≠ '-')) (bounds.dropWhile (· ≠ '-'))
  | _ => none

/-- The offset of the first selected byte and the number of bytes, in an object of `length` bytes. -/
def select (range : ByteRange) (length : Nat) : Nat × Nat :=
  match range with
  | suffix count => (length - count, min count length)
  | startingAt first => (first, length - first)
  | between first last => (first, min (last + 1) length - first)

end ByteRange

end ObjectStore
