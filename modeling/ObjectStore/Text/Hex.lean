import ObjectStore.Text.Bytes

/-!
# Hexadecimal digits

One digit writes four bits. Writing is in upper or in lower case, reading takes
both. The bytes that were written are read back (`decode?_encode`), and `digit?_upperDigit`
and `number?_four` are the facts that the encoders with hexadecimal escapes rest on.
-/

namespace ObjectStore.Text.Hex

/-- The upper-case digit of a value below 16. -/
def upperDigit (n : Nat) : Char :=
  if n < 10 then Char.ofNat ('0'.toNat + n) else Char.ofNat ('A'.toNat + (n - 10))

/-- The lower-case digit of a value below 16. -/
def lowerDigit (n : Nat) : Char :=
  if n < 10 then Char.ofNat ('0'.toNat + n) else Char.ofNat ('a'.toNat + (n - 10))

/-- The value of a digit of either case. -/
def digit? (c : Char) : Option Nat :=
  if '0' ≤ c ∧ c ≤ '9' then some (c.toNat - '0'.toNat)
  else if 'A' ≤ c ∧ c ≤ 'F' then some (c.toNat - 'A'.toNat + 10)
  else if 'a' ≤ c ∧ c ≤ 'f' then some (c.toNat - 'a'.toNat + 10)
  else none

/-- A digit reads back as the value it was written for. -/
theorem digit?_upperDigit : ∀ n < 16, digit? (upperDigit n) = some n := by decide

/-- A digit reads back as the value it was written for. -/
theorem digit?_lowerDigit : ∀ n < 16, digit? (lowerDigit n) = some n := by decide

/-- The number that a row of digits writes, `none` if one of them is no digit. -/
def number? (digits : List Char) : Option Nat :=
  digits.foldlM (fun n c => (digit? c).map (16 * n + ·)) 0

/-- A number below 65536 as four digits, in the case that `digit` writes. -/
def four (digit : Nat → Char) (n : Nat) : List Char :=
  [digit (n / 4096 % 16), digit (n / 256 % 16), digit (n / 16 % 16), digit (n % 16)]

/-- Four digits read back as the number below 65536 that they were written for. -/
theorem number?_four {digit : Nat → Char} (h : ∀ n < 16, digit? (digit n) = some n) {n : Nat}
    (hn : n < 65536) : number? (four digit n) = some n := by
  simp only [number?, four, List.foldlM_cons, List.foldlM_nil, h _ (Nat.mod_lt _ (by decide)),
    Option.map_some, Option.bind_eq_bind, Option.bind_some, Option.pure_def, Option.some.injEq]
  omega

/-- The two lower-case digits of each byte. -/
def encode (bytes : List UInt8) : String :=
  String.ofList (bytes.flatMap fun b => [lowerDigit (b.toNat / 16), lowerDigit (b.toNat % 16)])

/-- The bytes that pairs of digits write. -/
def decodeChars : List Char → Option (List UInt8)
  | [] => some []
  | [_] => none
  | hi :: lo :: rest => do
    let h ← digit? hi
    let l ← digit? lo
    let bytes ← decodeChars rest
    return UInt8.ofNat (16 * h + l) :: bytes

/-- The bytes that a text of digit pairs writes. -/
def decode? (s : String) : Option (List UInt8) := decodeChars s.toList

/-- Reading the digits of bytes gives the bytes. -/
theorem decode?_encode (bytes : List UInt8) : decode? (encode bytes) = some bytes := by
  rw [decode?, encode, String.toList_ofList]
  induction bytes with
  | nil => rfl
  | cons b bytes ih =>
    have hb := b.toNat_lt
    have hn : 16 * (b.toNat / 16) + b.toNat % 16 = b.toNat := by omega
    rw [List.flatMap_cons, List.cons_append, List.cons_append, List.nil_append, decodeChars,
      digit?_lowerDigit _ (by omega), digit?_lowerDigit _ (by omega), ih]
    simp only [Option.bind_eq_bind, Option.bind_some, hn, UInt8.ofNat_toNat]
    rfl

end ObjectStore.Text.Hex
