import ObjectStore.Text.Bytes

/-!
# Base64

Three bytes are written as four symbols of six bits; a last group of one or two
bytes is filled up with `=`. The reader takes exactly that form, and gives back the
bytes that were written (`decode?_encode`).
-/

namespace ObjectStore.Text.Base64

/-- The symbol of a value below 64. -/
def symbol (n : Nat) : Char :=
  if n < 26 then Char.ofNat ('A'.toNat + n)
  else if n < 52 then Char.ofNat ('a'.toNat + (n - 26))
  else if n < 62 then Char.ofNat ('0'.toNat + (n - 52))
  else if n = 62 then '+' else '/'

/-- The value of a symbol. -/
def value? (c : Char) : Option Nat :=
  if 'A' ≤ c ∧ c ≤ 'Z' then some (c.toNat - 'A'.toNat)
  else if 'a' ≤ c ∧ c ≤ 'z' then some (c.toNat - 'a'.toNat + 26)
  else if '0' ≤ c ∧ c ≤ '9' then some (c.toNat - '0'.toNat + 52)
  else if c = '+' then some 62
  else if c = '/' then some 63
  else none

/-- A symbol reads back as the value it was written for. -/
theorem value?_symbol : ∀ n < 64, value? (symbol n) = some n := by decide

/-- The symbols of the bytes, group by group. -/
def encodeBytes : List UInt8 → List Char
  | [] => []
  | [a] => [symbol (a.toNat / 4), symbol (a.toNat % 4 * 16), '=', '=']
  | [a, b] =>
    [symbol (a.toNat / 4), symbol (a.toNat % 4 * 16 + b.toNat / 16), symbol (b.toNat % 16 * 4), '=']
  | a :: b :: c :: rest =>
    symbol (a.toNat / 4) :: symbol (a.toNat % 4 * 16 + b.toNat / 16) ::
      symbol (b.toNat % 16 * 4 + c.toNat / 64) :: symbol (c.toNat % 64) :: encodeBytes rest

/-- The bytes in Base64. -/
def encode (bytes : List UInt8) : String := String.ofList (encodeBytes bytes)

/-- The bytes that a row of symbols writes; filling is allowed in the last group only. -/
def decodeBytes : List Char → Option (List UInt8)
  | [] => some []
  | [w, x, '=', '='] => do
    let p ← value? w
    let q ← value? x
    if q % 16 = 0 then return [UInt8.ofNat (p * 4 + q / 16)] else none
  | [w, x, y, '='] => do
    let p ← value? w
    let q ← value? x
    let r ← value? y
    if r % 4 = 0 then
      return [UInt8.ofNat (p * 4 + q / 16), UInt8.ofNat (q % 16 * 16 + r / 4)]
    else none
  | w :: x :: y :: z :: rest => do
    let p ← value? w
    let q ← value? x
    let r ← value? y
    let s ← value? z
    let bytes ← decodeBytes rest
    return UInt8.ofNat (p * 4 + q / 16) :: UInt8.ofNat (q % 16 * 16 + r / 4) ::
      UInt8.ofNat (r % 4 * 64 + s) :: bytes
  | _ => none

/-- The bytes that a Base64 text writes. -/
def decode? (s : String) : Option (List UInt8) := decodeBytes s.toList

/-- Symbols are not the filling. -/
theorem symbol_ne_filling : ∀ n < 64, symbol n ≠ '=' := by decide

private theorem ofNat_eq {b : UInt8} {n : Nat} (h : n = b.toNat) : UInt8.ofNat n = b := by
  rw [h, UInt8.ofNat_toNat]

/-- Reading the symbols of bytes gives the bytes. -/
theorem decodeBytes_encodeBytes (bytes : List UInt8) : decodeBytes (encodeBytes bytes) = some bytes := by
  fun_induction encodeBytes bytes with
  | case1 => rfl
  | case2 a =>
    have ha := a.toNat_lt
    rw [decodeBytes, value?_symbol _ (by omega), value?_symbol _ (by omega)]
    simp only [Option.bind_eq_bind, Option.bind_some, if_pos (show a.toNat % 4 * 16 % 16 = 0 by omega)]
    rw [ofNat_eq (show a.toNat / 4 * 4 + a.toNat % 4 * 16 / 16 = a.toNat by omega)]
    rfl
  | case3 a b =>
    have ha := a.toNat_lt
    have hb := b.toNat_lt
    have hs := symbol_ne_filling (b.toNat % 16 * 4) (by omega)
    rw [decodeBytes, value?_symbol _ (by omega), value?_symbol _ (by omega), value?_symbol _ (by omega)]
    simp only [Option.bind_eq_bind, Option.bind_some, if_pos (show b.toNat % 16 * 4 % 4 = 0 by omega)]
    rw [ofNat_eq (b := a) (by omega), ofNat_eq (b := b) (by omega)]
    · rfl
    · exact hs
  | case4 a b c rest ih =>
    have ha := a.toNat_lt
    have hb := b.toNat_lt
    have hc := c.toNat_lt
    have hz := symbol_ne_filling (c.toNat % 64) (by omega)
    rw [decodeBytes, value?_symbol _ (by omega), value?_symbol _ (by omega),
      value?_symbol _ (by omega), value?_symbol _ (by omega), ih]
    · simp only [Option.bind_eq_bind, Option.bind_some]
      rw [ofNat_eq (b := a) (by omega), ofNat_eq (b := b) (by omega), ofNat_eq (b := c) (by omega)]
      rfl
    · exact fun _ h => absurd h hz
    · exact fun h => absurd h hz

/-- Reading the Base64 text of bytes gives the bytes. -/
theorem decode?_encode (bytes : List UInt8) : decode? (encode bytes) = some bytes := by
  rw [decode?, encode, String.toList_ofList, decodeBytes_encodeBytes]

end ObjectStore.Text.Base64
