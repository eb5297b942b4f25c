import ObjectStore.Text.Hex

/-!
# Percent-encoding

A text is written byte by byte: a byte that stands for itself is kept, any other
becomes `%` and two upper-case hexadecimal digits. Which bytes are kept is a
parameter, because a path keeps its slashes and a query does not. Decoding undoes
the encoding for every such choice that does not keep the percent sign itself.
-/

namespace ObjectStore.Text.Percent

/-- The characters that no part of a URL gives a meaning to. -/
def isUnreserved (c : Char) : Bool :=
  c.isAlphanum || c == '-' || c == '_' || c == '.' || c == '~'

/-- Whether a byte is the code of a character that `keep` accepts. -/
def keeps (keep : Char → Bool) (b : UInt8) : Bool :=
  b < 128 && keep (Char.ofNat b.toNat)

/-- One byte, kept or escaped. -/
def encodeByte (keep : Char → Bool) (b : UInt8) : List Char :=
  if keeps keep b then [Char.ofNat b.toNat]
  else ['%', Hex.upperDigit (b.toNat / 16), Hex.upperDigit (b.toNat % 16)]

/-- The bytes in order, each kept or escaped. -/
def encodeBytes (keep : Char → Bool) (bytes : List UInt8) : List Char :=
  bytes.flatMap (encodeByte keep)

/-- A text in which only unreserved characters stand for themselves. -/
def encode (s : String) : String := String.ofList (encodeBytes isUnreserved (utf8 s))

/-- A text in which slashes stand for themselves too, as the segments of a path do. -/
def encodePath (s : String) : String :=
  String.ofList (encodeBytes (fun c => isUnreserved c || c == '/') (utf8 s))

/-- The bytes that a percent-encoded text stands for; a malformed escape stands for none. -/
def decodeBytes : List Char → Option (List UInt8)
  | [] => some []
  | '%' :: hi :: lo :: rest => do
    let h ← Hex.digit? hi
    let l ← Hex.digit? lo
    let bytes ← decodeBytes rest
    return UInt8.ofNat (16 * h + l) :: bytes
  | c :: rest =>
    if c = '%' then none else (decodeBytes rest).map (String.utf8EncodeChar c ++ ·)

/-- The text that a percent-encoded text stands for. -/
def decode? (s : List Char) : Option String := (decodeBytes s).bind ofUtf8?

private theorem utf8EncodeChar_ofNat : ∀ n < 128, String.utf8EncodeChar (Char.ofNat n) = [UInt8.ofNat n] := by
  decide

/-- What stands for itself is read as itself, and what is escaped is read from its two digits. -/
theorem decodeBytes_encodeByte_append {keep : Char → Bool} (hk : keep '%' = false) (b : UInt8)
    (rest : List Char) :
    decodeBytes (encodeByte keep b ++ rest) = (decodeBytes rest).map (b :: ·) := by
  rw [encodeByte]
  split
  · rename_i h
    rw [keeps, Bool.and_eq_true, decide_eq_true_eq] at h
    have hlt : b.toNat < 128 := UInt8.lt_iff_toNat_lt.mp h.1
    have hne : Char.ofNat b.toNat ≠ '%' := fun he => by simp [he, hk] at h
    rw [List.singleton_append, decodeBytes, if_neg hne, utf8EncodeChar_ofNat _ hlt, UInt8.ofNat_toNat]
    · rfl
    · exact fun _ _ _ he _ => hne he
  · have hb := b.toNat_lt
    rw [List.cons_append, List.cons_append, List.singleton_append, decodeBytes,
      Hex.digit?_upperDigit _ (by omega), Hex.digit?_upperDigit _ (by omega)]
    have hn : 16 * (b.toNat / 16) + b.toNat % 16 = b.toNat := by omega
    simp only [Option.bind_eq_bind, Option.bind_some, hn, UInt8.ofNat_toNat]
    cases decodeBytes rest <;> rfl

/-- Reading what is written for bytes gives the bytes, if the percent sign is always escaped. -/
theorem decodeBytes_encodeBytes {keep : Char → Bool} (hk : keep '%' = false) (bytes : List UInt8) :
    decodeBytes (encodeBytes keep bytes) = some bytes := by
  induction bytes with
  | nil => rfl
  | cons b bytes ih =>
    rw [encodeBytes, List.flatMap_cons, decodeBytes_encodeByte_append hk, ← encodeBytes, ih]
    rfl

/-- Reading what is written for a text gives the text. -/
theorem decode?_encode (s : String) : decode? (encode s).toList = some s := by
  rw [encode, String.toList_ofList, decode?, decodeBytes_encodeBytes rfl]
  exact ofUtf8?_utf8 s

end ObjectStore.Text.Percent
