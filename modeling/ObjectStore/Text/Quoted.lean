import ObjectStore.Text.Classes

/-!
# Quoted text in messages

A message shows a text of the caller between double quotes, with everything a
reader could not see or could misread escaped: the quote and the backslash, the
common controls by letter, and other invisible or attaching characters by number.
-/

namespace ObjectStore.Text.Quoted

/-- One character as it stands between the quotes. -/
def escape (c : Char) : List Char :=
  if c = '"' then ['\\', '"']
  else if c = '\\' then ['\\', '\\']
  else if c = '\n' then ['\\', 'n']
  else if c = '\r' then ['\\', 'r']
  else if c = '\t' then ['\\', 't']
  else if c = '\x00' then ['\\', '0']
  else if isPrintable c && !isAttaching c then [c]
  else ['\\', 'u', '\x7b'] ++ Nat.toDigits 16 c.toNat ++ ['\x7d']

/-- The text between quotes. -/
def quote (s : String) : String :=
  String.ofList ('"' :: s.toList.flatMap escape ++ ['"'])

end ObjectStore.Text.Quoted
