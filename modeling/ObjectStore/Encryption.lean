import ObjectStore.Error
import ObjectStore.Headers
import ObjectStore.Digest.Argon2
import ObjectStore.Digest.Md5
import ObjectStore.Text.Base64
import ObjectStore.Text.Quoted

/-!
# Encryption by the store

An object is encrypted under a key of the caller, under keys of the store, or
under keys of a key service. Each choice owns the headers that announce it, and
writing them touches no other header.
-/

namespace ObjectStore

/-- A key of the caller, with which the store encrypts by AES-256. -/
structure CustomerKey where
  /-- The bytes of the key. -/
  bytes : List UInt8
  /-- AES-256 takes keys of 32 bytes. -/
  length_bytes : bytes.length = 32
  deriving DecidableEq

namespace CustomerKey

/-- The key of 32 bytes; other lengths make no key. -/
def ofBytes (bytes : List UInt8) : Except Error CustomerKey :=
  if h : bytes.length = 32 then .ok ⟨bytes, h⟩
  else .error (.invalidArgument ("SSE-C key must be 32 bytes, got " ++ toString bytes.length))

/-- The key whose bytes are drawn one by one. -/
def ofFn (draw : Fin 32 → UInt8) : CustomerKey := ⟨List.ofFn draw, List.length_ofFn⟩

/-- The effort of deriving a key from a password: 64 MiB, once, in four lanes. -/
def derivationCost : Digest.Argon2.Cost := ⟨65536, 1, 4⟩

/-- The key that a password gives under a salt of at least 8 bytes. -/
def ofPassword (password salt : List UInt8) : Except Error CustomerKey :=
  if salt.length < 8 then .error (.invalidArgument "Key derivation failed: salt is too short")
  else ofBytes (Digest.Argon2.hash derivationCost 32 password salt)

/-- The text of the key in a header. -/
def base64 (key : CustomerKey) : String := Text.Base64.encode key.bytes

/-- The text of the key's MD5 digest in a header. -/
def md5Base64 (key : CustomerKey) : String := Text.Base64.encode (Digest.Md5.digest key.bytes)

/-- What a log may show of a key. -/
def redacted : String := "CustomerKey(<redacted>)"

end CustomerKey

/-- The keys under which the store encrypts an object. -/
inductive Encryption where
  /-- A key that the caller sends along. -/
  | customerKey (key : CustomerKey)
  /-- Keys of the store itself. -/
  | storeKeys
  /-- Keys of a key service, where `keyId` may name one. -/
  | keyService (keyId : Option String)
  deriving DecidableEq

namespace Encryption

/-- The headers of a choice, each with its value. -/
def headers : Encryption → List (String × String)
  | customerKey key =>
    [(HeaderName.customerAlgorithm, "AES256"), (HeaderName.customerKey, key.base64),
      (HeaderName.customerKeyMd5, key.md5Base64)]
  | storeKeys => [(HeaderName.encryption, "AES256")]
  | keyService none => [(HeaderName.encryption, "aws:kms")]
  | keyService (some keyId) =>
    [(HeaderName.encryption, "aws:kms"), (HeaderName.kmsKeyId, keyId)]

/-- Announce the choice, in place of what its headers held. -/
def contribute (choice : Encryption) (h : Headers) : Headers :=
  h.setAll choice.headers

/-- What a log may show of a choice. -/
def describe : Encryption → String
  | customerKey _ => "CustomerKey(" ++ CustomerKey.redacted ++ ")"
  | storeKeys => "S3"
  | keyService none => "Kms \x7b key_id: None \x7d"
  | keyService (some keyId) => "Kms \x7b key_id: Some(" ++ Text.Quoted.quote keyId ++ ") \x7d"

end Encryption

end ObjectStore
