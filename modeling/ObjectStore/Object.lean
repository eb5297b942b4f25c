import ObjectStore.Time.Instant

/-!
# Objects of a store

What a listing says of an object, how an object is named for removal, and how
long it is locked. A listing that stops at slashes also has entries for the common
beginnings of keys, which name no object.
-/

namespace ObjectStore

/-- An entry of a listing: an object, or a common beginning of keys. -/
structure ObjectEntry where
  /-- The key, or the common beginning of keys. -/
  key : String
  /-- The size in bytes. -/
  size : Int64
  /-- The instant of the last change. -/
  lastModified : Option Time.Instant := none
  /-- The tag of the content. -/
  etag : String := ""
  /-- The version. -/
  versionId : Option String := none
  /-- The storage class. -/
  storageClass : Option String := none
  /-- Whether this is a common beginning of keys. -/
  isCommonPrefix : Bool := false
  deriving DecidableEq, Repr

/-- The entry of a common beginning of keys. -/
def ObjectEntry.commonPrefix (key : String) : ObjectEntry :=
  { key, size := 0, isCommonPrefix := true }

/-- An object to be removed: the whole object, or one version of it. -/
structure ObjectId where
  /-- The key. -/
  key : String
  /-- The version, if only one is meant. -/
  versionId : Option String := none
  deriving DecidableEq, Repr

/-- The object that an entry describes. -/
def ObjectEntry.id (entry : ObjectEntry) : ObjectId := ⟨entry.key, entry.versionId⟩

/-- What the store says of one object. -/
structure ObjectMetadata where
  /-- The key. -/
  key : String
  /-- The size in bytes. -/
  size : Int
  /-- The media type of the content. -/
  contentType : String
  /-- The instant of the last change. -/
  lastModified : Option Time.Instant
  /-- The tag of the content. -/
  etag : String
  /-- The version. -/
  versionId : Option String
  deriving DecidableEq, Repr

/-- What the store answers to an upload. -/
structure UploadReceipt where
  /-- The tag of the content. -/
  etag : String
  /-- The version that the upload made. -/
  versionId : Option String
  deriving DecidableEq, Repr

/-- Who may lift the lock of an object before it ends. -/
inductive RetentionMode where
  /-- Users with a special right. -/
  | governance
  /-- Nobody. -/
  | compliance
  deriving DecidableEq, Repr

namespace RetentionMode

/-- The name of a mode. -/
def name : RetentionMode → String
  | governance => "Governance"
  | compliance => "Compliance"

/-- The word for a mode in requests and answers. -/
def word : RetentionMode → String
  | governance => "GOVERNANCE"
  | compliance => "COMPLIANCE"

/-- The mode that a word stands for, in whatever case it is written. -/
def ofWord? (word : String) : Option RetentionMode :=
  let upper := word.map Char.toUpper
  if upper = governance.word then some governance
  else if upper = compliance.word then some compliance
  else none

end RetentionMode

/-- The lock of an object. -/
structure Retention where
  /-- Who may lift the lock. -/
  mode : Option RetentionMode := none
  /-- The instant at which the lock ends. -/
  lockedUntil : Option Time.Instant := none
  deriving DecidableEq, Repr

end ObjectStore
