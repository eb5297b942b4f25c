import ObjectStore.ReadOptions

/-!
# Settings of a read

The options of a read come about setting by setting. A setting may be refused, and
then leaves the options as they were, so that a list of settings always makes
options, whichever of them are refused.
-/

namespace ObjectStore

/-- One setting of a read. -/
inductive ReadSetting where
  /-- Send a header. -/
  | header (name value : String)
  /-- Send a query key with this value only. -/
  | param (key value : String)
  /-- Send a query key with one more value. -/
  | moreParam (key value : String)
  /-- Read only if the object has this tag. -/
  | ifMatch (etag : String)
  /-- Read only if the object has another tag. -/
  | ifNoneMatch (etag : String)
  /-- Read only if the object changed after this instant. -/
  | ifModifiedSince (time : Time.Instant)
  /-- Read only if the object did not change after this instant. -/
  | ifUnmodifiedSince (time : Time.Instant)
  /-- Read only the part that a pair of numbers asks for. -/
  | range (first last : Int)
  /-- Read this version. -/
  | version (id : String)
  /-- Read this part. -/
  | part (number : Nat)
  /-- Ask for checksums, or no longer ask for them. -/
  | checksum (wanted : Bool)
  /-- The encryption of the object. -/
  | encryption (choice : Encryption)
  /-- Mark the read as passed on by another site, or take the mark away. -/
  | sourceProxy (mark : Option String)
  deriving DecidableEq

namespace ReadOptions

/-- The options with one more setting, unless it is refused. -/
def apply (o : ReadOptions) : ReadSetting → Except Error ReadOptions
  | .header name value => .ok (o.setHeader name value)
  | .param key value => .ok (o.setParam key value)
  | .moreParam key value => .ok (o.addParam key value)
  | .ifMatch etag => o.setMatch etag
  | .ifNoneMatch etag => o.setMatchExcept etag
  | .ifModifiedSince time => o.setModifiedSince time
  | .ifUnmodifiedSince time => o.setUnmodifiedSince time
  | .range first last => o.setRange first last
  | .version id => .ok { o with versionId := some id }
  | .part number => .ok { o with partNumber := some number }
  | .checksum wanted => .ok { o with checksum := wanted }
  | .encryption choice => .ok { o with encryption := some choice }
  | .sourceProxy mark => .ok { o with sourceProxy := mark }

/-- The options after a setting, which are the same as before if it is refused. -/
def adopt (o : ReadOptions) (setting : ReadSetting) : ReadOptions :=
  match o.apply setting with
  | .ok o => o
  | .error _ => o

/-- The options after all settings of a list. -/
def adoptAll (o : ReadOptions) (settings : List ReadSetting) : ReadOptions :=
  settings.foldl adopt o

/-- The options that settings make. -/
def ofSettings (settings : List ReadSetting) : ReadOptions := adoptAll {} settings

end ReadOptions

end ObjectStore
