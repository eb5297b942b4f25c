import ObjectStore.Encryption
import ObjectStore.Query

/-!
# Options of an upload

The headers of an upload: how the content is to be served, metadata and tags of
the user, and the encryption. Metadata is kept apart from all other headers by
how its names begin; tags travel as one header, encoded like a query, and are
checked against the limits of the store before anything is sent.
-/

namespace ObjectStore

/-- What an upload is to send along. -/
structure WriteOptions where
  /-- The media type of the content. -/
  contentType : Option String := none
  /-- How the content is encoded. -/
  contentEncoding : Option String := none
  /-- How a browser is to present the content. -/
  contentDisposition : Option String := none
  /-- How long the content may be kept by caches. -/
  cacheControl : Option String := none
  /-- The storage class of the object. -/
  storageClass : Option String := none
  /-- Metadata of the user. -/
  metadata : SortedMap String := ∅
  /-- Tags of the user. -/
  tags : SortedMap String := ∅
  /-- The encryption of the object. -/
  encryption : Option Encryption := none
  deriving DecidableEq, Inhabited

namespace WriteOptions

/-- The largest number of tags. -/
def maxTags : Nat := 10

/-- The largest number of characters of a tag's key. -/
def maxTagKeyLength : Nat := 128

/-- The largest number of characters of a tag's value. -/
def maxTagValueLength : Nat := 256

/-- The media type of content of which none is given. -/
def defaultContentType : String := "application/octet-stream"

/-- The limits that one tag must keep. -/
def validateTag (tag : String × String) : Except Error Unit :=
  if tag.1.isEmpty || maxTagKeyLength < tag.1.length then
    .error <| .invalidArgument <|
      "Tag key must be 1 to " ++ toString maxTagKeyLength ++ " characters: " ++ Text.Quoted.quote tag.1
  else if maxTagValueLength < tag.2.length then
    .error <| .invalidArgument <|
      "Tag value for " ++ Text.Quoted.quote tag.1 ++ " exceeds " ++ toString maxTagValueLength ++
        " characters"
  else .ok ()

/-- The limits that the tags must keep; the first one broken is reported, in the order of the keys. -/
def validate (o : WriteOptions) : Except Error Unit :=
  if maxTags < o.tags.size then
    .error <| .invalidArgument <|
      "Too many tags: " ++ toString o.tags.size ++ " (maximum " ++ toString maxTags ++ ")"
  else o.tags.entries.forM validateTag

/-- The header of a piece of metadata; a key that already names such a header is one. -/
def metadataName (key : String) : String :=
  if (HeaderName.metadataStart.toList.map Char.toLower).isPrefixOf (key.toList.map Char.toLower)
  then key else HeaderName.metadataStart ++ key

/-- The tags as a query, which is how they travel. -/
def tagQuery (o : WriteOptions) : Query :=
  o.tags.entries.foldl (fun q tag => q.set tag.1 tag.2) ∅

/-- The headers in the order in which they are set, a later one in place of an earlier of its name. -/
def fields (o : WriteOptions) : List (String × String) :=
  (HeaderName.contentType, o.contentType.getD defaultContentType)
    :: o.contentEncoding.toList.map (HeaderName.contentEncoding, ·)
    ++ o.contentDisposition.toList.map (HeaderName.contentDisposition, ·)
    ++ o.cacheControl.toList.map (HeaderName.cacheControl, ·)
    ++ o.storageClass.toList.map (HeaderName.storageClass, ·)
    ++ o.metadata.entries.map (fun entry => (metadataName entry.1, entry.2))
    ++ (if o.tags.isEmpty then [] else [(HeaderName.tagging, o.tagQuery.encode)])
    ++ (o.encryption.map Encryption.headers).getD []

/-- The headers to send. -/
def header (o : WriteOptions) : Headers :=
  Headers.setAll ∅ o.fields

end WriteOptions

end ObjectStore
