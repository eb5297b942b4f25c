import ObjectStore.ReadOptions.Setting

/-!
# Settings in place

A caller holds options and changes them in place, setting by setting. A setting looks at what it
is given and then changes the options; nothing that was changed before a refusal would be undone.
So it is the order of the two that keeps options as they are when a setting is refused, and with
it a setting in place does what the setting says (`run_perform`), to the caller's options as well.
-/

namespace ObjectStore

namespace ReadOptions

/-- A change of options in place, which may be refused halfway. -/
abbrev Change := ExceptT Error (StateM ReadOptions) Unit

/-- What comes of a change, and the options after it. -/
def Change.runOn (change : Change) (o : ReadOptions) : Except Error Unit × ReadOptions :=
  change.run.run o

/-- Send a header, in place of the value it had. -/
def sendHeader (name value : String) : Change := modify (·.setHeader name value)

/-- Send a condition on the tag; there is no empty tag. -/
def sendTag (name etag : String) : Change := do
  if etag.isEmpty then throw (.invalidArgument "ETag cannot be empty")
  sendHeader name (quotedTag etag)

/-- Send a condition on the date of the last change; the start of 1970 stands for no date. -/
def sendDate (name subject : String) (time : Time.Instant) : Change := do
  if time = .epoch then throw (.invalidArgument (subject ++ " cannot be empty"))
  sendHeader name (Time.HttpDate.format time)

/-- Send the part of the object that a pair of numbers asks for. -/
def sendRange (first last : Int) : Change :=
  match ByteRange.ofBounds? first last with
  | some range => sendHeader HeaderName.range range.format
  | none => throw <| .invalidArgument <|
      "Invalid range specified: start=" ++ toString first ++ " end=" ++ toString last

/-- A setting in place. -/
def perform : ReadSetting → Change
  | .header name value => sendHeader name value
  | .param key value => modify (·.setParam key value)
  | .moreParam key value => modify (·.addParam key value)
  | .ifMatch etag => sendTag HeaderName.ifMatch etag
  | .ifNoneMatch etag => sendTag HeaderName.ifNoneMatch etag
  | .ifModifiedSince time => sendDate HeaderName.ifModifiedSince "Modified since" time
  | .ifUnmodifiedSince time => sendDate HeaderName.ifUnmodifiedSince "Unmodified since" time
  | .range first last => sendRange first last
  | .version id => modify ({ · with versionId := some id })
  | .part number => modify ({ · with partNumber := some number })
  | .checksum wanted => modify ({ · with checksum := wanted })
  | .encryption choice => modify ({ · with encryption := some choice })
  | .sourceProxy mark => modify ({ · with sourceProxy := mark })

/-- The options of a caller who makes all settings of a list and goes on after a refusal. -/
def performAll (o : ReadOptions) (settings : List ReadSetting) : ReadOptions :=
  settings.foldl (fun o setting => ((perform setting).runOn o).2) o

/-! ## What a setting in place does -/

theorem runOn_sendTag (o : ReadOptions) (name etag : String) :
    (sendTag name etag).runOn o =
      if etag.isEmpty then (.error (.invalidArgument "ETag cannot be empty"), o)
      else (.ok (), o.setHeader name (quotedTag etag)) := by
  rw [sendTag]
  split <;> rfl

theorem runOn_sendDate (o : ReadOptions) (name subject : String) (time : Time.Instant) :
    (sendDate name subject time).runOn o =
      if time = .epoch then (.error (.invalidArgument (subject ++ " cannot be empty")), o)
      else (.ok (), o.setHeader name (Time.HttpDate.format time)) := by
  rw [sendDate]
  split <;> rfl

theorem runOn_sendRange (o : ReadOptions) (first last : Int) :
    (sendRange first last).runOn o =
      match ByteRange.ofBounds? first last with
      | some range => (.ok (), o.setHeader HeaderName.range range.format)
      | none => (.error <| .invalidArgument <|
          "Invalid range specified: start=" ++ toString first ++ " end=" ++ toString last, o) := by
  rw [sendRange]
  split <;> rfl

/-- A setting in place is accepted when the setting is, and leaves the options that it makes. -/
theorem run_perform (o : ReadOptions) (setting : ReadSetting) :
    (perform setting).runOn o = ((o.apply setting).map fun _ => (), o.adopt setting) := by
  cases setting with
  | ifMatch etag | ifNoneMatch etag =>
    rw [perform, runOn_sendTag, adopt, apply]
    by_cases h : etag.isEmpty = true
    · simp [setMatch, setMatchExcept, setTagCondition, h, Except.map]
    · simp [setMatch, setMatchExcept, setTagCondition, h, Except.map]
  | ifModifiedSince time | ifUnmodifiedSince time =>
    rw [perform, runOn_sendDate, adopt, apply]
    by_cases h : time = .epoch
    · simp [setModifiedSince, setUnmodifiedSince, setDateCondition, h, Except.map]
    · simp [setModifiedSince, setUnmodifiedSince, setDateCondition, h, Except.map]
  | range first last =>
    rw [perform, runOn_sendRange, adopt, apply, setRange]
    cases ByteRange.ofBounds? first last <;> rfl
  | _ => rfl

theorem performAll_eq_adoptAll (o : ReadOptions) (settings : List ReadSetting) :
    o.performAll settings = o.adoptAll settings := by
  rw [performAll, adoptAll]
  congr
  funext o setting
  rw [run_perform]

end ReadOptions

end ObjectStore
