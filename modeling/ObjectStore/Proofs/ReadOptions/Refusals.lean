import ObjectStore.Proofs.Headers.Sequences
import ObjectStore.Proofs.ReadOptions.Precedence
import ObjectStore.ReadOptions.InPlace

/-!
# Settings that may be refused

Conditions and ranges are looked at before they are sent. A refused one leaves no trace, and an
accepted one changes the header of its own name and nothing else, also in what is sent in the end,
where the headers of the choices stand over those of the settings.
-/

namespace ObjectStore

namespace ReadSetting

/-- The name of the header of a setting that looks at what it is given. -/
def checkedName? : ReadSetting → Option String
  | .ifMatch _ => some HeaderName.ifMatch
  | .ifNoneMatch _ => some HeaderName.ifNoneMatch
  | .ifModifiedSince _ => some HeaderName.ifModifiedSince
  | .ifUnmodifiedSince _ => some HeaderName.ifUnmodifiedSince
  | .range _ _ => some HeaderName.range
  | _ => none

variable {setting : ReadSetting} {name : String}

theorem isSending_of_checkedName? (h : setting.checkedName? = some name) :
    setting.isSending = true := by
  cases setting with
  | ifMatch | ifNoneMatch | ifModifiedSince | ifUnmodifiedSince | range => rfl
  | _ => cases h

/-- A setting that looks at what it is given sends its own header, if any. -/
theorem name_of_checkedName? (h : setting.checkedName? = some name) {field : String × String}
    (hfield : setting.field? = some field) : field.1 = name := by
  cases setting with
  | ifMatch | ifNoneMatch | ifModifiedSince | ifUnmodifiedSince =>
    cases h
    rw [field?] at hfield
    split at hfield
    · cases hfield
    · cases hfield
      rfl
  | range first last =>
    cases h
    obtain ⟨range, _, rfl⟩ := Option.map_eq_some_iff.mp hfield
    rfl
  | _ => cases h

/-- No choice sends a header of such a setting. -/
theorem not_choice_of_checkedName? (h : setting.checkedName? = some name) :
    ∀ choice ∈ ReadOptions.choiceNames, ReadOptions.addresses name choice = false := by
  have hnames : ∀ name ∈ [HeaderName.ifMatch, HeaderName.ifNoneMatch, HeaderName.ifModifiedSince,
      HeaderName.ifUnmodifiedSince, HeaderName.range], ∀ choice ∈ ReadOptions.choiceNames,
      ReadOptions.addresses name choice = false := by
    decide +kernel
  apply hnames
  cases setting with
  | ifMatch | ifNoneMatch | ifModifiedSince | ifUnmodifiedSince | range =>
    cases h
    simp
  | _ => cases h

end ReadSetting

namespace ReadOptions

variable {setting : ReadSetting} {name : String}

/-- A header that no choice sends can as well be set among the headers to send. -/
theorem header_setHeader (o : ReadOptions) (value : String)
    (h : ∀ choice ∈ choiceNames, addresses name choice = false) :
    (o.setHeader name value).header = o.header.set name value := by
  apply Headers.ext_get?
  intro other
  rw [Headers.get?_set]
  by_cases hn : HeaderName.canonical other = HeaderName.canonical name
  · have hother : ∀ choice ∈ choiceNames, addresses other choice = false := by
      intro choice hc
      rw [addresses, hn]
      exact h choice hc
    rw [if_pos hn, get?_header_of_not_choice _ hother, setHeader, Headers.get?_set, if_pos hn]
  · rw [if_neg hn, get?_header, get?_header, setHeader, Headers.get?_set, if_neg hn]

/-- A setting that looks at what it is given is refused and does nothing, or sends its header. -/
theorem runOn_perform_of_checkedName? (o : ReadOptions) (h : setting.checkedName? = some name) :
    (∃ message, setting.field? = none ∧
      (perform setting).runOn o = (.error (.invalidArgument message), o)) ∨
    ∃ value, setting.field? = some (name, value) ∧
      (perform setting).runOn o = (.ok (), o.setHeader name value) := by
  rw [run_perform, adopt]
  rcases o.apply_of_isSending (setting.isSending_of_checkedName? h) with
    ⟨⟨name', value⟩, hfield, happly⟩ | ⟨message, hfield, happly⟩
  · obtain rfl : name' = name := setting.name_of_checkedName? h hfield
    rw [happly]
    exact .inr ⟨value, hfield, rfl⟩
  · rw [happly]
    exact .inl ⟨message, hfield, rfl⟩

theorem performAll_append (o : ReadOptions) (settings more : List ReadSetting) :
    o.performAll (settings ++ more) = (o.performAll settings).performAll more :=
  List.foldl_append

/--
A condition or a range on options that were made in any way and changed by any settings, refused
ones among them. It is accepted exactly if it has a header to send. If it is refused, this is for
its argument, the options and what they send are as before, and further settings come to what they
would come to without it. If it is accepted, the header of its name is sent with its value, and
all other headers, under whatever spelling, as well as the query parameters and all that is not
among the headers of the caller, are as before.
-/
theorem checked_setting_all_or_nothing (o : ReadOptions) (log : List ReadSetting)
    (h : setting.checkedName? = some name) :
    let before := o.performAll log
    let outcome := (perform setting).runOn before
    (outcome.1 = .ok () ↔ setting.field?.isSome = true) ∧
    (∀ error, outcome.1 = .error error →
      (∃ message, error = .invalidArgument message) ∧ outcome.2 = before ∧
      outcome.2.header = before.header ∧ outcome.2.query = before.query ∧
      ∀ rest, o.performAll (log ++ setting :: rest) = o.performAll (log ++ rest)) ∧
    (outcome.1 = .ok () →
      (∃ value, setting.field? = some (name, value) ∧
        outcome.2.header.get? name = some value) ∧
      (∀ other, HeaderName.canonical other ≠ HeaderName.canonical name →
        outcome.2.header.get? other = before.header.get? other) ∧
      outcome.2.query = before.query ∧
      { outcome.2 with headers := before.headers } = before) := by
  intro before outcome
  rcases before.runOn_perform_of_checkedName? h with
    ⟨message, hfield, hrun⟩ | ⟨value, hfield, hrun⟩
  · have houtcome : outcome = (.error (.invalidArgument message), before) := hrun
    rw [houtcome, hfield]
    refine ⟨by simp, ?_, by simp⟩
    rintro error ⟨⟩
    refine ⟨⟨message, rfl⟩, rfl, rfl, rfl, ?_⟩
    intro rest
    rw [performAll_append, performAll_append]
    change ((perform setting).runOn before).2.performAll rest = _
    rw [hrun]
  · have houtcome : outcome = (.ok (), before.setHeader name value) := hrun
    rw [houtcome, hfield]
    refine ⟨by simp, by simp, ?_⟩
    intro _
    have hheader := before.header_setHeader value (setting.not_choice_of_checkedName? h)
    refine ⟨⟨value, rfl, ?_⟩, ?_, rfl, rfl⟩
    · rw [hheader, Headers.get?_set, if_pos rfl]
    · intro other hn
      rw [hheader, Headers.get?_set, if_neg hn]

/-- A refused range leaves the range that was sent before, and an accepted one leaves the mark. -/
theorem checked_setting_all_or_nothing_range :
    let log : List ReadSetting :=
      [.header "range" "bytes=0-0", .sourceProxy (some "true"), .checksum true, .ifMatch ""]
    let before := ({} : ReadOptions).performAll log
    let refused := (perform (.range 5 3)).runOn before
    let accepted := (perform (.range 5 9)).runOn before
    (refused.1 = .error (.invalidArgument "Invalid range specified: start=5 end=3") ∧
      refused.2 = before ∧ before.header.get? "Range" = some "bytes=0-0") ∧
    accepted.1 = .ok () ∧ accepted.2.header.get? "RANGE" = some "bytes=5-9" ∧
      accepted.2.header.get? "x-minio-source-proxy-request" = some "true" := by
  intro log before refused accepted
  have hname : ReadSetting.checkedName? (.range 5 3) = some HeaderName.range := rfl
  have hname' : ReadSetting.checkedName? (.range 5 9) = some HeaderName.range := rfl
  obtain ⟨_, hrefused, _⟩ := checked_setting_all_or_nothing {} log hname
  obtain ⟨_, _, haccepted⟩ := checked_setting_all_or_nothing {} log hname'
  have herror : refused.1 = .error (.invalidArgument "Invalid range specified: start=5 end=3") := by
    rfl
  obtain ⟨⟨value, hvalue, hsent⟩, hothers, _⟩ := haccepted rfl
  refine ⟨⟨herror, (hrefused _ herror).2.1, by decide +kernel⟩, rfl, ?_, ?_⟩
  · have hrange : ReadSetting.field? (.range 5 9) = some (HeaderName.range, "bytes=5-9") := by
      decide +kernel
    cases hrange.symm.trans hvalue
    exact hsent
  · rw [hothers _ (by decide +kernel)]
    decide +kernel

end ReadOptions

end ObjectStore
