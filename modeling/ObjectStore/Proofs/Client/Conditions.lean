import ObjectStore.Proofs.Client.Exchanges
import ObjectStore.Proofs.Headers.Sequences
import ObjectStore.Proofs.Http.Fields
import ObjectStore.Proofs.ReadOptions.Precedence

/-!
# What becomes of a condition on the tag

A condition is accepted unless its tag is empty, and its header stays among the headers of the read
until a later setting sends one of the same name. On the wire it arrives only if the tag has no
control bytes but tabs. With another tag the read is sent all the same, without a condition.
-/

namespace ObjectStore

namespace ReadSetting

/-- The header and the tag of a condition on the tag. -/
def tagCondition? : ReadSetting → Option (String × String)
  | .ifMatch etag => some (HeaderName.ifMatch, etag)
  | .ifNoneMatch etag => some (HeaderName.ifNoneMatch, etag)
  | _ => none

end ReadSetting

open ReadSetting (tagCondition? field?)
open ReadOptions (ofSettings quotedTag)

variable {before after : List ReadSetting} {setting : ReadSetting} {name etag : String}

/-! ## In the options -/

/-- A condition is sent under one of two names. -/
theorem ReadSetting.name_of_tagCondition? (h : setting.tagCondition? = some (name, etag)) :
    name = HeaderName.ifMatch ∨ name = HeaderName.ifNoneMatch := by
  cases setting with
  | ifMatch other => exact .inl (congrArg Prod.fst (Option.some.inj h)).symm
  | ifNoneMatch other => exact .inr (congrArg Prod.fst (Option.some.inj h)).symm
  | _ => cases h

/-- A condition that is accepted sends its tag in double quotes. -/
theorem ReadSetting.field?_of_tagCondition? {o o' : ReadOptions}
    (h : setting.tagCondition? = some (name, etag)) (haccepted : o.apply setting = .ok o') :
    setting.field? = some (name, quotedTag etag) := by
  have hsending : setting.isSending = true := by
    cases setting with
    | ifMatch | ifNoneMatch => rfl
    | _ => cases h
  rcases o.apply_of_isSending hsending with ⟨field, hfield, _⟩ | ⟨message, _, hrefused⟩
  · rw [hfield]
    cases setting with
    | ifMatch other | ifNoneMatch other =>
      cases h
      rw [field?] at hfield
      split at hfield
      · cases hfield
      · exact hfield.symm
    | _ => cases h
  · rw [haccepted] at hrefused
    cases hrefused

/-- A header stays with the options until a later setting sends one of its name. -/
theorem ReadOptions.get?_headers_of_field? {value : String}
    (hfield : setting.field? = some (name, value))
    (hlast : ∀ later ∈ after.filterMap field?, ¬ HeaderName.Same later.1 name) :
    (ofSettings (before ++ setting :: after)).headers.get? name = some value := by
  have hlater : Headers.lastField? (after.filterMap field?) name = none := by
    rw [Headers.lastField?_eq_none_iff]
    intro later hm he
    exact hlast later hm (HeaderName.canonical_eq_canonical_iff.mp he)
  have hthis : Headers.lastField? [(name, value)] name = some value :=
    Headers.lastField?_of_mem (List.nodup_singleton _) (List.mem_singleton_self _)
  have hfields : (before ++ setting :: after).filterMap field? =
      before.filterMap field? ++ ([(name, value)] ++ after.filterMap field?) := by
    rw [List.filterMap_append, List.filterMap_cons, hfield, List.singleton_append]
  rw [headers_ofSettings, Headers.get?_setAll_eq, hfields, Headers.lastField?_append,
    Headers.lastField?_append, hlater, hthis]
  rfl

/-! ## On the wire -/

/-- The bytes of a text are no controls, or tabs. -/
def Text.IsWithoutControls (text : String) : Prop := ∀ b ∈ utf8 text, b = 9 ∨ 32 ≤ b ∧ b ≠ 127

/-- The quotes around a tag can be sent, so that the tag alone decides. -/
theorem Http.Fields.isSendable_quotedTag_iff (hname : name ≠ "")
    (htoken : HeaderName.isToken name = true) :
    isSendable name (quotedTag etag) = true ↔ Text.IsWithoutControls etag := by
  have hbytes : Text.utf8 (quotedTag etag) = 34 :: Text.utf8 etag ++ [34] := by
    simp only [Text.utf8_eq_flatMap, quotedTag, String.toList_append, List.flatMap_append]
    rfl
  have hquote : (34 : UInt8) = 9 ∨ (32 : UInt8) ≤ 34 ∧ (34 : UInt8) ≠ 127 := by decide
  rw [isSendable_iff, hbytes, List.forall_mem_append, List.forall_mem_cons,
    List.forall_mem_singleton]
  constructor
  · rintro ⟨_, _, ⟨_, htag⟩, _⟩
    exact htag
  · intro htag
    exact ⟨hname, htoken, ⟨hquote, htag⟩, hquote⟩

namespace Client

open Http (Fields Link Request)

/-- The header of a condition arrives if the tag can be sent, and else leaves no trace. -/
theorem getAll_project_quotedTag (own : Request) {headers : Headers} (query : Query)
    (hname : name = HeaderName.ifMatch ∨ name = HeaderName.ifNoneMatch)
    (hown : own.fields.getAll name = []) (hset : headers.get? name = some (quotedTag etag)) :
    (Text.IsWithoutControls etag →
      (own.project headers query).fields.getAll name = [quotedTag etag]) ∧
    (¬ Text.IsWithoutControls etag → (own.project headers query).fields.getAll name = []) := by
  have htoken : name ≠ "" ∧ HeaderName.isToken name = true := by
    rcases hname with rfl | rfl <;> decide +kernel
  rw [← Fields.isSendable_quotedTag_iff htoken.1 htoken.2, Request.project,
    Fields.getAll_project _ _ htoken.2, hset, hown, Option.filter_some]
  constructor
  · intro hsendable
    rw [if_pos hsendable, Option.elim_some]
  · intro hsendable
    rw [if_neg hsendable, Option.elim_none]

/--
What becomes of a condition on the tag that was accepted and whose header no later setting sends,
whatever the other settings are. It stands among the headers of the options. Reading the content
and reading the metadata send a request if bucket and key have names that say something and the
store gets it, whatever the tag is. The request has the condition, with the tag in double quotes,
if the tag has no control bytes but tabs; else it has no such condition at all.
-/
theorem condition_of_read (c : Client) (bucket key : String) (link : Link)
    (before after : List ReadSetting) (setting : ReadSetting) (name etag : String)
    (hcondition : setting.tagCondition? = some (name, etag))
    (haccepted : ∃ options, (ofSettings before).apply setting = .ok options)
    (hlast : ∀ later ∈ after.filterMap field?, ¬ HeaderName.Same later.1 name) :
    let options := ofSettings (before ++ setting :: after)
    options.header.get? name = some (quotedTag etag) ∧
    ∀ answered ∈ [(c.getObject bucket key options link).2,
        (c.statObject bucket key options link).2],
      (answered.sent ≠ link.sent ↔ requireName bucket = .ok () ∧ requireName key = .ok () ∧
        link.next?.isSome = true) ∧
      (answered.sent ≠ link.sent → ∃ request, answered.sent = link.sent ++ [request] ∧
        (Text.IsWithoutControls etag → request.fields.getAll name = [quotedTag etag]) ∧
        (¬ Text.IsWithoutControls etag → request.fields.getAll name = [])) := by
  intro options
  have hname := ReadSetting.name_of_tagCondition? hcondition
  obtain ⟨_, haccepted⟩ := haccepted
  have hheader : options.header.get? name = some (quotedTag etag) := by
    have hchoice : ∀ choice ∈ ReadOptions.choiceNames,
        ReadOptions.addresses name choice = false := by
      rcases hname with rfl | rfl <;> decide +kernel
    rw [options.get?_header_of_not_choice hchoice]
    exact ReadOptions.get?_headers_of_field?
      (ReadSetting.field?_of_tagCondition? hcondition haccepted) hlast
  -- Neither of the requests has a condition of its own.
  have hcontent : (Fields.ofList [(HeaderName.checksumMode, "ENABLED")]).getAll name = [] := by
    rcases hname with rfl | rfl <;> decide +kernel
  have hmetadata : (∅ : Fields).getAll name = [] := rfl
  refine ⟨hheader, ?_⟩
  rw [List.forall_mem_cons, List.forall_mem_singleton, getObject, contentRequest_eq, statObject,
    metadataRequest_eq]
  constructor
  · refine (c.sent_of_namedTarget bucket key _ _ _ _ _ link).imp_right fun hrequest hsent => ?_
    obtain ⟨target, hrequest⟩ := hrequest hsent
    exact ⟨_, hrequest, getAll_project_quotedTag _ _ hname hcontent hheader⟩
  · refine (c.sent_of_namedTarget bucket key _ _ _ _ _ link).imp_right fun hrequest hsent => ?_
    obtain ⟨target, hrequest⟩ := hrequest hsent
    exact ⟨_, hrequest, getAll_project_quotedTag _ _ hname hmetadata hheader⟩

/-- A tag with a tab in it arrives, whatever was set before it and is chosen after it. -/
theorem condition_of_read_tab :
    let link : Link := { replies := [.hangup] }
    let options := ofSettings ([.header "if-match" "*"] ++ .ifMatch "a\tb" ::
      [.checksum true, .ifMatch "", .ifNoneMatch "c"])
    ∀ answered ∈ [(getObject {} "bucket" "key" options link).2,
        (statObject {} "bucket" "key" options link).2],
      ∃ request, answered.sent = [request] ∧
        request.fields.getAll HeaderName.ifMatch = ["\"a\tb\""] := by
  intro link options answered hanswered
  have haccepted : ∃ options, (ofSettings [.header "if-match" "*"]).apply (.ifMatch "a\tb") =
      .ok options := ⟨_, rfl⟩
  obtain ⟨_, hreads⟩ := condition_of_read {} "bucket" "key" link [.header "if-match" "*"]
    [.checksum true, .ifMatch "", .ifNoneMatch "c"] (.ifMatch "a\tb") HeaderName.ifMatch "a\tb"
    rfl haccepted (by decide +kernel)
  obtain ⟨hsends, hrequest⟩ := hreads answered hanswered
  have hsent : answered.sent ≠ link.sent :=
    hsends.mpr ⟨by decide +kernel, by decide +kernel, rfl⟩
  obtain ⟨request, hrequest, harrives, _⟩ := hrequest hsent
  have htag : Text.IsWithoutControls "a\tb" := by
    rw [Text.IsWithoutControls]
    decide +kernel
  exact ⟨request, hrequest, harrives htag⟩

/-- A tag with a line break in it is accepted, and the object is read without a condition. -/
theorem exists_unconditional_read :
    let link : Link := { replies := [.response
      { status := 200, fields := ∅, body := Text.utf8 "hello" }] }
    ∃ options, ({} : ReadOptions).setMatch "a\nb" = .ok options ∧
      (getObject {} "bucket" "key" options link).1 = .ok (Text.utf8 "hello") ∧
      ∃ request, (getObject {} "bucket" "key" options link).2.sent = [request] ∧
        request.fields.getAll HeaderName.ifMatch = [] := by
  intro link
  exact ⟨_, rfl, by decide +kernel, _, rfl, by decide +kernel⟩

end Client

end ObjectStore
