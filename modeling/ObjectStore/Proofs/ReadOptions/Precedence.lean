import ObjectStore.ReadOptions.Setting

/-!
# Which setting of a header counts

The headers of a read come from settings that send a header, of which the last one of a name
counts, and from the choices of checksums, of a mark and of an encryption, which win over them.
Of each choice the last one counts. It does not matter whether a choice was made before or after
a header was sent, since the headers of the choices are put in at the end.
-/

namespace ObjectStore

namespace ReadSetting

/-- The header that a setting sends, and its value; a setting that is refused sends none. -/
def field? : ReadSetting → Option (String × String)
  | .header name value => some (name, value)
  | .ifMatch etag =>
    if etag.isEmpty then none else some (HeaderName.ifMatch, ReadOptions.quotedTag etag)
  | .ifNoneMatch etag =>
    if etag.isEmpty then none else some (HeaderName.ifNoneMatch, ReadOptions.quotedTag etag)
  | .ifModifiedSince time =>
    if time = .epoch then none else some (HeaderName.ifModifiedSince, Time.HttpDate.format time)
  | .ifUnmodifiedSince time =>
    if time = .epoch then none else some (HeaderName.ifUnmodifiedSince, Time.HttpDate.format time)
  | .range first last =>
    (ByteRange.ofBounds? first last).map fun range => (HeaderName.range, range.format)
  | _ => none

/-- Whether the setting wants checksums, if it is about them. -/
def checksum? : ReadSetting → Option Bool
  | .checksum wanted => some wanted
  | _ => none

/-- The encryption that the setting chooses, if it is about encryption. -/
def encryption? : ReadSetting → Option (Option Encryption)
  | .encryption choice => some (some choice)
  | _ => none

/-- The mark that the setting gives or takes away, if it is about marks. -/
def sourceProxy? : ReadSetting → Option (Option String)
  | .sourceProxy mark => some mark
  | _ => none

/-- Whether the setting sends a header, if it is accepted. -/
def isSending : ReadSetting → Bool
  | .header _ _ => true
  | .ifMatch _ => true
  | .ifNoneMatch _ => true
  | .ifModifiedSince _ => true
  | .ifUnmodifiedSince _ => true
  | .range _ _ => true
  | _ => false

/-- Whether the setting is a choice that wins over headers that were sent. -/
def isChoice : ReadSetting → Bool
  | .checksum _ => true
  | .encryption _ => true
  | .sourceProxy _ => true
  | _ => false

/-- What the last of the settings that say something says. -/
def lastSaid {β : Type} (tells : ReadSetting → Option β) (unsaid : β)
    (log : List ReadSetting) : β :=
  (log.filterMap tells).getLast?.getD unsaid

end ReadSetting

namespace ReadOptions

open ReadSetting

variable {o : ReadOptions} {setting : ReadSetting}

/-! ## What one setting does -/

/-- A setting that sends a header is accepted, and changes that header alone, or is refused. -/
theorem apply_of_isSending (o : ReadOptions) (h : setting.isSending = true) :
    (∃ field, setting.field? = some field ∧
      o.apply setting = .ok (o.setHeader field.1 field.2)) ∨
    ∃ message, setting.field? = none ∧ o.apply setting = .error (.invalidArgument message) := by
  cases setting with
  | header name value => exact .inl ⟨(name, value), rfl, rfl⟩
  | ifMatch etag | ifNoneMatch etag =>
    by_cases he : etag.isEmpty = true
    · exact .inr ⟨_, if_pos he, if_pos he⟩
    · exact .inl ⟨_, if_neg he, if_neg he⟩
  | ifModifiedSince time | ifUnmodifiedSince time =>
    by_cases he : time = .epoch
    · exact .inr ⟨_, if_pos he, if_pos he⟩
    · exact .inl ⟨_, if_neg he, if_neg he⟩
  | range first last =>
    rw [field?, apply, setRange]
    cases ByteRange.ofBounds? first last with
    | none => exact .inr ⟨_, rfl, rfl⟩
    | some range => exact .inl ⟨_, rfl, rfl⟩
  | _ => cases h

theorem adopt_of_isSending (o : ReadOptions) (h : setting.isSending = true) :
    o.adopt setting = { o with headers := o.headers.setAll setting.field?.toList } := by
  rcases o.apply_of_isSending h with ⟨field, hfield, happly⟩ | ⟨message, hfield, happly⟩
  · rw [adopt, happly, hfield]
    rfl
  · rw [adopt, happly, hfield]
    rfl

/-- A setting of a parameter changes the parameters or nothing. -/
theorem exists_params_adopt (o : ReadOptions) (key value : String) :
    (∃ params, o.adopt (.param key value) = { o with params := params }) ∧
    ∃ params, o.adopt (.moreParam key value) = { o with params := params } := by
  constructor
  · change ∃ params, o.setParam key value = { o with params := params }
    unfold setParam
    split
    · exact ⟨_, rfl⟩
    · exact ⟨o.params, rfl⟩
  · change ∃ params, o.addParam key value = { o with params := params }
    unfold addParam
    split
    · exact ⟨_, rfl⟩
    · exact ⟨o.params, rfl⟩

/-- What the headers come from is changed by the settings about it, and by no other one. -/
theorem adopt_tells (o : ReadOptions) (setting : ReadSetting) :
    (o.adopt setting).headers = o.headers.setAll setting.field?.toList ∧
    (o.adopt setting).checksum = setting.checksum?.getD o.checksum ∧
    (o.adopt setting).encryption = setting.encryption?.getD o.encryption ∧
    (o.adopt setting).sourceProxy = setting.sourceProxy?.getD o.sourceProxy := by
  cases hs : setting.isSending with
  | true =>
    rw [o.adopt_of_isSending hs]
    cases setting with
    | param | moreParam | version | part | checksum | encryption | sourceProxy => cases hs
    | _ => exact ⟨rfl, rfl, rfl, rfl⟩
  | false =>
    cases setting with
    | header | ifMatch | ifNoneMatch | ifModifiedSince | ifUnmodifiedSince | range => cases hs
    | param key value =>
      obtain ⟨params, hadopt⟩ := (o.exists_params_adopt key value).1
      rw [hadopt]
      exact ⟨rfl, rfl, rfl, rfl⟩
    | moreParam key value =>
      obtain ⟨params, hadopt⟩ := (o.exists_params_adopt key value).2
      rw [hadopt]
      exact ⟨rfl, rfl, rfl, rfl⟩
    | _ => exact ⟨rfl, rfl, rfl, rfl⟩

/-! ## What a list of settings does -/

theorem adoptAll_cons (o : ReadOptions) (setting : ReadSetting) (log : List ReadSetting) :
    o.adoptAll (setting :: log) = (o.adopt setting).adoptAll log := rfl

/-- The headers that settings send are set in turn. -/
theorem headers_adoptAll (o : ReadOptions) (log : List ReadSetting) :
    (o.adoptAll log).headers = o.headers.setAll (log.filterMap field?) := by
  induction log generalizing o with
  | nil => rfl
  | cons setting log ih =>
    rw [adoptAll_cons, ih, (o.adopt_tells setting).1, List.filterMap_cons]
    cases setting.field? <;> rfl

/-- What each setting says anew is in the end what the last one says. -/
theorem adoptAll_eq_lastSaid {β : Type} (said : ReadOptions → β) (tells : ReadSetting → Option β)
    (h : ∀ o setting, said (o.adopt setting) = (tells setting).getD (said o))
    (o : ReadOptions) (log : List ReadSetting) :
    said (o.adoptAll log) = lastSaid tells (said o) log := by
  induction log generalizing o with
  | nil => rfl
  | cons setting log ih =>
    rw [adoptAll_cons, ih, h, lastSaid, lastSaid, List.filterMap_cons]
    cases tells setting with
    | none => rfl
    | some said => rw [List.getLast?_cons]; rfl

theorem checksum_ofSettings (log : List ReadSetting) :
    (ofSettings log).checksum = lastSaid checksum? false log :=
  adoptAll_eq_lastSaid checksum checksum? (fun o setting => (o.adopt_tells setting).2.1) {} log

theorem encryption_ofSettings (log : List ReadSetting) :
    (ofSettings log).encryption = lastSaid encryption? none log :=
  adoptAll_eq_lastSaid encryption encryption?
    (fun o setting => (o.adopt_tells setting).2.2.1) {} log

theorem sourceProxy_ofSettings (log : List ReadSetting) :
    (ofSettings log).sourceProxy = lastSaid sourceProxy? none log :=
  adoptAll_eq_lastSaid sourceProxy sourceProxy?
    (fun o setting => (o.adopt_tells setting).2.2.2) {} log

theorem headers_ofSettings (log : List ReadSetting) :
    (ofSettings log).headers = Headers.setAll ∅ (log.filterMap field?) :=
  headers_adoptAll {} log

/-- Settings that say nothing can be left out. -/
theorem filterMap_filter_of_silent {β : Type} {tells : ReadSetting → Option β}
    {p : ReadSetting → Bool} (h : ∀ setting, p setting = false → tells setting = none)
    (log : List ReadSetting) : (log.filter p).filterMap tells = log.filterMap tells := by
  rw [List.filterMap_filter]
  congr
  funext setting
  cases hp : p setting with
  | true => rfl
  | false => exact (h setting hp).symm

theorem lastSaid_filter {β : Type} {tells : ReadSetting → Option β} {p : ReadSetting → Bool}
    (h : ∀ setting, p setting = false → tells setting = none) (unsaid : β)
    (log : List ReadSetting) :
    lastSaid tells unsaid (log.filter p) = lastSaid tells unsaid log := by
  rw [lastSaid, lastSaid, filterMap_filter_of_silent h]

/-! ## The headers to send -/

/-- Whether a text is a spelling of the name of a header. -/
def addresses (text name : String) : Bool :=
  HeaderName.canonical text == HeaderName.canonical name

/-- The value of a header that announces a key of the caller. -/
def keyField? (name : String) : Option Encryption → Option String
  | some (.customerKey key) =>
    if addresses name HeaderName.customerKeyMd5 then some key.md5Base64
    else if addresses name HeaderName.customerKey then some key.base64
    else if addresses name HeaderName.customerAlgorithm then some "AES256"
    else none
  | _ => none

/-- The value with which the last setting of a header sends it. -/
def sent? (log : List ReadSetting) (name : String) : Option String :=
  ((log.filterMap field?).findRev? fun field => addresses name field.1).map Prod.snd

/-- A choice of checksums wins over what stands under its header. -/
theorem get?_setAll_checksum (h : Headers) (wanted : Bool) (name : String) :
    (h.setAll (if wanted then [(HeaderName.checksumMode, "ENABLED")] else [])).get? name =
      (if wanted && addresses name HeaderName.checksumMode then some "ENABLED" else none).or
        (h.get? name) := by
  cases wanted with
  | false => rfl
  | true =>
    change (h.set HeaderName.checksumMode "ENABLED").get? name = _
    rw [Headers.get?_set, Bool.true_and, addresses]
    by_cases hn : HeaderName.canonical name = HeaderName.canonical HeaderName.checksumMode <;>
      simp [hn]

/-- A mark wins over what stands under its header. -/
theorem get?_setAll_sourceProxy (h : Headers) (mark : Option String) (name : String) :
    (h.setAll (mark.toList.map (HeaderName.sourceProxyRequest, ·))).get? name =
      (if addresses name HeaderName.sourceProxyRequest then mark else none).or (h.get? name) := by
  cases mark with
  | none => simp [Headers.setAll]
  | some mark =>
    change (h.set HeaderName.sourceProxyRequest mark).get? name = _
    rw [Headers.get?_set, addresses]
    by_cases hn : HeaderName.canonical name =
      HeaderName.canonical HeaderName.sourceProxyRequest <;> simp [hn]

/-- A key of the caller wins over what stands under its headers. -/
theorem get?_setAll_customerKey (h : Headers) (key : CustomerKey) (name : String) :
    (h.setAll (Encryption.customerKey key).headers).get? name =
      (keyField? name (some (.customerKey key))).or (h.get? name) := by
  change (((h.set HeaderName.customerAlgorithm "AES256").set HeaderName.customerKey
    key.base64).set HeaderName.customerKeyMd5 key.md5Base64).get? name = _
  simp only [Headers.get?_set, keyField?, addresses, beq_iff_eq]
  by_cases hd : HeaderName.canonical name = HeaderName.canonical HeaderName.customerKeyMd5
  · rw [if_pos hd, if_pos hd, Option.some_or]
  · rw [if_neg hd, if_neg hd]
    by_cases hk : HeaderName.canonical name = HeaderName.canonical HeaderName.customerKey
    · rw [if_pos hk, if_pos hk, Option.some_or]
    · rw [if_neg hk, if_neg hk]
      by_cases ha : HeaderName.canonical name = HeaderName.canonical HeaderName.customerAlgorithm
      · rw [if_pos ha, if_pos ha, Option.some_or]
      · rw [if_neg ha, if_neg ha, Option.none_or]

/-- Of the encryptions only a key of the caller is announced. -/
theorem get?_setAll_encryptionHeaders (h : Headers) (o : ReadOptions) (name : String) :
    (h.setAll o.encryptionHeaders).get? name = (keyField? name o.encryption).or (h.get? name) := by
  rw [encryptionHeaders]
  cases o.encryption with
  | none => rfl
  | some choice =>
    cases choice with
    | customerKey key => exact get?_setAll_customerKey h key name
    | storeKeys => rfl
    | keyService keyId => rfl

/-- The headers to send come from four fields of the options. -/
theorem header_congr {o o' : ReadOptions} (hh : o.headers = o'.headers)
    (he : o.encryptionHeaders = o'.encryptionHeaders) (hp : o.sourceProxy = o'.sourceProxy)
    (hc : o.checksum = o'.checksum) : o.header = o'.header := by
  rw [header, ownHeaders, hh, he, hp, hc, header, ownHeaders]

/-- Of the sources of a header the checksums come first, then the mark, then the key. -/
theorem get?_header (o : ReadOptions) (name : String) :
    o.header.get? name =
      (if o.checksum && addresses name HeaderName.checksumMode then some "ENABLED" else none).or
      ((if addresses name HeaderName.sourceProxyRequest then o.sourceProxy else none).or
      ((keyField? name o.encryption).or (o.headers.get? name))) := by
  have hsetAll (h : Headers) (fields more : List (String × String)) :
      h.setAll (fields ++ more) = (h.setAll fields).setAll more :=
    List.foldl_append
  rw [header, ownHeaders, hsetAll, hsetAll, get?_setAll_checksum, get?_setAll_sourceProxy,
    get?_setAll_encryptionHeaders]

/-- The names of the headers that choices send. -/
def choiceNames : List String :=
  [HeaderName.checksumMode, HeaderName.sourceProxyRequest, HeaderName.customerKeyMd5,
    HeaderName.customerKey, HeaderName.customerAlgorithm]

/-- A header that no choice sends is sent as the settings left it. -/
theorem get?_header_of_not_choice (o : ReadOptions) {name : String}
    (h : ∀ choice ∈ choiceNames, addresses name choice = false) :
    o.header.get? name = o.headers.get? name := by
  simp only [choiceNames, List.forall_mem_cons] at h
  obtain ⟨hchecksum, hproxy, hmd5, hkey, halgorithm, _⟩ := h
  have hnone : keyField? name o.encryption = none := by
    unfold keyField?
    split
    · simp [hmd5, hkey, halgorithm]
    · rfl
  rw [get?_header, hchecksum, hproxy, Bool.and_false, hnone]
  rfl

/-- A header that no choice sends is sent as it was set. -/
theorem get?_header_setHeader (o : ReadOptions) {name : String} (value : String)
    (h : ∀ choice ∈ choiceNames, addresses name choice = false) :
    (o.setHeader name value).header.get? name = some value := by
  rw [get?_header_of_not_choice _ h, setHeader, Headers.get?_set, if_pos rfl]

theorem get?_headers_ofSettings (log : List ReadSetting) (name : String) :
    (ofSettings log).headers.get? name = sent? log name := by
  rw [headers_ofSettings, Headers.get?_setAll]
  exact Option.or_none

/-- A choice sends no header of its own, and nothing else is a choice. -/
theorem silent_of_isChoice (setting : ReadSetting) :
    (setting.isChoice = true → setting.field? = none) ∧
    (setting.isChoice = false →
      setting.checksum? = none ∧ setting.encryption? = none ∧ setting.sourceProxy? = none) := by
  cases setting with
  | checksum | encryption | sourceProxy => simp [isChoice, field?]
  | _ => simp [isChoice, checksum?, encryption?, sourceProxy?]

/-- Settings with the same choices and otherwise the same settings send the same headers. -/
theorem header_eq_of_filter_eq {log other : List ReadSetting}
    (hchoice : other.filter isChoice = log.filter isChoice)
    (hother : other.filter (!·.isChoice) = log.filter (!·.isChoice)) :
    (ofSettings other).header = (ofSettings log).header := by
  have hlast {β : Type} {tells : ReadSetting → Option β}
      (h : ∀ setting, setting.isChoice = false → tells setting = none) (unsaid : β) :
      lastSaid tells unsaid other = lastSaid tells unsaid log := by
    rw [← lastSaid_filter h unsaid other, hchoice, lastSaid_filter h]
  have hfields : other.filterMap field? = log.filterMap field? := by
    have hsilent (setting : ReadSetting) (h : (!setting.isChoice) = false) :
        setting.field? = none :=
      (silent_of_isChoice setting).1 ((Bool.not_eq_false' _).mp h)
    rw [← filterMap_filter_of_silent hsilent other, hother, filterMap_filter_of_silent hsilent]
  apply header_congr
  · rw [headers_ofSettings, headers_ofSettings, hfields]
  · have hsame := hlast (fun setting h => ((silent_of_isChoice setting).2 h).2.1) none
    rw [encryptionHeaders, encryptionHeaders, encryption_ofSettings, encryption_ofSettings, hsame]
  · rw [sourceProxy_ofSettings, sourceProxy_ofSettings,
      hlast fun setting h => ((silent_of_isChoice setting).2 h).2.2]
  · rw [checksum_ofSettings, checksum_ofSettings,
      hlast fun setting h => ((silent_of_isChoice setting).2 h).1]

/-- An encryption under keys of others is not announced, as if none had been chosen. -/
theorem header_eq_of_no_key {log : List ReadSetting}
    (h : ∀ key, lastSaid encryption? none log ≠ some (.customerKey key)) :
    (ofSettings log).header = (ofSettings (log.filter (·.encryption?.isNone))).header := by
  have hsilent {β : Type} {tells : ReadSetting → Option β}
      (htells : ∀ choice, tells (.encryption choice) = none) (setting : ReadSetting)
      (hs : setting.encryption?.isNone = false) : tells setting = none := by
    cases setting with
    | encryption choice => exact htells choice
    | _ => cases hs
  have hnone : lastSaid encryption? none (log.filter (·.encryption?.isNone)) = none := by
    have hfilter : (log.filter (·.encryption?.isNone)).filterMap encryption? = [] := by
      rw [List.filterMap_eq_nil_iff]
      intro setting hm
      exact Option.isNone_iff_eq_none.mp (List.mem_filter.mp hm).2
    rw [lastSaid, hfilter]
    rfl
  apply header_congr
  · rw [headers_ofSettings, headers_ofSettings,
      filterMap_filter_of_silent (hsilent fun _ => rfl)]
  · rw [encryptionHeaders, encryptionHeaders, encryption_ofSettings, encryption_ofSettings, hnone]
    split
    · next key hkey => exact absurd hkey (h key)
    · rfl
  · rw [sourceProxy_ofSettings, sourceProxy_ofSettings, lastSaid_filter (hsilent fun _ => rfl)]
  · rw [checksum_ofSettings, checksum_ofSettings, lastSaid_filter (hsilent fun _ => rfl)]

/--
The headers of a read, whatever its settings and their order. Under each spelling of a name stands
the checksum wanted in the end, or else the last mark, or else what the last encryption announces
of a key of the caller, or else what the last accepted setting of a header of the name sends. An
encryption without a key of the caller adds nothing. The headers do not depend on where the choices
of encryption, checksums and mark stand among the other settings.
-/
theorem header_of_settings (log : List ReadSetting) :
    (∀ name, (ofSettings log).header.get? name =
      (if lastSaid checksum? false log && addresses name HeaderName.checksumMode
        then some "ENABLED" else none).or
      ((if addresses name HeaderName.sourceProxyRequest
        then lastSaid sourceProxy? none log else none).or
      ((keyField? name (lastSaid encryption? none log)).or (sent? log name)))) ∧
    ((∀ key, lastSaid encryption? none log ≠ some (.customerKey key)) →
      (ofSettings log).header = (ofSettings (log.filter (·.encryption?.isNone))).header) ∧
    ∀ other : List ReadSetting, other.filter isChoice = log.filter isChoice →
      other.filter (!·.isChoice) = log.filter (!·.isChoice) →
      (ofSettings other).header = (ofSettings log).header := by
  refine ⟨?_, header_eq_of_no_key, ?_⟩
  · intro name
    rw [get?_header, checksum_ofSettings, sourceProxy_ofSettings, encryption_ofSettings,
      get?_headers_ofSettings]
  · intro other hchoice hother
    exact header_eq_of_filter_eq hchoice hother

/-- The choices win over headers of the same names, sent before them or after them. -/
theorem header_of_settings_moved :
    let sent : List ReadSetting := [.header "x-minio-source-proxy-request" "false",
      .header "if-match" "*", .ifMatch "tag", .ifMatch "",
      .header "x-amz-server-side-encryption-customer-algorithm" "none"]
    let choices : List ReadSetting := [.checksum true, .encryption .storeKeys,
      .sourceProxy (some "true")]
    let key : CustomerKey := ⟨List.replicate 32 1, rfl⟩
    let keyed : List ReadSetting := choices ++ [.encryption (.customerKey key)]
    let algorithm := "X-AMZ-SERVER-SIDE-ENCRYPTION-CUSTOMER-ALGORITHM"
    (ofSettings (choices ++ sent)).header = (ofSettings (sent ++ choices)).header ∧
    (ofSettings (sent ++ choices)).header =
      (ofSettings (sent ++ [.checksum true, .sourceProxy (some "true")])).header ∧
    (ofSettings (sent ++ choices)).header.get? "X-MINIO-SOURCE-PROXY-REQUEST" = some "true" ∧
    (ofSettings (sent ++ choices)).header.get? "IF-MATCH" = some "\"tag\"" ∧
    (ofSettings (sent ++ choices)).header.get? algorithm = some "none" ∧
    (ofSettings (keyed ++ sent)).header = (ofSettings (sent ++ keyed)).header ∧
    (ofSettings (sent ++ keyed)).header.get? algorithm = some "AES256" ∧
    (ofSettings (sent ++ keyed)).header.get? "x-amz-server-side-encryption-customer-key" =
      some "AQEBAQEBAQEBAQEBAQEBAQEBAQEBAQEBAQEBAQEBAQE=" := by
  intro sent choices key keyed algorithm
  obtain ⟨hget, hkey, hmoved⟩ := header_of_settings (sent ++ choices)
  obtain ⟨hgetKeyed, _, hmovedKeyed⟩ := header_of_settings (sent ++ keyed)
  have hchosen : ∀ key, lastSaid encryption? none (sent ++ choices) ≠
      some (.customerKey key) := by
    intro key h
    cases h
  refine ⟨hmoved (choices ++ sent) rfl rfl, hkey hchosen, ?_, ?_, ?_,
    hmovedKeyed (keyed ++ sent) rfl rfl, ?_, ?_⟩
  · rw [hget]
    decide +kernel
  · rw [hget]
    decide +kernel
  · rw [hget]
    decide +kernel
  · rw [hgetKeyed]
    decide +kernel
  · rw [hgetKeyed]
    decide +kernel

end ReadOptions

end ObjectStore
