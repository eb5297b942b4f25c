import Mathlib.Data.List.DropRight
import ObjectStore.Proofs.Query.RoundTrip
import ObjectStore.Proofs.ReadOptions.Precedence

/-!
# Which settings of a parameter count

Of the settings of a query key the last one that replaces values counts, and those after it that
add one. They are sent after the version and the part that the options ask for, which may stand
under the same key. A setting of a key that is not supported counts nowhere, so that only supported
keys are sent.
-/

namespace ObjectStore

namespace ReadSetting

/-- The value that the setting sends for a query key in place of others. -/
def only? (key : String) : ReadSetting → Option String
  | .param key' value => if key' = key then some value else none
  | _ => none

/-- The value that the setting sends for a query key after others. -/
def more? (key : String) : ReadSetting → Option String
  | .moreParam key' value => if key' = key then some value else none
  | _ => none

/-- Whether the setting is about a query key that is not supported. -/
def isIgnored : ReadSetting → Bool
  | .param key _ => !QueryKey.isSupported key
  | .moreParam key _ => !QueryKey.isSupported key
  | _ => false

/-- The value that comes last in place of others, if there is one, and those added after it. -/
def paramValues (log : List ReadSetting) (key : String) : List String :=
  if QueryKey.isSupported key then
    (log.filterMap (only? key)).getLast?.toList ++
      (log.rtakeWhile fun setting => (setting.only? key).isNone).filterMap (more? key)
  else []

/-- One more setting replaces the values or adds one after them. -/
theorem paramValues_concat (log : List ReadSetting) (setting : ReadSetting) (key : String) :
    paramValues (log ++ [setting]) key =
      if QueryKey.isSupported key then
        ((setting.only? key).map ([·])).getD (paramValues log key ++ (setting.more? key).toList)
      else [] := by
  unfold paramValues
  cases hk : QueryKey.isSupported key with
  | false => rfl
  | true =>
    rw [List.filterMap_append, List.rtakeWhile_concat]
    cases ho : setting.only? key with
    | none => cases hm : setting.more? key <;> simp [ho, hm]
    | some value => simp [ho]

end ReadSetting

namespace ReadOptions

open ReadSetting

/-! ## What settings do to the parameters -/

/-- A value in place of others is the only one of its key, if the key is supported. -/
theorem getAll_setParam (o : ReadOptions) (key key' value : String) :
    (o.setParam key value).params.getAll key' =
      if QueryKey.isSupported key = true ∧ key = key' then [value] else o.params.getAll key' := by
  rw [setParam]
  split
  · next hk =>
    rw [Query.getAll_set]
    simp [hk, eq_comm]
  · next hk => rw [if_neg fun h => hk h.1]

/-- A value after others is the last one of its key, if the key is supported. -/
theorem getAll_addParam (o : ReadOptions) (key key' value : String) :
    (o.addParam key value).params.getAll key' =
      if QueryKey.isSupported key = true ∧ key = key' then o.params.getAll key' ++ [value]
      else o.params.getAll key' := by
  rw [addParam]
  split
  · next hk =>
    rw [Query.getAll_add]
    simp [hk, eq_comm]
  · next hk => rw [if_neg fun h => hk h.1]

/-- A setting replaces the values of a supported key or adds one after them. -/
theorem getAll_params_adopt (o : ReadOptions) (setting : ReadSetting) (key : String) :
    (o.adopt setting).params.getAll key =
      if QueryKey.isSupported key then
        ((setting.only? key).map ([·])).getD
          (o.params.getAll key ++ (setting.more? key).toList)
      else o.params.getAll key := by
  cases setting with
  | param key' value =>
    change (o.setParam key' value).params.getAll key = _
    rw [getAll_setParam]
    by_cases hk : key' = key
    · simp [hk, only?, more?]
    · simp [hk, only?, more?]
  | moreParam key' value =>
    change (o.addParam key' value).params.getAll key = _
    rw [getAll_addParam]
    by_cases hk : key' = key
    · simp [hk, only?, more?]
    · simp [hk, only?, more?]
  | header | ifMatch | ifNoneMatch | ifModifiedSince | ifUnmodifiedSince | range =>
    rw [o.adopt_of_isSending rfl]
    simp [only?, more?]
  | version | part | checksum | encryption | sourceProxy => simp [adopt, apply, only?, more?]

/-- The parameters that settings make are the values that count. -/
theorem getAll_params_ofSettings (log : List ReadSetting) (key : String) :
    (ofSettings log).params.getAll key = paramValues log key := by
  -- From the right, as the last setting is the one that may void the others.
  induction log using List.reverseRecOn with
  | nil =>
    rw [paramValues]
    split <;> rfl
  | append_singleton log setting ih =>
    have hadopt : ofSettings (log ++ [setting]) = (ofSettings log).adopt setting := by
      rw [ofSettings, adoptAll, List.foldl_append]
      rfl
    rw [hadopt, getAll_params_adopt, ih, paramValues_concat]
    cases hk : QueryKey.isSupported key with
    | false => simp [paramValues, hk]
    | true => rfl

/-- A setting of a key that is not supported changes nothing. -/
theorem adopt_of_isIgnored (o : ReadOptions) {setting : ReadSetting}
    (h : setting.isIgnored = true) : o.adopt setting = o := by
  cases setting with
  | param key value =>
    have hk : ¬QueryKey.isSupported key = true := by simpa [isIgnored] using h
    exact if_neg hk
  | moreParam key value =>
    have hk : ¬QueryKey.isSupported key = true := by simpa [isIgnored] using h
    exact if_neg hk
  | _ => cases h

/-- Settings of keys that are not supported can be left out. -/
theorem ofSettings_filter (log : List ReadSetting) :
    ofSettings (log.filter (!·.isIgnored)) = ofSettings log := by
  rw [ofSettings, adoptAll, List.foldl_filter]
  unfold ofSettings adoptAll
  congr
  funext o setting
  cases h : setting.isIgnored with
  | false => rfl
  | true => exact (o.adopt_of_isIgnored h).symm

/-! ## The parameters to send -/

/-- The part is sent beside the version, which is sent unless it is empty. -/
theorem exists_version (o : ReadOptions) :
    ∃ version : Query,
      o.ownParams = (match o.partNumber with
        | some n => if n = 0 then version else version.set "partNumber" (toString n)
        | none => version) ∧
      ∀ key, version.getAll key =
        if key = "versionId" then (o.versionId.filter (· ≠ "")).toList else [] := by
  refine ⟨_, rfl, ?_⟩
  intro key
  have hempty : (∅ : Query).getAll key = [] := rfl
  cases o.versionId with
  | none => simp [hempty]
  | some id =>
    by_cases hid : id = ""
    · simp [hid, hempty]
    · simp [hid, Query.getAll_set, hempty, Option.filter_some]

/-- The options themselves send a version that is not empty and a part that is not 0. -/
theorem getAll_ownParams (o : ReadOptions) (key : String) :
    o.ownParams.getAll key =
      (if key = "versionId" then (o.versionId.filter (· ≠ "")).toList else []) ++
      (if key = "partNumber" then ((o.partNumber.filter (0 < ·)).map toString).toList
        else []) := by
  obtain ⟨version, hown, hversion⟩ := o.exists_version
  rw [hown, ← hversion]
  cases o.partNumber with
  | none => simp
  | some n =>
    by_cases hn : n = 0
    · simp [hn, Option.filter_some]
    · by_cases hkey : key = "partNumber"
      · simp [hn, hkey, Query.getAll_set, hversion, Option.filter_some, Nat.pos_of_ne_zero hn]
      · simp [hn, hkey, Query.getAll_set]

/-- The values of the options are sent before those of the settings. -/
theorem getAll_query (o : ReadOptions) (key : String) :
    o.query.getAll key = o.ownParams.getAll key ++ o.params.getAll key := by
  rw [query, Query.getAll_addAll, Query.values_pairs]

/-- A key that is sent with a value is supported. -/
theorem isSupported_of_getAll_ne_nil {log : List ReadSetting} {key : String}
    {versionId : Option String} {partNumber : Option Nat}
    (h : ({ ofSettings log with versionId, partNumber } : ReadOptions).query.getAll key ≠ []) :
    QueryKey.isSupported key = true := by
  by_contra hk
  apply h
  have hversion : key ≠ "versionId" := fun he => hk (he ▸ by decide)
  have hpart : key ≠ "partNumber" := fun he => hk (he ▸ by decide)
  rw [getAll_query, getAll_ownParams, if_neg hversion, if_neg hpart]
  change [] ++ [] ++ (ofSettings log).params.getAll key = []
  rw [getAll_params_ofSettings, paramValues, if_neg hk]
  rfl

theorem isSupported_iff (key : String) :
    QueryKey.isSupported key = true ↔
      key ∈ QueryKey.standard ∨ ['x', '-'] <+: key.toList := by
  rw [QueryKey.isSupported, QueryKey.isStandard, QueryKey.isCustom, Bool.or_eq_true,
    List.contains_iff_mem, List.isPrefixOf_iff_prefix]

/--
The parameters that a read sends, for every version, every part and every list of settings. Under
a key stand the version, if it is the key of versions and there is one, the part, if it is the key
of parts and there is one, and then the values that the settings gave the key: the last one that
came in place of others and those added after it, or none if the key is not supported. The standard
keys are supported, and those that begin with "x-". Every key that is sent is supported and has a
value, and settings of other keys, wherever they stand among the settings, change nothing at all.
-/
theorem query_of_settings (log : List ReadSetting) (versionId : Option String)
    (partNumber : Option Nat) :
    let o : ReadOptions := { ofSettings log with versionId, partNumber }
    (∀ key, o.query.getAll key =
      (if key = "versionId" then (versionId.filter (· ≠ "")).toList else []) ++
      (if key = "partNumber" then ((partNumber.filter (0 < ·)).map toString).toList else []) ++
      paramValues log key) ∧
    (∀ key, QueryKey.isSupported key = true ↔
      key ∈ QueryKey.standard ∨ ['x', '-'] <+: key.toList) ∧
    (∀ entry ∈ o.query.toList,
      (entry.1 ∈ QueryKey.standard ∨ ['x', '-'] <+: entry.1.toList) ∧ entry.2 ≠ []) ∧
    ∀ other : List ReadSetting,
      other.filter (!·.isIgnored) = log.filter (!·.isIgnored) →
      ({ ofSettings other with versionId, partNumber } : ReadOptions) = o := by
  intro o
  refine ⟨?_, isSupported_iff, ?_, ?_⟩
  · intro key
    have hparams : o.params.getAll key = paramValues log key := getAll_params_ofSettings log key
    rw [getAll_query, getAll_ownParams, hparams]
  · intro entry hm
    have hvalues : entry.2 ≠ [] := o.query.nonempty entry hm
    have hall : o.query.getAll entry.1 = entry.2 := by
      rw [Query.getAll, SortedMap.get?_eq_some_iff.mpr hm, Option.getD_some]
    refine ⟨(isSupported_iff entry.1).mp ?_, hvalues⟩
    exact isSupported_of_getAll_ne_nil (hall.symm ▸ hvalues)
  · intro other h
    have hother : ofSettings other = ofSettings log := by
      rw [← ofSettings_filter other, h, ofSettings_filter]
    rw [hother]

example : ({ ofSettings [.param "versionId" "b", .moreParam "versionId" "c", .param "acl" ""] with
    versionId := some "a", partNumber := some 0 } : ReadOptions).query.toList =
      [("versionId", ["a", "b", "c"])] := by
  decide +kernel

end ReadOptions

end ObjectStore
