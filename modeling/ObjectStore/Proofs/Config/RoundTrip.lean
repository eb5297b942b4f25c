import ObjectStore.Config.Toml
import ObjectStore.Proofs.Toml.Sections

/-!
# Configurations read back

A configuration is read back from its document. A setting that is not set is not written, and what is
read for it is that it is not set; every other setting is written, so that no default takes the place
of what was set.
-/

namespace ObjectStore.Config

/-- The value of a setting. -/
def Setting.value : Setting → Toml.Value
  | text s => .text s
  | number n => .integer n
  | bool b => .bool b

/-- Whether a document can hold a setting. -/
def Setting.Fits : Setting → Prop
  | number n => n ≤ maxNumber
  | _ => True

theorem Setting.writesValue {setting : Setting} (h : setting.Fits) :
    Toml.WritesValue setting.write setting.value := by
  cases setting with
  | text s => exact Toml.writesValue_text s
  | number n => exact Toml.writesValue_word (Toml.Scalar.isWord_toDigits h)
  | bool b =>
    cases b with
    | true => exact Toml.writesValue_word Toml.Scalar.isWord_true
    | false => exact Toml.writesValue_word Toml.Scalar.isWord_false

/-! ## Sections -/

/-- The names of all sections and settings. -/
def allNames : List String :=
  ["endpoint", "transfer", "logging"] ++ Endpoint.names ++ Transfer.names ++ LogSettings.names

theorem isBareKey_of_mem {name : String} (h : name ∈ allNames) : Toml.IsBareKey name := by
  have hnames : ∀ name ∈ allNames, name.toList ≠ [] ∧
      ∀ c ∈ name.toList, Toml.isBareKeyChar c = true := by
    simp [allNames, Endpoint.names, Transfer.names, LogSettings.names, Toml.isBareKeyChar]
  exact ⟨(hnames name h).1, (hnames name h).2⟩

/-- Settings that fit are read back as a section if their names are some of a row of names, in order. -/
theorem isSection {name : String} {lines : List (String × Setting)} (names : List String)
    (hname : name ∈ allNames) (hnames : names ⊆ allNames) (hnodup : names.Nodup)
    (hlines : (lines.map (·.1)).Sublist names) (hfits : ∀ line ∈ lines, line.2.Fits) :
    Toml.IsSection Setting.write Setting.value (name, lines) where
  isBareKey := isBareKey_of_mem hname
  isBareKey_key _ hline :=
    isBareKey_of_mem (hnames (hlines.subset (List.mem_map_of_mem hline)))
  writesValue line hline := Setting.writesValue (hfits line hline)
  nodup := hlines.nodup hnodup

/-- The table that is read for the lines of a section. -/
def table (lines : List (String × Setting)) : Toml.Value :=
  .table .header (lines.map fun line => (line.1, line.2.value))

theorem isSection_endpoint (e : Endpoint) :
    Toml.IsSection Setting.write Setting.value ("endpoint", endpointLines e) := by
  refine isSection Endpoint.names (by decide) (by decide) (by decide) ?_ ?_
  · rw [endpointLines]
    cases e.accessKeyId <;> cases e.secretAccessKey
    all_goals
      simp only [Option.toList_none, Option.toList_some, List.map_nil, List.map_cons,
        List.append_nil, List.cons_append, List.nil_append]
      decide
  · rw [endpointLines]
    cases e.accessKeyId <;> cases e.secretAccessKey <;> simp [Setting.Fits]

theorem isSection_transfer {t : Transfer} (h : t.listPageSize ≤ maxNumber)
    (h' : t.deleteBatchSize ≤ maxNumber) (h'' : t.timeout ≤ maxNumber) :
    Toml.IsSection Setting.write Setting.value ("transfer", transferLines t) := by
  have hretries : t.maxRetries.toNat ≤ maxNumber :=
    Nat.le_trans (Nat.le_of_lt t.maxRetries.toNat_lt) (by decide)
  refine isSection Transfer.names (by decide) (by decide) (by decide) (List.Sublist.refl _) ?_
  simpa [transferLines, Setting.Fits] using ⟨h, h', h'', hretries⟩

theorem isSection_logging (l : LogSettings) :
    Toml.IsSection Setting.write Setting.value ("logging", loggingLines l) := by
  refine isSection LogSettings.names (by decide) (by decide) (by decide) (List.Sublist.refl _) ?_
  simp [loggingLines, Setting.Fits]

theorem ofToml?_endpoint (e : Endpoint) : Endpoint.ofToml? (table (endpointLines e)) = some e := by
  obtain ⟨url, region, accessKeyId, secretAccessKey, forcePathStyle⟩ := e
  cases accessKeyId <;> cases secretAccessKey
  all_goals
    simp only [table, endpointLines, Setting.value, Option.toList_none, Option.toList_some,
      List.map_nil, List.map_cons, List.append_nil, List.cons_append, List.nil_append]
    unfold Endpoint.ofToml?
    simp [Toml.Value.settings?, Toml.Fields.getD, Toml.Fields.get?, Toml.Value.toText?,
      Toml.Value.toBool?, Toml.Fields.lookup_cons_ne]

/-- A number below a bound is read from the setting that holds it. -/
theorem getD_number {fields : Toml.Fields} {name : String} {n bound : Nat}
    (h : fields.lookup name = some (.integer n)) (hn : n < bound) (default : Nat) :
    fields.getD name (Toml.Value.toNat? bound) default = some n := by
  have hread : Toml.Value.toNat? bound (.integer n) = some n := by
    rw [Toml.Value.toNat?, if_pos ⟨Int.natCast_nonneg n, by exact_mod_cast hn⟩]
    rfl
  rw [Toml.Fields.getD, Toml.Fields.get?, h]
  simp only [hread, Option.map_some, Option.getD_some]

theorem ofToml?_transfer {t : Transfer} (h : t.listPageSize ≤ maxNumber)
    (h' : t.deleteBatchSize ≤ maxNumber) (h'' : t.timeout ≤ maxNumber) :
    Transfer.ofToml? (table (transferLines t)) = some t := by
  have hmax : maxNumber < UInt64.size := by decide
  have hretries : t.maxRetries.toNat < UInt32.size := t.maxRetries.toNat_lt
  obtain ⟨fields, hfields⟩ : ∃ fields : Toml.Fields, table (transferLines t) = .table .header fields ∧
      fields.lookup "list_page_size" = some (.integer t.listPageSize) ∧
      fields.lookup "delete_batch_size" = some (.integer t.deleteBatchSize) ∧
      fields.lookup "timeout" = some (.integer t.timeout) ∧
      fields.lookup "max_retries" = some (.integer t.maxRetries.toNat) := by
    refine ⟨_, rfl, ?_, ?_, ?_, ?_⟩ <;>
      simp [transferLines, Setting.value, Toml.Fields.lookup_cons_ne]
  obtain ⟨htable, hlist, hdelete, htimeout, hmaxRetries⟩ := hfields
  rw [htable]
  unfold Transfer.ofToml?
  simp only [Toml.Value.settings?, Option.bind_eq_bind, Option.bind_some]
  rw [getD_number hlist (Nat.lt_of_le_of_lt h hmax),
    getD_number hdelete (Nat.lt_of_le_of_lt h' hmax),
    getD_number htimeout (Nat.lt_of_le_of_lt h'' hmax), getD_number hmaxRetries hretries]
  simp only [Option.bind_some, UInt32.ofNat_toNat]
  rfl

theorem ofToml?_logging (l : LogSettings) : LogSettings.ofToml? (table (loggingLines l)) = some l := by
  simp only [table, loggingLines, Setting.value, List.map_nil, List.map_cons]
  unfold LogSettings.ofToml?
  simp [Toml.Value.settings?, Toml.Fields.getD, Toml.Fields.get?, Toml.Value.toText?,
    Toml.Fields.lookup_cons_ne]

/-! ## Configurations -/

variable {c : Config}

/-- The numbers of a configuration that a document can hold. -/
theorem isWritable_iff : c.isWritable = true ↔ ∀ t ∈ c.transfer,
    t.listPageSize ≤ maxNumber ∧ t.deleteBatchSize ≤ maxNumber ∧ t.timeout ≤ maxNumber := by
  simp [isWritable, Option.all_eq_true, and_assoc]

theorem isSection_of_mem (h : c.isWritable = true) {s : String × List (String × Setting)}
    (hs : s ∈ c.sections) : Toml.IsSection Setting.write Setting.value s := by
  simp only [sections, List.cons_append, List.mem_cons, List.mem_append, List.mem_map,
    Option.mem_toList] at hs
  rcases hs with rfl | ⟨t, ht, rfl⟩ | ⟨l, hl, rfl⟩
  · exact isSection_endpoint c.endpoint
  · obtain ⟨hlist, hdelete, htimeout⟩ := isWritable_iff.mp h t ht
    exact isSection_transfer hlist hdelete htimeout
  · exact isSection_logging l

theorem nodup_sections (c : Config) : (c.sections.map (·.1)).Nodup := by
  rw [sections]
  cases c.transfer <;> cases c.logging <;> simp

/-- The tables of the sections describe the configuration. -/
theorem ofToml?_sections (h : c.isWritable = true) :
    ofToml? (c.sections.map fun s => (s.1, table s.2)) = some c := by
  obtain ⟨endpoint, transfer, logging⟩ := c
  have hendpoint := ofToml?_endpoint endpoint
  have htransfer : ∀ t ∈ transfer, Transfer.ofToml? (table (transferLines t)) = some t := by
    intro t ht
    obtain ⟨hlist, hdelete, htimeout⟩ := isWritable_iff.mp h t ht
    exact ofToml?_transfer hlist hdelete htimeout
  unfold ofToml?
  cases transfer <;> cases logging <;>
    simp_all [sections, Toml.Fields.get?, Toml.Fields.lookup_cons_ne, ofToml?_logging]

/-- A configuration is read back from its document. -/
theorem parse?_of_format {text : String} (h : c.format = .ok text) : parse? text = some c := by
  rw [format] at h
  split at h
  · next hwritable =>
    obtain rfl := Except.ok.inj h
    have hread : Toml.parse? (String.ofList (['\n'].intercalate (c.sections.map writeSection))) =
        some (c.sections.map fun s => (s.1, table s.2)) :=
      Toml.parse?_sections (fun s hs => isSection_of_mem hwritable hs) (nodup_sections c)
    rw [parse?, hread, Option.bind_some, ofToml?_sections hwritable]
  · cases h

end ObjectStore.Config
