import EmailStudio.Proofs.Editor.Returning

/-!
# Metadata and settings in the editor

The editor keeps metadata and settings in one object, the props of its root. A template is opened by
setting its metadata over its settings, and going back takes them apart by name: subject and preheader
are metadata, all else is settings. Validation lets metadata hold any other field, also one with the
name of a setting, which then takes the place of the setting (`returnedSetting`).

The main result is `templateOf_ofTemplate_of_isValid`: subject and preheader of a valid template come
back as they are, its settings but for those that metadata names as well, and what comes back is
valid unless metadata gives one of them a value that it cannot have.
-/

namespace EmailStudio.Editor

/-- The fields of one of the objects that a template consists of. -/
def fieldsAt (template : Value) (name : String) : Fields :=
  (Fields.get template.fields name).fields

/-- The names of the settings that a template has to have. -/
def settingNames : List String := ["backgroundColor", "contentWidth", "fontFamily"]

/-- Whether a value may stand for a setting. -/
def isSetting (name : String) (v : Value) : Bool :=
  if name = "contentWidth" then v.isBetween Catalog.contentWidthMin Catalog.contentWidthMax
  else v.isText

/-- What comes back as a setting: a field of that name in the metadata, or the default if it is null,
and without such a field the setting itself. -/
def returnedSetting (template : Value) (name : String) : Value :=
  match (fieldsAt template "metadata").get? name with
  | none => (fieldsAt template "settings").get name
  | some v => if v.isNull then Fields.get defaultSettings name else v

theorem isSetting_default {name : String} (h : name ∈ settingNames) :
    isSetting name (Fields.get defaultSettings name) = true := by
  revert name
  decide +kernel

theorem ne_null_of_isSetting {name : String} {v : Value} (h : isSetting name v = true) :
    v ≠ .null := by
  rintro rfl
  unfold isSetting at h
  split_ifs at h <;> cases h

theorem metadataIssues_eq_nil_iff_isText {metadata : Fields} :
    Template.metadataIssues (.object metadata) = [] ↔
      ∀ name ∈ metadataNames, (metadata.get name).isText = true := by
  rw [Template.metadataIssues_eq_nil_iff]
  simp [metadataNames]

/-- The settings of a template have no issues if each of them is one. -/
theorem settingsIssues_eq_nil_iff_isSetting {settings : Fields} :
    Template.settingsIssues (.object settings) = [] ↔
      ∀ name ∈ settingNames, isSetting name (settings.get name) = true := by
  rw [Template.settingsIssues_eq_nil_iff]
  simp [settingNames, isSetting, Template.widthIssues_eq_nil_iff]

/-! ## The props of the root -/

/-- The props of the root: the metadata of a template, set over its settings. -/
def rootOf (template : Value) : Fields :=
  (Fields.update [] (fieldsAt template "settings")).update (fieldsAt template "metadata")

theorem get?_rootOf {template : Value}
    (settings : ((fieldsAt template "settings").map (·.1)).Nodup)
    (metadata : ((fieldsAt template "metadata").map (·.1)).Nodup) (name : String) :
    (rootOf template).get? name =
      ((fieldsAt template "metadata").get? name).or ((fieldsAt template "settings").get? name) := by
  rw [rootOf, Fields.get?_update metadata, Fields.get?_update settings, Fields.get?, Option.or_none]

theorem nodup_rootOf (template : Value) : ((rootOf template).map (·.1)).Nodup :=
  Fields.nodup_update (Fields.nodup_update List.nodup_nil)

/-- The settings among the props of the root, completed by the defaults. -/
def settingsAmong (root : Fields) : Fields :=
  defaultSettings.update (root.filter fun (key, v) => !metadataNames.contains key && !v.isNull)

theorem get?_settingsAmong {root : Fields} (nodup : (root.map (·.1)).Nodup) {name : String}
    (h : name ∉ metadataNames) : (settingsAmong root).get? name =
      ((root.get? name).filter (!·.isNull)).or (Fields.get? name defaultSettings) := by
  have hfilter : (root.filter fun (key, v) =>
      !metadataNames.contains key && !v.isNull).Sublist root := List.filter_sublist
  rw [settingsAmong, Fields.get?_update (nodup.sublist (hfilter.map _)), Fields.get?_filter nodup]
  have hname : metadataNames.contains name = false := by simpa using h
  simp only [hname, Bool.not_false, Bool.true_and]

/-! ## There and back -/

/-- The template that is made of the props of a root and of content. -/
def templateOfParts (root : Fields) (content : List Value) : Value :=
  .object [
    ("version", .text formatVersion),
    ("metadata", .object [
      ("subject", (root.get "subject").orElse (.text "")),
      ("preheader", (root.get "preheader").orElse (.text ""))]),
    ("settings", .object (settingsAmong root)),
    ("content", .list content)]

theorem isValid_templateOfParts {root : Fields} {content : List Value}
    (hcontent : Template.contentIssues (.list content) = [])
    (hmetadata : ∀ name ∈ metadataNames, (root.get name).isText = true) :
    Template.isValid (templateOfParts root content) = true ↔
      ∀ name ∈ settingNames, isSetting name ((settingsAmong root).get name) = true := by
  have hsubject := hmetadata "subject" (by decide)
  have hpreheader := hmetadata "preheader" (by decide)
  rw [Template.isValid_iff, templateOfParts, Value.orElse_of_isText hsubject,
    Value.orElse_of_isText hpreheader, Template.issues_eq_nil_iff,
    ← settingsIssues_eq_nil_iff_isSetting]
  constructor
  · rintro ⟨_, heq, -, -, hsettings, -⟩
    cases heq
    exact hsettings
  · exact fun hsettings => ⟨_, rfl, Template.versionIssues_eq_nil_iff.2 rfl,
      Template.metadataIssues_eq_nil_iff.2 ⟨_, rfl, hsubject, hpreheader⟩, hsettings, hcontent⟩

theorem get_metadata_templateOfParts {root : Fields} (content : List Value)
    (htext : ∀ name ∈ metadataNames, (root.get name).isText = true) {name : String}
    (hname : name ∈ metadataNames) :
    (fieldsAt (templateOfParts root content) "metadata").get name = root.get name := by
  have hgiven := Value.orElse_of_isText (htext name hname)
  simp only [metadataNames, List.mem_cons, List.not_mem_nil, or_false] at hname
  obtain rfl | rfl := hname
  · exact hgiven
  · exact hgiven

/-- A valid template opens and goes back, with the props of the root taken apart again. -/
theorem exists_templateOf_ofTemplate {candidate : Value}
    (h : Template.isValid candidate = true) :
    ∃ data content, Data.ofTemplate candidate = .ok data ∧
      templateOf data.toValue = .ok (templateOfParts (rootOf candidate) content) ∧
      Template.contentIssues (.list content) = [] := by
  obtain ⟨fields, rfl, -, -, -, hcontent⟩ :=
    Template.issues_eq_nil_iff.1 (Template.isValid_iff.1 h)
  obtain ⟨nodes, zones, vs, hforest, hback, hsound⟩ := exists_returned hcontent
  refine ⟨⟨nodes, rootOf (.object fields), zones⟩, vs, ?_, ?_, hsound⟩
  · have hlist : Fields.get (Value.fields (.object fields)) "content" = fields.get "content" := rfl
    rw [Data.ofTemplate, hlist, hforest]
    rfl
  · exact Outcome.bind_eq_ok_iff.2 ⟨vs, hback, rfl⟩

section Valid

variable {candidate : Value}

theorem isText_metadata (h : Template.isValid candidate = true) {name : String}
    (hname : name ∈ metadataNames) : ((fieldsAt candidate "metadata").get name).isText = true := by
  obtain ⟨fields, rfl, -, hmetadata, -⟩ :=
    Template.issues_eq_nil_iff.1 (Template.isValid_iff.1 h)
  obtain ⟨metadata, heq, -⟩ := Template.metadataIssues_eq_nil_iff.1 hmetadata
  have hfields : fieldsAt (.object fields) "metadata" = metadata := congrArg Value.fields heq
  rw [hfields]
  exact metadataIssues_eq_nil_iff_isText.1 (heq ▸ hmetadata) name hname

theorem isSetting_settings (h : Template.isValid candidate = true) {name : String}
    (hname : name ∈ settingNames) :
    isSetting name ((fieldsAt candidate "settings").get name) = true := by
  obtain ⟨fields, rfl, -, -, hsettings, -⟩ :=
    Template.issues_eq_nil_iff.1 (Template.isValid_iff.1 h)
  obtain ⟨settings, heq, -⟩ := Template.settingsIssues_eq_nil_iff.1 hsettings
  have hfields : fieldsAt (.object fields) "settings" = settings := congrArg Value.fields heq
  rw [hfields]
  exact settingsIssues_eq_nil_iff_isSetting.1 (heq ▸ hsettings) name hname

/-- What comes back as a setting is one unless metadata says otherwise. -/
theorem isSetting_returnedSetting_iff (h : Template.isValid candidate = true) {name : String}
    (hname : name ∈ settingNames) :
    isSetting name (returnedSetting candidate name) = true ↔
      ∀ v, (fieldsAt candidate "metadata").get? name = some v →
        v = .null ∨ isSetting name v = true := by
  rw [returnedSetting]
  cases (fieldsAt candidate "metadata").get? name with
  | none => simpa using isSetting_settings h hname
  | some v =>
    simp only [Option.some.injEq, forall_eq', Value.isNull_iff]
    split_ifs with hnull
    · simp [hnull, isSetting_default hname]
    · simp [hnull]

variable (h : Template.isValid candidate = true)
  (settings : ((fieldsAt candidate "settings").map (·.1)).Nodup)
  (metadata : ((fieldsAt candidate "metadata").map (·.1)).Nodup)

include h settings metadata

theorem get_rootOf {name : String} (hname : name ∈ metadataNames) :
    (rootOf candidate).get name = (fieldsAt candidate "metadata").get name := by
  have hfound := Fields.get?_of_get rfl (Value.ne_null_of_isText (isText_metadata h hname))
  rw [Fields.get, get?_rootOf settings metadata, hfound]
  rfl

theorem get_settingsAmong_rootOf {name : String} (hname : name ∈ settingNames) :
    (settingsAmong (rootOf candidate)).get name = returnedSetting candidate name := by
  have hother : name ∉ metadataNames := by
    revert name
    decide
  have hown := ne_null_of_isSetting (isSetting_settings h hname)
  rw [Fields.get, get?_settingsAmong (nodup_rootOf candidate) hother,
    get?_rootOf settings metadata, returnedSetting, Fields.get?_of_get rfl hown]
  cases (fieldsAt candidate "metadata").get? name with
  | none =>
    -- the setting itself is not null, so no default takes its place
    generalize (fieldsAt candidate "settings").get name = own at hown
    cases own <;> first | rfl | contradiction
  | some v => cases v <;> rfl

end Valid

/-- Subject and preheader of a valid template come back from the editor as they are. A setting comes
back as it is unless the metadata has a field of its name, which is then taken for it; what comes
back is valid if those are null or settings, so always if there are none. The names of the metadata
and of the settings are told apart as in any object that was read. -/
theorem templateOf_ofTemplate_of_isValid {candidate : Value}
    (h : Template.isValid candidate = true)
    (settings : ((fieldsAt candidate "settings").map (·.1)).Nodup)
    (metadata : ((fieldsAt candidate "metadata").map (·.1)).Nodup) :
    ∃ data back, Data.ofTemplate candidate = .ok data ∧ templateOf data.toValue = .ok back ∧
      (∀ name ∈ metadataNames,
        (fieldsAt back "metadata").get name = (fieldsAt candidate "metadata").get name) ∧
      (∀ name ∈ settingNames,
        (fieldsAt back "settings").get name = returnedSetting candidate name) ∧
      (Template.isValid back = true ↔ ∀ name ∈ settingNames, ∀ v,
        (fieldsAt candidate "metadata").get? name = some v → v = .null ∨ isSetting name v = true) ∧
      ((∀ name ∈ settingNames, (fieldsAt candidate "metadata").has name = false) →
        Template.isValid back = true ∧ ∀ name ∈ settingNames,
          (fieldsAt back "settings").get name = (fieldsAt candidate "settings").get name) := by
  obtain ⟨data, content, hdata, hback, hcontent⟩ := exists_templateOf_ofTemplate h
  have hmetadata : ∀ name ∈ metadataNames,
      (rootOf candidate).get name = (fieldsAt candidate "metadata").get name :=
    fun _ => get_rootOf h settings metadata
  have htext : ∀ name ∈ metadataNames, ((rootOf candidate).get name).isText = true :=
    fun name hname => hmetadata name hname ▸ isText_metadata h hname
  have hsettings : ∀ name ∈ settingNames,
      (settingsAmong (rootOf candidate)).get name = returnedSetting candidate name :=
    fun _ => get_settingsAmong_rootOf h settings metadata
  have hvalid : Template.isValid (templateOfParts (rootOf candidate) content) = true ↔
      ∀ name ∈ settingNames, ∀ v, (fieldsAt candidate "metadata").get? name = some v →
        v = .null ∨ isSetting name v = true := by
    rw [isValid_templateOfParts hcontent htext]
    exact forall₂_congr fun name hname => by
      rw [hsettings name hname, isSetting_returnedSetting_iff h hname]
  refine ⟨data, _, hdata, hback, fun name hname => ?_, hsettings, hvalid, fun hnone => ?_⟩
  · exact (get_metadata_templateOfParts content htext hname).trans (hmetadata name hname)
  · have hmissing : ∀ name ∈ settingNames, (fieldsAt candidate "metadata").get? name = none :=
      fun name hname => Fields.get?_eq_none_of_has (hnone name hname)
    refine ⟨hvalid.2 fun name hname v hv => ?_, fun name hname => (hsettings name hname).trans ?_⟩
    · cases (hmissing name hname).symm.trans hv
    · rw [returnedSetting, hmissing name hname]

/-- A template whose metadata has more fields than a subject and a preheader, and whose settings have
a subject of their own. -/
def annotated (more : Fields) (blocks : List Value) : Value :=
  .object [
    ("version", .text formatVersion),
    ("metadata", .object ([("subject", .text "News"), ("preheader", .text "")] ++ more)),
    ("settings", .object [
      ("backgroundColor", .text ""), ("subject", .text "Old news"), ("contentWidth", .int 500),
      ("theme", .null), ("fontFamily", .text "Georgia, serif")]),
    ("content", .list blocks)]

/-- A row of icons with an id, and with networks in a list and in fields, and columns without
children. -/
def looseBlocks : List Value :=
  [.object [("type", .text "EmailSocial"), ("props", .object [
      ("id", .text "row"), ("twitterUrl", .text "https://t"), ("networks", .list [
        .object [("type", .text "facebook"), ("url", .text "https://f")]])])],
    .object [("type", .text "EmailColumns"), ("props", .object []), ("children", .null)]]

/-- Other fields do not matter, and a null takes the place of a setting as its default. -/
theorem templateOf_ofTemplate_of_isValid_annotated :
    let candidate := annotated [("author", .text "A"), ("fontFamily", .null)] looseBlocks
    Template.isValid candidate = true ∧
      ∃ data back, Data.ofTemplate candidate = .ok data ∧ templateOf data.toValue = .ok back ∧
        Template.isValid back = true ∧ (fieldsAt back "metadata").get "subject" = .text "News" ∧
        (fieldsAt back "settings").get "contentWidth" = .int 500 ∧
        (fieldsAt back "settings").get "fontFamily" = .text Catalog.defaultFont := by
  intro candidate
  have valid : Template.isValid candidate = true := rfl
  obtain ⟨data, back, hdata, hback, hmetadata, hsettings, hvalid, -⟩ :=
    templateOf_ofTemplate_of_isValid valid (by decide) (by decide)
  have hnulls : ∀ name ∈ settingNames, ∀ v,
      (fieldsAt candidate "metadata").get? name = some v →
        v = .null ∨ isSetting name v = true := by
    simp [settingNames, candidate, annotated, fieldsAt, Fields.get, Fields.get?, Value.fields]
  exact ⟨valid, data, back, hdata, hback, hvalid.2 hnulls, hmetadata "subject" (by decide),
    hsettings "contentWidth" (by decide), hsettings "fontFamily" (by decide)⟩

/-- Metadata that names a setting takes its place, also with a value that it cannot have. -/
theorem settings_overridden :
    let candidate := annotated [("contentWidth", .int 1000)] []
    Template.isValid candidate = true ∧
      ∃ data back, Data.ofTemplate candidate = .ok data ∧ templateOf data.toValue = .ok back ∧
        Template.isValid back = false ∧
        (fieldsAt candidate "settings").get "contentWidth" = .int 500 ∧
        (fieldsAt back "settings").get "contentWidth" = .int 1000 :=
  ⟨rfl, _, _, rfl, rfl, rfl, rfl, rfl⟩

end EmailStudio.Editor
