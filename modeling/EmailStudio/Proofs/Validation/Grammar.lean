import EmailStudio.Proofs.Document.Normal

/-!
# The grammar of documents

Which values are documents, said without validation: `Shape.Allows` for the values of a prop,
`clauses` for the props of each kind of block, `IsBlock` for blocks and what lies below them, and
`IsDocument` for the whole.

The main result is `isValid_iff_isDocument`: validation accepts exactly the documents. It
goes down the grammar, with one equivalence for each of its notions.
-/

namespace EmailStudio.Grammar

/-! ## Props -/

/-- An entry of a list of networks. -/
inductive IsNetwork : Value → Prop
  | entry {fields : Fields} {name : String} (type : fields.get "type" = .text name)
      (known : name ∈ Catalog.socialNetworks)
      (url : fields.get "url" = .null ∨ ∃ s, fields.get "url" = .text s) :
      IsNetwork (.object fields)

/-- What a prop may be. -/
inductive Shape where
  | text
  | filledText
  | boolean
  | oneOf (options : List String)
  | numberOf (options : List Int)
  | between (low high : Int)
  /-- The whole width, or a number up to a bound. -/
  | width (high : Int)
  | source
  | networks

/-- The values of a shape. A truth value has no value as a number, and neither has what is not
finite. -/
inductive Shape.Allows : Shape → Value → Prop
  | text (s : String) : Allows text (.text s)
  | filledText {s : String} (filled : s ≠ "") : Allows filledText (.text s)
  | boolean (b : Bool) : Allows boolean (.bool b)
  | oneOf {options : List String} {s : String} (mem : s ∈ options) :
      Allows (oneOf options) (.text s)
  | numberOf {options : List Int} {v : Value} {n : Int} (mem : n ∈ options)
      (value : v.rat? = some (n : Rat)) : Allows (numberOf options) v
  | between {low high : Int} {v : Value} {q : Rat} (value : v.rat? = some q)
      (low_le : (low : Rat) ≤ q) (le_high : q ≤ (high : Rat)) : Allows (between low high) v
  | full (high : Int) : Allows (width high) (.text "full")
  | width {high : Int} {v : Value} (between : Allows (between 0 high) v) : Allows (width high) v
  | data {s : String} (start : s.startsWith "data:" = true) : Allows source (.text s)
  | url {s : String} {parts : Url.Parts} (parsed : Url.parts? s.toList = some parts)
      (supported : Url.extension parts.path ∉ Catalog.unsupportedFormats) :
      Allows source (.text s)
  | networks {items : List Value} (entries : ∀ item ∈ items, IsNetwork item) :
      Allows networks (.list items)

/-- What is asked of a prop. Only one that is required may not be absent or null. -/
structure Clause where
  key : String
  shape : Shape
  required : Bool

def Clause.Holds (clause : Clause) (props : Fields) : Prop :=
  clause.shape.Allows (props.get clause.key) ∨
    clause.required = false ∧ props.get clause.key = .null

/-- What is asked of the props of a kind of block. -/
def clauses : Kind → List Clause
  | .header => [⟨"logoWidth", .between 50 300, false⟩, ⟨"logoUrl", .text, false⟩,
      ⟨"logoAlt", .text, false⟩, ⟨"align", .oneOf Catalog.alignments, false⟩,
      ⟨"padding", .oneOf (Catalog.paddings.map (·.1)), false⟩]
  | .text => [⟨"content", .text, false⟩, ⟨"fontSize", .numberOf Catalog.fontSizes, false⟩,
      ⟨"lineHeight", .oneOf Catalog.lineHeights, false⟩,
      ⟨"align", .oneOf Catalog.textAlignments, false⟩,
      ⟨"padding", .oneOf (Catalog.paddings.map (·.1)), false⟩]
  | .image => [⟨"alt", .filledText, true⟩, ⟨"width", .width 600, false⟩, ⟨"src", .source, false⟩,
      ⟨"href", .text, false⟩, ⟨"align", .oneOf Catalog.alignments, false⟩,
      ⟨"padding", .oneOf (Catalog.paddings.map (·.1)), false⟩]
  | .button => [⟨"text", .filledText, true⟩, ⟨"href", .filledText, true⟩,
      ⟨"borderRadius", .numberOf Catalog.borderRadii, false⟩,
      ⟨"fontSize", .numberOf Catalog.fontSizes, false⟩,
      ⟨"align", .oneOf Catalog.alignments, false⟩,
      ⟨"padding", .oneOf (Catalog.buttonPaddings.map (·.1)), false⟩,
      ⟨"fullWidth", .boolean, false⟩]
  | .columns => [⟨"columns", .numberOf Catalog.columnCounts, false⟩,
      ⟨"gap", .oneOf Catalog.columnGaps, false⟩,
      ⟨"verticalAlign", .oneOf Catalog.verticalAligns, false⟩, ⟨"stackOnMobile", .boolean, false⟩]
  | .spacer => [⟨"height", .numberOf Catalog.spacerHeights, false⟩]
  | .divider => [⟨"color", .text, false⟩, ⟨"width", .numberOf Catalog.dividerWidths, false⟩,
      ⟨"style", .oneOf Catalog.dividerStyles, false⟩,
      ⟨"padding", .oneOf (Catalog.paddings.map (·.1)), false⟩]
  | .social => [⟨"iconSize", .numberOf Catalog.socialIconSizes, false⟩,
      ⟨"iconStyle", .oneOf Catalog.socialIconStyles, false⟩,
      ⟨"align", .oneOf Catalog.alignments, false⟩, ⟨"networks", .networks, false⟩]
      ++ Catalog.socialNetworks.map fun name => ⟨Catalog.urlField name, .text, false⟩
  | .footer => [⟨"companyName", .text, false⟩, ⟨"address", .text, false⟩,
      ⟨"unsubscribeText", .text, false⟩, ⟨"backgroundColor", .text, false⟩,
      ⟨"textColor", .text, false⟩, ⟨"showUnsubscribe", .boolean, false⟩]

/-! ## Blocks and documents -/

/-- A block at a depth. Columns may leave their children out, and other blocks have none. -/
inductive IsBlock : Nat → Value → Prop
  | block {depth : Nat} {kind : Kind} {fields props : Fields} (shallow : depth ≤ 3)
      (type : fields.get "type" = .text kind.name) (object : fields.get "props" = .object props)
      (holds : ∀ clause ∈ clauses kind, clause.Holds props)
      (list : kind = .columns →
        fields.get "children" = .null ∨ ∃ items, fields.get "children" = .list items)
      (each : kind = .columns →
        ∀ child ∈ (fields.get "children").items, IsBlock (depth + 1) child) :
      IsBlock depth (.object fields)

inductive IsMetadata : Value → Prop
  | texts {fields : Fields} {subject preheader : String}
      (subject : fields.get "subject" = .text subject)
      (preheader : fields.get "preheader" = .text preheader) : IsMetadata (.object fields)

inductive IsSettings : Value → Prop
  | texts {fields : Fields} {color font : String}
      (backgroundColor : fields.get "backgroundColor" = .text color)
      (contentWidth : Shape.Allows (.between 400 700) (fields.get "contentWidth"))
      (fontFamily : fields.get "fontFamily" = .text font) : IsSettings (.object fields)

inductive IsDocument : Value → Prop
  | document {fields : Fields} {content : List Value}
      (version : fields.get "version" = .text "1.0") (metadata : IsMetadata (fields.get "metadata"))
      (settings : IsSettings (fields.get "settings")) (list : fields.get "content" = .list content)
      (blocks : ∀ block ∈ content, IsBlock 1 block) : IsDocument (.object fields)

/-! ## Rules and clauses -/

section Rules

variable {v : Value} {options : List String} {low high : Int} {props : Fields} {key : String}
  {problem : PropProblem}

theorem isText_iff_exists : v.isText = true ↔ ∃ s, v = .text s := by
  cases v <;> simp [Value.isText]

theorem isText_iff : v.isText = true ↔ Shape.text.Allows v := by
  rw [isText_iff_exists]
  constructor
  · rintro ⟨s, rfl⟩
    exact .text s
  · intro h
    cases h with
    | text s => exact ⟨s, rfl⟩

theorem isBool_iff : v.isBool = true ↔ Shape.boolean.Allows v := by
  constructor
  · intro h
    cases v with
    | bool b => exact .boolean b
    | _ => cases h
  · intro h
    cases h with
    | boolean b => rfl

theorem isFilled_iff : Rule.isFilled v = true ↔ Shape.filledText.Allows v := by
  constructor
  · intro h
    cases v with
    | text s => exact .filledText (by simpa [Rule.isFilled] using h)
    | _ => cases h
  · intro h
    cases h with
    | filledText filled => simpa [Rule.isFilled] using filled

theorem isOneOf_iff_exists :
    Rule.isOneOf options v = true ↔ ∃ s, v = .text s ∧ s ∈ options := by
  cases v <;> simp [Rule.isOneOf]

theorem isOneOf_iff : Rule.isOneOf options v = true ↔ (Shape.oneOf options).Allows v := by
  rw [isOneOf_iff_exists]
  constructor
  · rintro ⟨s, rfl, mem⟩
    exact .oneOf mem
  · intro h
    cases h with
    | oneOf mem => exact ⟨_, rfl, mem⟩

theorem isNumberOf_iff {options : List Int} :
    Rule.isNumberOf options v = true ↔ (Shape.numberOf options).Allows v := by
  simp only [Rule.isNumberOf, List.any_eq_true, Value.isWhole, decide_eq_true_eq]
  constructor
  · rintro ⟨n, mem, value⟩
    exact .numberOf mem value
  · intro h
    cases h with
    | numberOf mem value => exact ⟨_, mem, value⟩

theorem isBetween_iff : v.isBetween low high = true ↔ (Shape.between low high).Allows v := by
  rw [Value.isBetween_iff_exists]
  constructor
  · rintro ⟨q, value, hlow, hhigh⟩
    exact .between value hlow hhigh
  · intro h
    cases h with
    | between value hlow hhigh => exact ⟨_, value, hlow, hhigh⟩

theorem isImageWidth_iff : Rule.isImageWidth v = true ↔ (Shape.width 600).Allows v := by
  constructor
  · intro h
    cases v with
    | text s =>
      obtain rfl : s = "full" := of_decide_eq_true h
      exact .full 600
    | _ => exact .width (isBetween_iff.1 h)
  · intro h
    cases h with
    | full => rfl
    | width between =>
      have hbetween := isBetween_iff.2 between
      cases v with
      | text s => cases hbetween
      | _ => exact hbetween

theorem isSource_iff : Rule.isSource v = true ↔ Shape.source.Allows v := by
  constructor
  · intro h
    cases v with
    | text s =>
      rw [Rule.isSource, Rule.sourceProblem?] at h
      split_ifs at h with hdata
      · exact .data hdata
      · split at h
        · cases h
        · rename_i parts parsed
          dsimp only at h
          split_ifs at h with hformat
          · cases h
          · exact .url parsed fun mem => hformat (List.contains_iff_mem.2 mem)
    | _ => cases h
  · intro h
    cases h with
    | data start => rw [Rule.isSource, Rule.sourceProblem?, if_pos start]; rfl
    | url parsed supported =>
      rw [Rule.isSource, Rule.sourceProblem?, parsed]
      dsimp only
      rw [if_neg fun mem => supported (List.contains_iff_mem.1 mem), ite_self]
      rfl

theorem network_iff {index : Nat} : Rule.network index v = [] ↔ IsNetwork v := by
  rw [Rule.network_eq_nil_iff]
  simp only [isOneOf_iff_exists, isText_iff_exists]
  constructor
  · rintro ⟨fields, rfl, ⟨name, type, known⟩, url⟩
    exact .entry type known url
  · intro h
    cases h with
    | entry type known url => exact ⟨_, rfl, ⟨_, type, known⟩, url⟩

/-! ### Clauses -/

theorem optional_iff {good : Value → Bool} {shape : Shape}
    (h : ∀ {v}, good v = true ↔ shape.Allows v) :
    Rule.optional props key problem good = [] ↔ Clause.Holds ⟨key, shape, false⟩ props := by
  rw [Rule.optional_eq_nil_iff, h, Clause.Holds, or_comm]
  simp only [true_and]

theorem text_iff : Rule.text props key = [] ↔ Clause.Holds ⟨key, .text, false⟩ props :=
  optional_iff isText_iff

theorem boolean_iff : Rule.boolean props key = [] ↔ Clause.Holds ⟨key, .boolean, false⟩ props :=
  optional_iff isBool_iff

theorem choice_iff :
    Rule.choice props key options = [] ↔ Clause.Holds ⟨key, .oneOf options, false⟩ props :=
  optional_iff isOneOf_iff

theorem number_iff {options : List Int} :
    Rule.number props key options = [] ↔ Clause.Holds ⟨key, .numberOf options, false⟩ props :=
  optional_iff isNumberOf_iff

theorem required_iff :
    Rule.required props key problem = [] ↔ Clause.Holds ⟨key, .filledText, true⟩ props := by
  rw [Rule.required_eq_nil_iff, isFilled_iff, Clause.Holds]
  simp only [Bool.true_eq_false, false_and, or_false]

theorem source_iff : Rule.source props = [] ↔ Clause.Holds ⟨"src", .source, false⟩ props := by
  rw [Rule.source_eq_nil_iff, isSource_iff, Clause.Holds, or_comm]
  simp only [true_and]

theorem networks_iff :
    Rule.networks props = [] ↔ Clause.Holds ⟨"networks", .networks, false⟩ props := by
  rw [Rule.networks_eq_nil_iff, Clause.Holds, or_comm]
  simp only [network_iff, true_and]
  refine or_congr_left ⟨?_, ?_⟩
  · rintro ⟨items, list, each⟩
    rw [list]
    refine .networks fun item mem => ?_
    obtain ⟨index, hindex⟩ := List.getElem?_of_mem mem
    exact each index item hindex
  · intro h
    generalize props.get "networks" = v at h
    cases h with
    | networks entries =>
      exact ⟨_, rfl, fun index item hindex => entries item (List.mem_of_getElem? hindex)⟩

/-- The rule of a kind finds nothing exactly when every clause of the kind holds. -/
theorem rule_iff {kind : Kind} :
    kind.rule props = [] ↔ ∀ clause ∈ clauses kind, clause.Holds props := by
  cases kind <;>
    simp only [Kind.rule, Rule.header, Rule.textBlock, Rule.image, Rule.button, Rule.columns,
      Rule.spacer, Rule.divider, Rule.social, Rule.footer, Rule.paddingNames,
      Rule.buttonPaddingNames, Catalog.logoWidthMin, Catalog.logoWidthMax, List.append_eq_nil_iff,
      List.flatMap_eq_nil_iff, text_iff, boolean_iff, choice_iff, number_iff, required_iff,
      source_iff, networks_iff, optional_iff isBetween_iff, optional_iff isImageWidth_iff, clauses,
      List.forall_mem_cons, List.forall_mem_append, List.forall_mem_map, List.not_mem_nil,
      false_imp_iff, implies_true, and_true, and_assoc]

/-! ### Sources that cannot be read -/

theorem problem_of_mem_issueIf {bad : Bool} {issue : PropIssue}
    (h : issue ∈ Rule.issueIf bad key problem) : issue.problem = problem := by
  cases bad with
  | true => rw [List.mem_singleton.1 h]
  | false => cases h

theorem sourceProblem?_eq_notUrl_iff {s : String} : Rule.sourceProblem? s = some .notUrl ↔
    s.startsWith "data:" = false ∧ Url.parts? s.toList = none := by
  rw [Rule.sourceProblem?]
  cases s.startsWith "data:" with
  | true => simp
  | false =>
    cases Url.parts? s.toList with
    | none => simp
    | some parts =>
      dsimp only
      split_ifs <;> simp

theorem notUrl_mem_source_iff : (⟨.prop "src", .notUrl⟩ : PropIssue) ∈ Rule.source props ↔
    ∃ s, props.get "src" = .text s ∧ s.startsWith "data:" = false ∧
      Url.parts? s.toList = none := by
  unfold Rule.source
  cases props.get "src" with
  | text s =>
    simp only [List.mem_map, Option.mem_toList, PropIssue.mk.injEq, true_and, exists_eq_right,
      sourceProblem?_eq_notUrl_iff, Value.text.injEq, exists_eq_left']
  | _ => simp

/-- An address that cannot be read is an issue of the source of an image, as any other is. -/
theorem notUrl_mem_image_iff : (⟨.prop "src", .notUrl⟩ : PropIssue) ∈ Rule.image props ↔
    ∃ s, props.get "src" = .text s ∧ s.startsWith "data:" = false ∧
      Url.parts? s.toList = none := by
  rw [← notUrl_mem_source_iff]
  simp only [Rule.image, List.mem_append]
  constructor
  · rintro (((((h | h) | h) | h) | h) | h)
    · cases problem_of_mem_issueIf h
    · cases problem_of_mem_issueIf h
    · exact h
    · cases problem_of_mem_issueIf h
    · cases problem_of_mem_issueIf h
    · cases problem_of_mem_issueIf h
  · exact fun h => .inl (.inl (.inl (.inr h)))

end Rules

/-! ## Validation -/

theorem ofValue?_iff {v : Value} {kind : Kind} :
    Kind.ofValue? v = some kind ↔ v = .text kind.name := by
  refine ⟨Kind.eq_text_of_ofValue?, ?_⟩
  rintro rfl
  exact Kind.ofName?_name kind

theorem issuesOfChildren_iff {depth : Int} {v : Value} :
    Block.issuesOfChildren depth v = [] ↔ (v = .null ∨ ∃ items, v = .list items) ∧
      ∀ child ∈ v.items, Block.issues (depth + 1) child = [] := by
  rw [Block.issuesOfChildren_eq_nil_iff]
  cases v <;> simp [Value.items]

/-- A block has no issues exactly when it is one of the grammar. -/
theorem issues_iff {depth : Nat} {v : Value} :
    Block.issues (depth : Int) v = [] ↔ IsBlock depth v := by
  induction v using Value.inductionOnChildren generalizing depth with
  | step v ih =>
    rw [Block.issues_eq_nil_iff]
    constructor
    · rintro ⟨shallow, fields, kind, props, rfl, judged, rule, children⟩
      obtain ⟨type, object⟩ := Block.judgedProps_eq_ok_iff.1 judged
      simp only [issuesOfChildren_iff] at children
      exact .block (Int.ofNat_le.1 shallow) (ofValue?_iff.1 type) object (rule_iff.1 rule)
        (fun hk => (children hk).1) fun hk child mem => (ih child mem).1 ((children hk).2 child mem)
    · intro h
      cases h with
      | block shallow type object holds list each =>
        have judged := Block.judgedProps_eq_ok_iff.2 ⟨ofValue?_iff.2 type, object⟩
        refine ⟨Int.ofNat_le.2 shallow, _, _, _, rfl, judged, rule_iff.2 holds, fun hk => ?_⟩
        refine issuesOfChildren_iff.2 ⟨list hk, fun child mem => ?_⟩
        exact (ih child mem).2 (each hk child mem)

theorem metadataIssues_iff {v : Value} : Template.metadataIssues v = [] ↔ IsMetadata v := by
  rw [Template.metadataIssues_eq_nil_iff]
  simp only [isText_iff_exists]
  constructor
  · rintro ⟨fields, rfl, ⟨subject, hsubject⟩, preheader, hpreheader⟩
    exact .texts hsubject hpreheader
  · intro h
    cases h with
    | texts subject preheader => exact ⟨_, rfl, ⟨_, subject⟩, _, preheader⟩

theorem widthIssues_iff {v : Value} :
    Template.widthIssues v = [] ↔ (Shape.between 400 700).Allows v :=
  Template.widthIssues_eq_nil_iff.trans isBetween_iff

theorem settingsIssues_iff {v : Value} : Template.settingsIssues v = [] ↔ IsSettings v := by
  rw [Template.settingsIssues_eq_nil_iff]
  simp only [isText_iff_exists, widthIssues_iff]
  constructor
  · rintro ⟨fields, rfl, ⟨color, hcolor⟩, hwidth, font, hfont⟩
    exact .texts hcolor hwidth hfont
  · intro h
    cases h with
    | texts color width font => exact ⟨_, rfl, ⟨_, color⟩, width, _, font⟩

theorem contentIssues_iff {v : Value} : Template.contentIssues v = [] ↔
    ∃ content, v = .list content ∧ ∀ block ∈ content, IsBlock 1 block := by
  have hblock (block : Value) : Block.issues 1 block = [] ↔ IsBlock 1 block := @issues_iff 1 block
  rw [Template.contentIssues_eq_nil_iff]
  simp only [hblock]

/-- Validation accepts exactly the documents. It judges every value: an address that cannot be read,
too, is no more than an issue of the image. -/
theorem isValid_iff_isDocument (v : Value) :
    (Template.isValid v = true ↔ IsDocument v) ∧ (Template.errors v = [] ↔ IsDocument v) ∧
      ∀ props : Fields, (⟨.prop "src", .notUrl⟩ : PropIssue) ∈ Rule.image props ↔
        ∃ s, props.get "src" = .text s ∧ s.startsWith "data:" = false ∧
          Url.parts? s.toList = none := by
  have hissues : Template.issues v = [] ↔ IsDocument v := by
    rw [Template.issues_eq_nil_iff]
    simp only [Template.versionIssues_eq_nil_iff, metadataIssues_iff, settingsIssues_iff,
      contentIssues_iff]
    constructor
    · rintro ⟨fields, rfl, version, metadata, settings, content, list, blocks⟩
      exact .document version metadata settings list blocks
    · intro h
      cases h with
      | document version metadata settings list blocks =>
        exact ⟨_, rfl, version, metadata, settings, _, list, blocks⟩
  exact ⟨Template.isValid_iff.trans hissues, List.map_eq_nil_iff.trans hissues,
    fun _ => notUrl_mem_image_iff⟩

end EmailStudio.Grammar
