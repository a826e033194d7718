import EmailStudio.Proofs.Api.Answer
import EmailStudio.Proofs.Validation.Places

/-!
# What the editor offers

The service serves the catalog, and the editor fills its pickers from it. `pickers` lists them, each
with its entry of the catalog and the place in a template that it is for. A picker agrees with
validation if, wherever in a candidate its place is, a value there has no issue exactly when it is
on offer.

The main result is `pickers_agree`: every picker agrees but the two for fonts. Validation
takes any text as the font of a template, and looks at no font of a text at all.
-/

namespace EmailStudio

namespace Catalog

/-- How an entry of the catalog shows the values on offer. -/
inductive Display where
  /-- A list of them. -/
  | plain
  /-- A list of objects that have one each, beside its label. -/
  | labelled
  /-- An object with a field of each name. -/
  | named
  /-- An object with the least and the greatest of them. -/
  | range
deriving DecidableEq

/-- A value is on offer. Numbers are as good as each other when they are equal; truth values are no
numbers. -/
inductive Offers : Display → Value → Value → Prop
  | text {items : List Value} {s : String} (mem : .text s ∈ items) :
      Offers .plain (.list items) (.text s)
  | number {items : List Value} {item v : Value} {q : Rat} (mem : item ∈ items)
      (value : item.rat? = some q) (equal : v.rat? = some q) : Offers .plain (.list items) v
  | labelled {items : List Value} {fields : Fields} {s : String} (mem : .object fields ∈ items)
      (value : fields.get "value" = .text s) : Offers .labelled (.list items) (.text s)
  | named {fields : Fields} {name : String} {v : Value} (mem : (name, v) ∈ fields) :
      Offers .named (.object fields) (.text name)
  | range {fields : Fields} {v : Value} {low high q : Rat}
      (min : (fields.get "min").rat? = some low) (max : (fields.get "max").rat? = some high)
      (value : v.rat? = some q) (low_le : low ≤ q) (le_high : q ≤ high) :
      Offers .range (.object fields) v

open Grammar

variable {v : Value}

theorem offers_texts {ss : List String} :
    Offers .plain (texts ss) v ↔ (Shape.oneOf ss).Allows v := by
  constructor
  · intro h
    cases h with
    | text mem =>
      obtain ⟨s, hs, heq⟩ := List.mem_map.1 mem
      exact Value.text.inj heq ▸ .oneOf hs
    | number mem value =>
      obtain ⟨s, -, rfl⟩ := List.mem_map.1 mem
      cases value
  · intro h
    cases h with
    | oneOf mem => exact .text (List.mem_map_of_mem mem)

theorem offers_numbers {ns : List Int} :
    Offers .plain (numbers ns) v ↔ (Shape.numberOf ns).Allows v := by
  constructor
  · intro h
    cases h with
    | text mem =>
      obtain ⟨n, -, heq⟩ := List.mem_map.1 mem
      cases heq
    | number mem value equal =>
      obtain ⟨n, hn, rfl⟩ := List.mem_map.1 mem
      exact .numberOf hn (equal.trans value.symm)
  · intro h
    cases h with
    | numberOf mem value => exact .number (List.mem_map_of_mem mem) rfl value

theorem offers_fonts : Offers .labelled (toValue.fields.get "fonts") v ↔
    (Shape.oneOf (fonts.map (·.1))).Allows v := by
  constructor
  · intro h
    obtain ⟨items, hitems⟩ : ∃ items, toValue.fields.get "fonts" = .list items := ⟨_, rfl⟩
    rw [hitems] at h
    cases h with
    | labelled mem value =>
      cases hitems
      obtain ⟨font, hfont, heq⟩ := List.mem_map.1 mem
      cases heq
      cases value
      exact .oneOf (List.mem_map_of_mem hfont)
  · intro h
    cases h with
    | oneOf mem =>
      obtain ⟨font, hfont, rfl⟩ := List.mem_map.1 mem
      exact .labelled (List.mem_map_of_mem hfont) rfl

theorem offers_named {pairs : List (String × String)} :
    Offers .named (named pairs) v ↔ (Shape.oneOf (pairs.map (·.1))).Allows v := by
  constructor
  · intro h
    cases h with
    | named mem =>
      obtain ⟨pair, hpair, heq⟩ := List.mem_map.1 mem
      exact .oneOf (List.mem_map.2 ⟨pair, hpair, congrArg Prod.fst heq⟩)
  · intro h
    cases h with
    | oneOf mem =>
      obtain ⟨pair, hpair, rfl⟩ := List.mem_map.1 mem
      exact .named (List.mem_map.2 ⟨pair, hpair, rfl⟩)

theorem offers_range {low high : Int} :
    Offers .range (.object [("min", .int low), ("max", .int high)]) v ↔
      (Shape.between low high).Allows v := by
  constructor
  · intro h
    cases h with
    | range min max value low_le le_high =>
      cases min
      cases max
      exact .between value low_le le_high
  · intro h
    cases h with
    | between value low_le le_high => exact .range rfl rfl value low_le le_high

end Catalog

/-! ## Places and issues there -/

/-- What a picker may be for. -/
inductive Place where
  | setting (key : String)
  | prop (kind : Kind) (key : String)
  /-- The type of an entry in a list of networks. -/
  | network
deriving DecidableEq

/-- Where a place is in a candidate. -/
inductive Spot where
  | setting (key : String)
  | prop (index : Nat) (below : List Nat) (key : String)
  | network (index : Nat) (below : List Nat) (entry : Nat)

/-- An issue is about what stands at a spot. -/
inductive Issue.IsAbout : Issue → Spot → Prop
  | setting (key : String) : IsAbout (.settingNotText key) (.setting key)
  | width : IsAbout .widthNotNumber (.setting "contentWidth")
  | bounds : IsAbout .widthNotBetween (.setting "contentWidth")
  | prop (index : Nat) (below : List Nat) (key : String) (problem : PropProblem) :
      IsAbout (.block index ⟨below, .prop ⟨.prop key, problem⟩⟩) (.prop index below key)
  | network (index : Nat) (below : List Nat) (entry : Nat) (problem : PropProblem) :
      IsAbout (.block index ⟨below, .prop ⟨.networkField entry "type", problem⟩⟩)
        (.network index below entry)

theorem Issue.IsAbout.key_eq {name key : String}
    (h : (Issue.settingNotText name).IsAbout (.setting key)) : name = key := by
  cases h
  rfl

theorem Issue.IsAbout.eq_contentWidth {issue : Issue} {key : String}
    (h : issue.IsAbout (.setting key))
    (hissue : issue = .widthNotNumber ∨ issue = .widthNotBetween) : key = "contentWidth" := by
  cases h with
  | setting => rcases hissue with h | h <;> cases h
  | _ => rfl

namespace Template

/-- A candidate has a place at a spot, with a value there. -/
inductive HasAt : Value → Place → Spot → Value → Prop
  | setting {fields settings : Fields} {key : String} {v : Value}
      (object : fields.get "settings" = .object settings) (value : settings.get key = v) :
      HasAt (.object fields) (.setting key) (.setting key) v
  | prop {candidate v : Value} {index : Nat} {below : List Nat} {kind : Kind} {props : Fields}
      {key : String} (judges : Judges candidate index below kind props)
      (value : props.get key = v) : HasAt candidate (.prop kind key) (.prop index below key) v
  | network {candidate v : Value} {index : Nat} {below : List Nat} {props entry : Fields}
      {items : List Value} {n : Nat} (judges : Judges candidate index below .social props)
      (list : props.get "networks" = .list items) (entry_eq : items[n]? = some (.object entry))
      (value : entry.get "type" = v) : HasAt candidate .network (.network index below n) v

/-- A candidate has no issue about what stands at a spot. -/
def Clear (candidate : Value) (spot : Spot) : Prop :=
  ∀ issue ∈ issues candidate, ¬issue.IsAbout spot

theorem clear_prop_iff {candidate : Value} {index : Nat} {below : List Nat} {kind : Kind}
    {props : Fields} (judges : Judges candidate index below kind props) {key : String} :
    Clear candidate (.prop index below key) ↔ Rule.Clears key (kind.rule props) := by
  constructor
  · rintro h ⟨_, problem⟩ hissue rfl
    exact h _ (judges.mem_issues_iff.2 hissue) (.prop index below key problem)
  · intro h issue hissue about
    cases about with
    | prop => exact h _ (judges.mem_issues_iff.1 hissue) rfl

/-- The type of an entry is judged by itself. -/
theorem clear_network_iff {candidate : Value} {index : Nat} {below : List Nat}
    {props entry : Fields} {items : List Value} {n : Nat}
    (judges : Judges candidate index below .social props)
    (list : props.get "networks" = .list items) (entry_eq : items[n]? = some (.object entry)) :
    Clear candidate (.network index below n) ↔
      (Grammar.Shape.oneOf Catalog.socialNetworks).Allows (entry.get "type") := by
  rw [← Grammar.isOneOf_iff]
  constructor
  · intro h
    by_contra hbad
    have hentry : (⟨.networkField n "type", .notOneOf Catalog.socialNetworks⟩ : PropIssue) ∈
        Rule.network n (.object entry) := by
      rw [Rule.network, if_neg hbad]
      exact List.mem_append_left _ (List.mem_singleton_self _)
    have hnetworks : (⟨.networkField n "type", .notOneOf Catalog.socialNetworks⟩ : PropIssue) ∈
        Rule.networks props := by
      rw [Rule.networks, list]
      exact List.mem_flatMap.2 ⟨(_, n), List.mk_mem_zipIdx_iff_getElem?.2 entry_eq, hentry⟩
    have hrule : (⟨.networkField n "type", .notOneOf Catalog.socialNetworks⟩ : PropIssue) ∈
        Kind.social.rule props :=
      List.mem_append_left _ (List.mem_append_right _ hnetworks)
    exact h _ (judges.mem_issues_iff.2 hrule) (.network index below n _)
  · intro hgood issue hissue about
    cases about with
    | network _ _ _ problem =>
      have hrule := judges.mem_issues_iff.1 hissue
      simp only [Kind.rule, Rule.social, List.mem_append, List.mem_flatMap] at hrule
      rcases hrule with (((h | h) | h) | h) | ⟨name, -, h⟩
      · cases Rule.place_of_mem_issueIf h
      · cases Rule.place_of_mem_issueIf h
      · cases Rule.place_of_mem_issueIf h
      · rw [Rule.networks, list] at h
        obtain ⟨⟨item, m⟩, hitem, h⟩ := List.mem_flatMap.1 h
        have hplace := Rule.place_of_mem_network h
        simp only [reduceCtorEq, PropPlace.networkField.injEq, false_or] at hplace
        obtain ⟨-, rfl, -⟩ := hplace
        cases (List.mk_mem_zipIdx_iff_getElem?.1 hitem).symm.trans entry_eq
        simp only [Rule.network, hgood, if_true, List.nil_append] at h
        split_ifs at h
        · cases h
        · exact absurd h (by simp)
      · cases Rule.place_of_mem_issueIf h

/-! ### Settings -/

section Settings

variable {fields settings : Fields} {key : String} {issue : Issue}

/-- Only the settings have issues about them. -/
theorem notMem_of_isAbout_setting (about : issue.IsAbout (.setting key)) (v : Value) :
    issue ∉ versionIssues v ∧ issue ∉ metadataIssues v ∧ issue ∉ contentIssues v := by
  cases about <;> refine ⟨?_, ?_, ?_⟩
  all_goals
    simp only [versionIssues, metadataIssues, contentIssues]
    split <;> simp

theorem clear_setting_iff (object : fields.get "settings" = .object settings) :
    Clear (.object fields) (.setting key) ↔
      ∀ issue ∈ settingsIssues (.object settings), ¬issue.IsAbout (.setting key) := by
  rw [← object]
  constructor
  · intro h issue hissue about
    exact h issue ((mem_issues_iff_settingsIssues (notMem_of_isAbout_setting about)).2 hissue) about
  · intro h issue hissue about
    exact h issue ((mem_issues_iff_settingsIssues (notMem_of_isAbout_setting about)).1 hissue) about

theorem mem_widthIssues {v : Value} (h : issue ∈ widthIssues v) :
    issue = .widthNotNumber ∨ issue = .widthNotBetween := by
  unfold widthIssues at h
  split_ifs at h
  · exact .inl (List.mem_singleton.1 h)
  · cases h
  · exact .inr (List.mem_singleton.1 h)

theorem clear_width_iff (object : fields.get "settings" = .object settings) :
    Clear (.object fields) (.setting "contentWidth") ↔
      (Grammar.Shape.between 400 700).Allows (settings.get "contentWidth") := by
  rw [clear_setting_iff object, ← Grammar.widthIssues_iff, List.eq_nil_iff_forall_not_mem]
  simp only [settingsIssues, List.mem_append]
  constructor
  · intro h issue hissue
    refine h issue (.inl (.inr hissue)) ?_
    rcases mem_widthIssues hissue with rfl | rfl
    · exact .width
    · exact .bounds
  · rintro h issue ((hcolor | hwidth) | hfont) about
    · split_ifs at hcolor
      · cases hcolor
      · cases List.mem_singleton.1 hcolor
        exact absurd about.key_eq (by decide)
    · exact h issue hwidth
    · split_ifs at hfont
      · cases hfont
      · cases List.mem_singleton.1 hfont
        exact absurd about.key_eq (by decide)

theorem clear_font_iff (object : fields.get "settings" = .object settings) :
    Clear (.object fields) (.setting "fontFamily") ↔
      (settings.get "fontFamily").isText = true := by
  rw [clear_setting_iff object]
  simp only [settingsIssues, List.mem_append]
  constructor
  · intro h
    by_contra hbad
    exact h (.settingNotText "fontFamily")
      (.inr (by rw [if_neg hbad]; exact List.mem_singleton_self _)) (.setting "fontFamily")
  · rintro hgood issue ((hcolor | hwidth) | hfont) about
    · split_ifs at hcolor
      · cases hcolor
      · cases List.mem_singleton.1 hcolor
        exact absurd about.key_eq (by decide)
    · exact absurd (about.eq_contentWidth (mem_widthIssues hwidth)) (by decide)
    · rw [if_pos hgood] at hfont
      cases hfont

end Settings

end Template

/-! ## Pickers -/

/-- What the editor offers for a place, from an entry of the catalog. -/
structure Picker where
  entry : String
  display : Catalog.Display
  place : Place
deriving DecidableEq

namespace Picker

def Offers (picker : Picker) (v : Value) : Prop :=
  Catalog.Offers picker.display (Catalog.toValue.fields.get picker.entry) v

/-- Wherever a candidate has the place, validation takes what is on offer and nothing else. -/
def Agrees (picker : Picker) : Prop :=
  ∀ (candidate : Value) (spot : Spot) (v : Value), Template.HasAt candidate picker.place spot v →
    v ≠ .null → (Template.Clear candidate spot ↔ picker.Offers v)

/-- A picker for a prop agrees if it offers what the clause about the prop allows. -/
theorem agrees_prop {entry key : String} {display : Catalog.Display} {kind : Kind}
    {shape : Grammar.Shape} (clause : ⟨key, shape, false⟩ ∈ Grammar.clauses kind)
    (hkey : key ≠ "networks")
    (offers : ∀ {v}, Picker.Offers ⟨entry, display, .prop kind key⟩ v ↔ shape.Allows v) :
    Agrees ⟨entry, display, .prop kind key⟩ := by
  intro candidate spot v has given
  cases has with
  | prop judges value =>
    rw [Template.clear_prop_iff judges, Grammar.clears_iff_holds clause hkey, offers, ← value]
    exact or_iff_left fun h => given (value.symm.trans h.2)

theorem agrees_network : Agrees ⟨"socialNetworks", .plain, .network⟩ := by
  intro candidate spot v has _
  cases has with
  | network judges list entry_eq value =>
    subst value
    exact (Template.clear_network_iff judges list entry_eq).trans Catalog.offers_texts.symm

theorem agrees_width : Agrees ⟨"contentWidth", .range, .setting "contentWidth"⟩ := by
  intro candidate spot v has _
  cases has with
  | setting object value =>
    subst value
    exact (Template.clear_width_iff object).trans Catalog.offers_range.symm

end Picker

/-- The pickers of the editor. -/
def pickers : List Picker :=
  [⟨"fonts", .labelled, .setting "fontFamily"⟩,
    ⟨"fonts", .labelled, .prop .text "fontFamily"⟩,
    ⟨"contentWidth", .range, .setting "contentWidth"⟩,
    ⟨"fontSizes", .plain, .prop .text "fontSize"⟩,
    ⟨"fontSizes", .plain, .prop .button "fontSize"⟩,
    ⟨"lineHeights", .plain, .prop .text "lineHeight"⟩,
    ⟨"borderRadius", .plain, .prop .button "borderRadius"⟩,
    ⟨"padding", .named, .prop .header "padding"⟩,
    ⟨"padding", .named, .prop .text "padding"⟩,
    ⟨"padding", .named, .prop .image "padding"⟩,
    ⟨"padding", .named, .prop .divider "padding"⟩,
    ⟨"buttonPadding", .named, .prop .button "padding"⟩,
    ⟨"spacerHeights", .plain, .prop .spacer "height"⟩,
    ⟨"dividerWidths", .plain, .prop .divider "width"⟩,
    ⟨"columnCounts", .plain, .prop .columns "columns"⟩,
    ⟨"socialIconSizes", .plain, .prop .social "iconSize"⟩,
    ⟨"socialIconStyles", .plain, .prop .social "iconStyle"⟩,
    ⟨"socialNetworks", .plain, .network⟩]

/-- The fonts are offered for two places, and nothing else is offered there. -/
theorem eq_of_mem_pickers : ∀ picker ∈ pickers,
    picker = ⟨"fonts", .labelled, .setting "fontFamily"⟩ ∨
    picker = ⟨"fonts", .labelled, .prop .text "fontFamily"⟩ ∨
    picker.place ≠ .setting "fontFamily" ∧ picker.place ≠ .prop .text "fontFamily" := by
  decide

theorem agrees_of_mem_pickers {picker : Picker} (mem : picker ∈ pickers)
    (hsetting : picker.place ≠ .setting "fontFamily")
    (htext : picker.place ≠ .prop .text "fontFamily") : picker.Agrees := by
  simp only [pickers, List.mem_cons, List.not_mem_nil, or_false] at mem
  rcases mem with rfl | rfl | rfl | rfl | rfl | rfl | rfl | rfl | rfl | rfl | rfl | rfl | rfl |
    rfl | rfl | rfl | rfl | rfl
  · exact absurd rfl hsetting
  · exact absurd rfl htext
  · exact Picker.agrees_width
  · exact Picker.agrees_prop (by simp [Grammar.clauses]) (by decide) Catalog.offers_numbers
  · exact Picker.agrees_prop (by simp [Grammar.clauses]) (by decide) Catalog.offers_numbers
  · exact Picker.agrees_prop (by simp [Grammar.clauses]) (by decide) Catalog.offers_texts
  · exact Picker.agrees_prop (by simp [Grammar.clauses]) (by decide) Catalog.offers_numbers
  · exact Picker.agrees_prop (by simp [Grammar.clauses]) (by decide) Catalog.offers_named
  · exact Picker.agrees_prop (by simp [Grammar.clauses]) (by decide) Catalog.offers_named
  · exact Picker.agrees_prop (by simp [Grammar.clauses]) (by decide) Catalog.offers_named
  · exact Picker.agrees_prop (by simp [Grammar.clauses]) (by decide) Catalog.offers_named
  · exact Picker.agrees_prop (by simp [Grammar.clauses]) (by decide) Catalog.offers_named
  · exact Picker.agrees_prop (by simp [Grammar.clauses]) (by decide) Catalog.offers_numbers
  · exact Picker.agrees_prop (by simp [Grammar.clauses]) (by decide) Catalog.offers_numbers
  · exact Picker.agrees_prop (by simp [Grammar.clauses]) (by decide) Catalog.offers_numbers
  · exact Picker.agrees_prop (by simp [Grammar.clauses]) (by decide) Catalog.offers_numbers
  · exact Picker.agrees_prop (by simp [Grammar.clauses]) (by decide) Catalog.offers_texts
  · exact Picker.agrees_network

/-! ### Fonts -/

/-- Nothing is asked of the font of a text. -/
theorem Template.clear_textFont {candidate v : Value} {spot : Spot}
    (has : HasAt candidate (.prop .text "fontFamily") spot v) : Clear candidate spot := by
  have hnone : ∀ clause ∈ Grammar.clauses .text, clause.key ≠ "fontFamily" := by decide
  cases has with
  | prop judges _ =>
    rw [clear_prop_iff judges, Grammar.clears_iff (by decide)]
    exact fun clause hclause heq => absurd heq (hnone clause hclause)

theorem Template.clear_settingsFont_iff {candidate v : Value} {spot : Spot}
    (has : HasAt candidate (.setting "fontFamily") spot v) :
    Clear candidate spot ↔ v.isText = true := by
  cases has with
  | setting object value =>
    subst value
    exact clear_font_iff object

theorem isText_of_allows {options : List String} {v : Value}
    (h : (Grammar.Shape.oneOf options).Allows v) : v.isText = true := by
  cases h with
  | oneOf => rfl

/-- Of the font in the settings validation asks only that it be a text, and of the font of a text
nothing. Of all else it takes what is on offer and nothing else. -/
theorem clear_iff_of_mem_pickers {picker : Picker} (mem : picker ∈ pickers) {candidate v : Value}
    {spot : Spot} (has : Template.HasAt candidate picker.place spot v) (given : v ≠ .null) :
    Template.Clear candidate spot ↔ picker.Offers v ∨ picker.place = .prop .text "fontFamily" ∨
      picker.place = .setting "fontFamily" ∧ v.isText = true := by
  obtain rfl | rfl | ⟨hsetting, htext⟩ := eq_of_mem_pickers picker mem
  · rw [Template.clear_settingsFont_iff has]
    constructor
    · exact fun h => .inr (.inr ⟨rfl, h⟩)
    · rintro (offered | h | ⟨-, h⟩)
      · exact isText_of_allows (Catalog.offers_fonts.1 offered)
      · cases h
      · exact h
  · exact iff_of_true (Template.clear_textFont has) (.inr (.inl rfl))
  · rw [agrees_of_mem_pickers mem hsetting htext candidate spot v has given]
    simp only [hsetting, htext, false_and, or_false]

/-! ## Agreement -/

open Api

/-- The pickers are filled from what the service answers. Wherever a candidate has the place of a
picker, validation takes all that the picker offers; and, but for the fonts, of what may stand there
it takes nothing else. -/
theorem pickers_agree {service : Service} {request : Request} {now : Time}
    (leads : service.LeadsTo request .constraints) {picker : Picker} (mem : picker ∈ pickers)
    {candidate v : Value} {spot : Spot} (has : Template.HasAt candidate picker.place spot v)
    (given : v ≠ .null) :
    service.respond request now =
      (service, ⟨200, .document Catalog.toValue, request.correlation⟩) ∧
    (Template.Clear candidate spot ↔ picker.Offers v ∨ picker.place = .prop .text "fontFamily" ∨
      picker.place = .setting "fontFamily" ∧ v.isText = true) := by
  refine ⟨?_, clear_iff_of_mem_pickers mem has given⟩
  exact Service.respond_of_ok leads (Service.reaches_of_needsDesigns rfl) rfl (by decide : 200 ≠ 500)

/-- A request for the catalog. -/
def askCatalog : Request :=
  ⟨"GET", "/api/v1/templates/constraints", "", "", none⟩

/-- A button in a column of columns, whose radius is a truth value. -/
def roundedButton : Value :=
  Template.candidate [.object [("type", .text "EmailColumns"), ("props", .object []),
    ("children", .list [.object [("type", .text "EmailColumns"), ("props", .object []),
      ("children", .list [.object [("type", .text "EmailButton"),
        ("props", .object [("text", .text "Go"), ("href", .text "https://example.com"),
          ("borderRadius", .bool false)])]])]])]]

/-- A truth value is none of the radii on offer, though it is as false as the radius zero. -/
theorem pickers_agree_roundedButton :
    Session.emptyService.LeadsTo askCatalog .constraints ∧
      (Session.emptyService.respond askCatalog ⟨0⟩).2 = ⟨200, .document Catalog.toValue, none⟩ ∧
      Template.HasAt roundedButton (.prop .button "borderRadius") (.prop 0 [0, 0] "borderRadius")
        (.bool false) ∧
      ¬Template.Clear roundedButton (.prop 0 [0, 0] "borderRadius") := by
  have leads : Session.emptyService.LeadsTo askCatalog .constraints := by
    unfold Service.LeadsTo
    decide +kernel
  have has : Template.HasAt roundedButton (.prop .button "borderRadius")
      (.prop 0 [0, 0] "borderRadius") (.bool false) :=
    .prop (.block rfl rfl (.inner (by decide) rfl rfl rfl (.inner (by decide) rfl rfl rfl
      (.here (by decide) rfl)))) rfl
  have mem : ⟨"borderRadius", .plain, .prop .button "borderRadius"⟩ ∈ pickers := by simp [pickers]
  obtain ⟨answers, clear_iff⟩ := pickers_agree leads mem has nofun
  refine ⟨leads, by rw [answers]; rfl, has, fun clear => ?_⟩
  rcases clear_iff.1 clear with offered | htext | ⟨hsetting, -⟩
  · cases Catalog.offers_numbers.1 offered with
    | numberOf _ value => cases value
  · cases htext
  · cases hsetting

/-- A text in a font that is on offer nowhere. -/
def unofferedFont : Value :=
  Template.candidate [.object [("type", .text "EmailText"),
    ("props", .object [("fontFamily", .text "Papyrus, fantasy")])]]

/-- Not all of the pickers agree. -/
theorem not_forall_agrees : ¬∀ picker ∈ pickers, picker.Agrees := by
  intro h
  have has : Template.HasAt unofferedFont (.prop .text "fontFamily") (.prop 0 [] "fontFamily")
      (.text "Papyrus, fantasy") :=
    .prop (.block rfl rfl (.here (by decide) rfl)) rfl
  have agrees := h ⟨"fonts", .labelled, .prop .text "fontFamily"⟩ (by simp [pickers])
  have offered := (agrees _ _ _ has nofun).1 (Template.clear_textFont has)
  have hnot : "Papyrus, fantasy" ∉ Catalog.fonts.map (·.1) := by decide
  cases Catalog.offers_fonts.1 offered with
  | oneOf mem => exact hnot mem

end EmailStudio
