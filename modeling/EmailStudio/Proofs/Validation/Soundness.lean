import EmailStudio.Proofs.Document.Reading
import EmailStudio.Validation.Template

/-!
# Sound documents

Validation judges values as they come; reading turns them into blocks whose props are spelled out.
`Block.Sound` and `Template.Sound` say of what was read that every prop a rule knows of is of its
kind. The main results are `Template.sound_of_isValid`, a value without issues reads as a sound
template, and `Template.Sound.isValid`, the stored form of a sound template has no issues.
-/

namespace EmailStudio

namespace Value

theorem isBetween_iff_exists {v : Value} {low high : Int} :
    v.isBetween low high = true ↔
      ∃ q : Rat, v.rat? = some q ∧ (low : Rat) ≤ q ∧ q ≤ (high : Rat) := by
  unfold isBetween
  cases v.rat? <;> simp

theorem isNumber_of_isBetween {v : Value} {low high : Int} (h : v.isBetween low high = true) :
    v.isNumber = true := by
  cases v <;> first | rfl | cases h

end Value

namespace Rule

/-! ## What the rules of single props leave open -/

theorem issueIf_eq_nil_iff {bad : Bool} {key : String} {problem : PropProblem} :
    issueIf bad key problem = [] ↔ bad = false := by
  cases bad <;> simp [issueIf]

theorem optional_eq_nil_iff {props : Fields} {key : String} {problem : PropProblem}
    {good : Value → Bool} :
    optional props key problem good = [] ↔
      props.get key = .null ∨ good (props.get key) = true := by
  unfold optional
  rw [issueIf_eq_nil_iff]
  cases props.get key <;> simp [Value.isNull]

theorem optional_of_good {props : Fields} {key : String} {problem : PropProblem}
    {good : Value → Bool} (h : good (props.get key) = true) :
    optional props key problem good = [] :=
  optional_eq_nil_iff.2 (.inr h)

/-- A prop that is not faulted reads as a good value if its default is one. -/
theorem good_given {props : Fields} {key : String} {problem : PropProblem} {good : Value → Bool}
    {default : Value} (h : optional props key problem good = []) (hd : good default = true) :
    good (props.given key default) = true := by
  unfold Fields.given
  rcases optional_eq_nil_iff.1 h with hn | hg
  · rw [hn]
    exact hd
  · split
    · exact hd
    · exact hg

theorem good_orElse {props : Fields} {key : String} {problem : PropProblem} {good : Value → Bool}
    {default : Value} (h : optional props key problem good = []) (hd : good default = true) :
    good ((props.get key).orElse default) = true := by
  unfold Value.orElse
  rcases optional_eq_nil_iff.1 h with hn | hg
  · rw [hn]
    exact hd
  · split_ifs
    · exact hg
    · exact hd

/-- A text that is not empty. -/
def isFilled : Value → Bool
  | .text s => !s.isEmpty
  | _ => false

theorem required_eq_nil_iff {props : Fields} {key : String} {problem : PropProblem} :
    required props key problem = [] ↔ isFilled (props.get key) = true := by
  unfold required
  rw [issueIf_eq_nil_iff]
  cases props.get key <;> simp [isFilled]

theorem filled_given {props : Fields} {key : String} {problem : PropProblem} {default : Value}
    (h : required props key problem = []) : isFilled (props.given key default) = true := by
  have h := required_eq_nil_iff.1 h
  rw [Fields.given_eq_of_get rfl]
  · exact h
  · intro hn
    rw [hn] at h
    cases h

/-- A text that the source of an image may be. -/
def isSource : Value → Bool
  | .text s => (sourceProblem? s).isNone
  | _ => false

theorem source_eq_nil_iff {props : Fields} :
    source props = [] ↔ props.get "src" = .null ∨ isSource (props.get "src") = true := by
  unfold source
  cases props.get "src" with
  | text s => cases h : sourceProblem? s <;> simp [isSource, h]
  | _ => simp [isSource]

/-- Whether a value is equal to one of some integers. -/
def isNumberOf (options : List Int) (v : Value) : Bool :=
  options.any (v.isWhole ·)

/-! ## What the rules of lists leave open -/

theorem flatMap_zipIdx_eq_nil_iff {α β : Type} {xs : List α} {f : α → Nat → List β} :
    (xs.zipIdx.flatMap fun (x, index) => f x index) = [] ↔
      ∀ (index : Nat) (x : α), xs[index]? = some x → f x index = [] := by
  rw [List.flatMap_eq_nil_iff]
  constructor
  · intro h index x hx
    exact h (x, index) (List.mk_mem_zipIdx_iff_getElem?.2 hx)
  · rintro h ⟨x, index⟩ hx
    exact h index x (List.mk_mem_zipIdx_iff_getElem?.1 hx)

theorem network_eq_nil_iff {index : Nat} {v : Value} :
    network index v = [] ↔ ∃ fields : Fields, v = .object fields ∧
      isOneOf Catalog.socialNetworks (fields.get "type") = true ∧
      (fields.get "url" = .null ∨ (fields.get "url").isText = true) := by
  cases v with
  | object fields =>
    have hurl : ∀ url : Value, url.isNull = true ↔ url = .null := by
      intro url
      cases url <;> simp [Value.isNull]
    simp only [network, List.append_eq_nil_iff, Value.object.injEq, exists_eq_left']
    split_ifs with ht hu hu <;> simp_all
  | _ => simp [network]

theorem networks_eq_nil_iff {props : Fields} :
    networks props = [] ↔ props.get "networks" = .null ∨
      ∃ items, props.get "networks" = .list items ∧
        ∀ (index : Nat) (item : Value), items[index]? = some item → network index item = [] := by
  unfold networks
  cases props.get "networks" with
  | list items =>
    simp only [reduceCtorEq, Value.list.injEq, exists_eq_left', false_or]
    exact flatMap_zipIdx_eq_nil_iff (f := fun item index => network index item)
  | _ => simp

end Rule

/-! ## Sound props -/

structure HeaderProps.Sound (props : HeaderProps) : Prop where
  logoWidth : props.logoWidth.isBetween Catalog.logoWidthMin Catalog.logoWidthMax = true
  logoUrl : props.logoUrl.isText = true
  logoAlt : props.logoAlt.isText = true
  align : Rule.isOneOf Catalog.alignments props.align = true
  padding : Rule.isOneOf Rule.paddingNames props.padding = true

structure TextProps.Sound (props : TextProps) : Prop where
  content : props.content.isText = true
  fontSize : Rule.isNumberOf Catalog.fontSizes props.fontSize = true
  lineHeight : Rule.isOneOf Catalog.lineHeights props.lineHeight = true
  align : Rule.isOneOf Catalog.textAlignments props.align = true
  padding : Rule.isOneOf Rule.paddingNames props.padding = true

/-- The text that describes an image is required, a link is not. -/
structure ImageProps.Sound (props : ImageProps) : Prop where
  alt : Rule.isFilled props.alt = true
  width : Rule.isImageWidth props.width = true
  src : Rule.isSource props.src = true
  href : props.href = .null ∨ props.href.isText = true
  align : Rule.isOneOf Catalog.alignments props.align = true
  padding : Rule.isOneOf Rule.paddingNames props.padding = true

structure ButtonProps.Sound (props : ButtonProps) : Prop where
  text : Rule.isFilled props.text = true
  href : Rule.isFilled props.href = true
  borderRadius : Rule.isNumberOf Catalog.borderRadii props.borderRadius = true
  fontSize : Rule.isNumberOf Catalog.fontSizes props.fontSize = true
  align : Rule.isOneOf Catalog.alignments props.align = true
  padding : Rule.isOneOf Rule.buttonPaddingNames props.padding = true
  fullWidth : props.fullWidth.isBool = true

structure ColumnsProps.Sound (props : ColumnsProps) : Prop where
  columns : Rule.isNumberOf Catalog.columnCounts props.columns = true
  gap : Rule.isOneOf Catalog.columnGaps props.gap = true
  verticalAlign : Rule.isOneOf Catalog.verticalAligns props.verticalAlign = true
  stackOnMobile : props.stackOnMobile.isBool = true

structure SpacerProps.Sound (props : SpacerProps) : Prop where
  height : Rule.isNumberOf Catalog.spacerHeights props.height = true

structure DividerProps.Sound (props : DividerProps) : Prop where
  color : props.color.isText = true
  width : Rule.isNumberOf Catalog.dividerWidths props.width = true
  style : Rule.isOneOf Catalog.dividerStyles props.style = true
  padding : Rule.isOneOf Rule.paddingNames props.padding = true

structure SocialNetwork.Sound (network : SocialNetwork) : Prop where
  type : Rule.isOneOf Catalog.socialNetworks network.type = true
  url : network.url.isText = true

structure SocialProps.Sound (props : SocialProps) : Prop where
  iconSize : Rule.isNumberOf Catalog.socialIconSizes props.iconSize = true
  iconStyle : Rule.isOneOf Catalog.socialIconStyles props.iconStyle = true
  align : Rule.isOneOf Catalog.alignments props.align = true
  networks : ∀ network ∈ props.networks, network.Sound

structure FooterProps.Sound (props : FooterProps) : Prop where
  companyName : props.companyName.isText = true
  address : props.address.isText = true
  unsubscribeText : props.unsubscribeText.isText = true
  backgroundColor : props.backgroundColor.isText = true
  textColor : props.textColor.isText = true
  showUnsubscribe : props.showUnsubscribe.isBool = true

/-! ### Props without issues read as sound props -/

theorem HeaderProps.sound_ofFields {fields : Fields} (h : Rule.header fields = []) :
    (ofFields fields).Sound := by
  simp only [Rule.header, Rule.text, Rule.choice, List.append_eq_nil_iff] at h
  obtain ⟨⟨⟨⟨width, url⟩, alt⟩, align⟩, padding⟩ := h
  exact {
    logoWidth := Rule.good_given width (by decide +kernel)
    logoUrl := Rule.good_given url rfl
    logoAlt := Rule.good_given alt rfl
    align := Rule.good_given align rfl
    padding := Rule.good_given padding rfl }

theorem TextProps.sound_ofFields {fields : Fields} (h : Rule.textBlock fields = []) :
    (ofFields fields).Sound := by
  simp only [Rule.textBlock, Rule.text, Rule.number, Rule.choice, List.append_eq_nil_iff] at h
  obtain ⟨⟨⟨⟨content, size⟩, height⟩, align⟩, padding⟩ := h
  exact {
    content := Rule.good_given content rfl
    fontSize := Rule.good_given size (by decide +kernel)
    lineHeight := Rule.good_given height rfl
    align := Rule.good_given align rfl
    padding := Rule.good_given padding rfl }

theorem ImageProps.sound_ofFields {fields : Fields} (h : Rule.image fields = []) :
    (ofFields fields).Sound := by
  simp only [Rule.image, Rule.text, Rule.choice, List.append_eq_nil_iff] at h
  obtain ⟨⟨⟨⟨⟨alt, width⟩, src⟩, href⟩, align⟩, padding⟩ := h
  have src : Rule.optional fields "src" .notUrl Rule.isSource = [] :=
    Rule.optional_eq_nil_iff.2 (Rule.source_eq_nil_iff.1 src)
  exact {
    alt := Rule.filled_given alt
    width := Rule.good_given width (by decide +kernel)
    src := Rule.good_given src (by decide +kernel)
    href := Rule.optional_eq_nil_iff.1 href
    align := Rule.good_given align rfl
    padding := Rule.good_given padding rfl }

theorem ButtonProps.sound_ofFields {fields : Fields} (h : Rule.button fields = []) :
    (ofFields fields).Sound := by
  simp only [Rule.button, Rule.number, Rule.choice, Rule.boolean, List.append_eq_nil_iff] at h
  obtain ⟨⟨⟨⟨⟨⟨text, href⟩, radius⟩, size⟩, align⟩, padding⟩, full⟩ := h
  exact {
    text := Rule.filled_given text
    href := Rule.filled_given href
    borderRadius := Rule.good_given radius (by decide +kernel)
    fontSize := Rule.good_given size (by decide +kernel)
    align := Rule.good_given align rfl
    padding := Rule.good_given padding rfl
    fullWidth := Rule.good_given full rfl }

theorem ColumnsProps.sound_ofFields {fields : Fields} (h : Rule.columns fields = []) :
    (ofFields fields).Sound := by
  simp only [Rule.columns, Rule.number, Rule.choice, Rule.boolean, List.append_eq_nil_iff] at h
  obtain ⟨⟨⟨columns, gap⟩, align⟩, stack⟩ := h
  exact {
    columns := Rule.good_given columns (by decide +kernel)
    gap := Rule.good_given gap rfl
    verticalAlign := Rule.good_given align rfl
    stackOnMobile := Rule.good_given stack rfl }

theorem SpacerProps.sound_ofFields {fields : Fields} (h : Rule.spacer fields = []) :
    (ofFields fields).Sound :=
  ⟨Rule.good_given h (by decide +kernel)⟩

theorem DividerProps.sound_ofFields {fields : Fields} (h : Rule.divider fields = []) :
    (ofFields fields).Sound := by
  simp only [Rule.divider, Rule.text, Rule.number, Rule.choice, List.append_eq_nil_iff] at h
  obtain ⟨⟨⟨color, width⟩, style⟩, padding⟩ := h
  exact {
    color := Rule.good_given color rfl
    width := Rule.good_given width (by decide +kernel)
    style := Rule.good_given style rfl
    padding := Rule.good_given padding rfl }

theorem FooterProps.sound_ofFields {fields : Fields} (h : Rule.footer fields = []) :
    (ofFields fields).Sound := by
  simp only [Rule.footer, Rule.text, Rule.boolean, List.append_eq_nil_iff] at h
  obtain ⟨⟨⟨⟨⟨company, address⟩, unsubscribe⟩, background⟩, color⟩, shown⟩ := h
  exact {
    companyName := Rule.good_given company rfl
    address := Rule.good_given address rfl
    unsubscribeText := Rule.good_given unsubscribe rfl
    backgroundColor := Rule.good_given background rfl
    textColor := Rule.good_given color rfl
    showUnsubscribe := Rule.good_given shown rfl }

/-! ### Social networks -/

namespace SocialNetwork

theorem sound_of_ofItem? {index : Nat} {item : Value} {network : SocialNetwork}
    (h : Rule.network index item = []) (hn : ofItem? item = some network) : network.Sound := by
  obtain ⟨fields, rfl, ht, hu⟩ := Rule.network_eq_nil_iff.1 h
  simp only [ofItem?] at hn
  split_ifs at hn
  cases hn
  refine ⟨ht, ?_⟩
  unfold Value.orElse
  split_ifs with hurl
  · rcases hu with hu | hu
    · rw [hu] at hurl
      cases hurl
    · exact hu
  · rfl

theorem Sound.hasKeyType {network : SocialNetwork} (h : network.Sound) :
    network.hasKeyType = true := by
  have := h.type
  unfold SocialNetwork.hasKeyType
  cases ht : network.type <;> simp_all [Rule.isOneOf]

theorem Sound.rule_toValue {network : SocialNetwork} (h : network.Sound) (index : Nat) :
    Rule.network index network.toValue = [] :=
  Rule.network_eq_nil_iff.2 ⟨_, rfl, h.type, .inr h.url⟩

end SocialNetwork

namespace SocialProps

theorem sound_of_mem_listed {fields : Fields} (h : Rule.networks fields = [])
    {network : SocialNetwork}
    (hn : network ∈ (fields.get "networks").items.filterMap SocialNetwork.ofItem?) :
    network.Sound := by
  obtain ⟨item, hi, hn⟩ := List.mem_filterMap.1 hn
  rcases Rule.networks_eq_nil_iff.1 h with hnull | ⟨items, hitems, h⟩
  · rw [hnull] at hi
    cases hi
  · rw [hitems] at hi
    obtain ⟨index, hindex⟩ := List.getElem?_of_mem hi
    exact SocialNetwork.sound_of_ofItem? (h index item hindex) hn

theorem sound_of_mem_flatNetworks {listed : List SocialNetwork} {fields : Fields}
    (h : ∀ name ∈ Catalog.socialNetworks, Rule.text fields (Catalog.urlField name) = [])
    {network : SocialNetwork} (hn : network ∈ flatNetworks listed fields) : network.Sound := by
  obtain ⟨name, hname, ht, hurl, hu⟩ := mem_flatNetworks hn
  refine ⟨?_, ?_⟩
  · rw [ht]
    exact List.contains_iff_mem.2 hname
  · rw [hurl] at hu ⊢
    rcases Rule.optional_eq_nil_iff.1 (h name hname) with hnull | hu'
    · rw [hnull] at hu
      cases hu
    · exact hu'

theorem sound_ofFields {fields : Fields} (h : Rule.social fields = []) :
    ∃ props, ofFields fields = .ok props ∧ props.Sound := by
  simp only [Rule.social, Rule.number, Rule.choice, List.append_eq_nil_iff,
    List.flatMap_eq_nil_iff] at h
  obtain ⟨⟨⟨⟨size, style⟩, align⟩, networks⟩, flat⟩ := h
  have keys : ((fields.get "networks").items.filterMap SocialNetwork.ofItem?).all (·.hasKeyType) =
      true := List.all_eq_true.2 fun _ hn => (sound_of_mem_listed networks hn).hasKeyType
  refine ⟨_, by simp only [ofFields]; rw [if_pos keys], ?_⟩
  exact {
    iconSize := Rule.good_orElse size (by decide +kernel)
    iconStyle := Rule.good_orElse style rfl
    align := Rule.good_orElse align rfl
    networks := fun _ hn =>
      (List.mem_append.1 hn).elim (sound_of_mem_listed networks) (sound_of_mem_flatNetworks flat) }

end SocialProps

/-! ### Sound props have no issues -/

theorem HeaderProps.Sound.rule_toFields {props : HeaderProps} (h : props.Sound) :
    Rule.header props.toFields = [] := by
  simp only [Rule.header, Rule.text, Rule.choice, List.append_eq_nil_iff]
  exact ⟨⟨⟨⟨Rule.optional_of_good h.logoWidth, Rule.optional_of_good h.logoUrl⟩,
    Rule.optional_of_good h.logoAlt⟩, Rule.optional_of_good h.align⟩,
    Rule.optional_of_good h.padding⟩

theorem TextProps.Sound.rule_toFields {props : TextProps} (h : props.Sound) :
    Rule.textBlock props.toFields = [] := by
  simp only [Rule.textBlock, Rule.text, Rule.number, Rule.choice, List.append_eq_nil_iff]
  exact ⟨⟨⟨⟨Rule.optional_of_good h.content, Rule.optional_of_good h.fontSize⟩,
    Rule.optional_of_good h.lineHeight⟩, Rule.optional_of_good h.align⟩,
    Rule.optional_of_good h.padding⟩

theorem ImageProps.get_href (props : ImageProps) :
    Fields.get props.toFields "href" = props.href := by
  unfold toFields
  cases h : props.href <;> rfl

theorem ImageProps.get_padding (props : ImageProps) :
    Fields.get props.toFields "padding" = props.padding := by
  unfold toFields
  cases h : props.href <;> rfl

theorem ImageProps.Sound.rule_toFields {props : ImageProps} (h : props.Sound) :
    Rule.image props.toFields = [] := by
  simp only [Rule.image, Rule.text, Rule.choice, List.append_eq_nil_iff]
  refine ⟨⟨⟨⟨⟨Rule.required_eq_nil_iff.2 h.alt, Rule.optional_of_good h.width⟩,
    Rule.source_eq_nil_iff.2 (.inr h.src)⟩, Rule.optional_eq_nil_iff.2 ?_⟩,
    Rule.optional_of_good h.align⟩, Rule.optional_of_good ?_⟩
  · rw [ImageProps.get_href]
    exact h.href
  · rw [ImageProps.get_padding]
    exact h.padding

theorem ButtonProps.Sound.rule_toFields {props : ButtonProps} (h : props.Sound) :
    Rule.button props.toFields = [] := by
  simp only [Rule.button, Rule.number, Rule.choice, Rule.boolean, List.append_eq_nil_iff]
  exact ⟨⟨⟨⟨⟨⟨Rule.required_eq_nil_iff.2 h.text, Rule.required_eq_nil_iff.2 h.href⟩,
    Rule.optional_of_good h.borderRadius⟩, Rule.optional_of_good h.fontSize⟩,
    Rule.optional_of_good h.align⟩, Rule.optional_of_good h.padding⟩,
    Rule.optional_of_good h.fullWidth⟩

theorem ColumnsProps.Sound.rule_toFields {props : ColumnsProps} (h : props.Sound) :
    Rule.columns props.toFields = [] := by
  simp only [Rule.columns, Rule.number, Rule.choice, Rule.boolean, List.append_eq_nil_iff]
  exact ⟨⟨⟨Rule.optional_of_good h.columns, Rule.optional_of_good h.gap⟩,
    Rule.optional_of_good h.verticalAlign⟩, Rule.optional_of_good h.stackOnMobile⟩

theorem SpacerProps.Sound.rule_toFields {props : SpacerProps} (h : props.Sound) :
    Rule.spacer props.toFields = [] := by
  unfold Rule.spacer Rule.number
  exact Rule.optional_of_good h.height

theorem DividerProps.Sound.rule_toFields {props : DividerProps} (h : props.Sound) :
    Rule.divider props.toFields = [] := by
  simp only [Rule.divider, Rule.text, Rule.number, Rule.choice, List.append_eq_nil_iff]
  exact ⟨⟨⟨Rule.optional_of_good h.color, Rule.optional_of_good h.width⟩,
    Rule.optional_of_good h.style⟩, Rule.optional_of_good h.padding⟩

theorem SocialProps.Sound.rule_toFields {props : SocialProps} (h : props.Sound) :
    Rule.social props.toFields = [] := by
  simp only [Rule.social, Rule.number, Rule.choice, List.append_eq_nil_iff,
    List.flatMap_eq_nil_iff]
  refine ⟨⟨⟨⟨Rule.optional_of_good h.iconSize, Rule.optional_of_good h.iconStyle⟩,
    Rule.optional_of_good h.align⟩, Rule.networks_eq_nil_iff.2 (.inr ⟨_, rfl, ?_⟩)⟩, ?_⟩
  · intro index item hitem
    obtain ⟨network, hn, rfl⟩ := List.mem_map.1 (List.mem_of_getElem? hitem)
    exact (h.networks network hn).rule_toValue index
  · -- a stored row keeps its networks in the list alone
    simp only [Catalog.socialNetworks, List.mem_cons, List.not_mem_nil, or_false]
    rintro name (rfl | rfl | rfl | rfl | rfl) <;> exact Rule.optional_eq_nil_iff.2 (.inl rfl)

theorem FooterProps.Sound.rule_toFields {props : FooterProps} (h : props.Sound) :
    Rule.footer props.toFields = [] := by
  simp only [Rule.footer, Rule.text, Rule.boolean, List.append_eq_nil_iff]
  exact ⟨⟨⟨⟨⟨Rule.optional_of_good h.companyName, Rule.optional_of_good h.address⟩,
    Rule.optional_of_good h.unsubscribeText⟩, Rule.optional_of_good h.backgroundColor⟩,
    Rule.optional_of_good h.textColor⟩, Rule.optional_of_good h.showUnsubscribe⟩

/-! ## Sound blocks -/

namespace Block

/-- The props of the block itself are sound. -/
def PropsSound : Block → Prop
  | header props => props.Sound
  | text props => props.Sound
  | image props => props.Sound
  | button props => props.Sound
  | columns props _ => props.Sound
  | spacer props => props.Sound
  | divider props => props.Sound
  | social props => props.Sound
  | footer props => props.Sound

/-- A block that may stand at a depth, with all blocks below it. -/
inductive Sound : Int → Block → Prop
  | intro {depth : Int} {b : Block} (depth_le : depth ≤ Catalog.maxDepth) (props : b.PropsSound)
      (children : ∀ child ∈ b.children, Sound (depth + 1) child) : Sound depth b

theorem Sound.props {depth : Int} {b : Block} (h : Sound depth b) : b.PropsSound := by
  cases h
  assumption

theorem Sound.child {depth : Int} {b child : Block} (h : Sound depth b)
    (hc : child ∈ b.children) : Sound (depth + 1) child := by
  cases h with
  | intro _ _ children => exact children child hc

@[simp] theorem propsSound_withChildren (b : Block) (children : List Block) :
    (b.withChildren children).PropsSound ↔ b.PropsSound := by
  cases b <;> rfl

theorem propsSound_of_rule {kind : Kind} {props : Fields} (h : kind.rule props = []) :
    ∃ b, ofProps kind props = .ok b ∧ b.PropsSound := by
  cases kind with
  | header => exact ⟨_, rfl, HeaderProps.sound_ofFields h⟩
  | text => exact ⟨_, rfl, TextProps.sound_ofFields h⟩
  | image => exact ⟨_, rfl, ImageProps.sound_ofFields h⟩
  | button => exact ⟨_, rfl, ButtonProps.sound_ofFields h⟩
  | columns => exact ⟨_, rfl, ColumnsProps.sound_ofFields h⟩
  | spacer => exact ⟨_, rfl, SpacerProps.sound_ofFields h⟩
  | divider => exact ⟨_, rfl, DividerProps.sound_ofFields h⟩
  | social =>
    obtain ⟨props, hp, hs⟩ := SocialProps.sound_ofFields h
    refine ⟨social props, ?_, hs⟩
    simp only [ofProps, hp, Except.map]
  | footer => exact ⟨_, rfl, FooterProps.sound_ofFields h⟩

theorem rule_of_propsSound {b : Block} (h : b.PropsSound) : b.kind.rule b.props = [] := by
  cases b with
  | header => exact HeaderProps.Sound.rule_toFields h
  | text => exact TextProps.Sound.rule_toFields h
  | image => exact ImageProps.Sound.rule_toFields h
  | button => exact ButtonProps.Sound.rule_toFields h
  | columns => exact ColumnsProps.Sound.rule_toFields h
  | spacer => exact SpacerProps.Sound.rule_toFields h
  | divider => exact DividerProps.Sound.rule_toFields h
  | social => exact SocialProps.Sound.rule_toFields h
  | footer => exact FooterProps.Sound.rule_toFields h

/-! ### Issues of a block and of its children -/

theorem issuesOfChildrenIn_eq (depth : Int) : ∀ fields : Fields,
    issuesOfChildrenIn depth fields = issuesOfChildren depth (fields.get "children")
  | [] => by simp [issuesOfChildrenIn, Fields.get, Fields.get?, issuesOfChildren]
  | (k, v) :: rest => by
    unfold issuesOfChildrenIn Fields.get Fields.get?
    split_ifs
    · rfl
    · exact issuesOfChildrenIn_eq depth rest

theorem issuesOfItems_eq_nil_iff {depth : Int} : ∀ {index : Nat} {items : List Value},
    issuesOfItems depth index items = [] ↔ ∀ item ∈ items, issues (depth + 1) item = []
  | _, [] => by simp [issuesOfItems]
  | index, v :: rest => by
    rw [issuesOfItems, List.append_eq_nil_iff, List.map_eq_nil_iff, List.forall_mem_cons,
      issuesOfItems_eq_nil_iff]

theorem issuesOfChildren_eq_nil_iff {depth : Int} {v : Value} :
    issuesOfChildren depth v = [] ↔
      v = .null ∨ ∃ items, v = .list items ∧ ∀ item ∈ items, issues (depth + 1) item = [] := by
  cases v with
  | list items => simp [issuesOfChildren, issuesOfItems_eq_nil_iff]
  | _ => simp [issuesOfChildren]

theorem judgedProps_eq_ok_iff {fields props : Fields} {kind : Kind} :
    judgedProps fields = .ok (kind, props) ↔
      Kind.ofValue? (fields.get "type") = some kind ∧ fields.get "props" = .object props := by
  unfold judgedProps
  cases Kind.ofValue? (fields.get "type") with
  | none => simp
  | some kind => cases fields.get "props" <;> simp

/-- When a block has no issues, itself or below it. -/
theorem issues_eq_nil_iff {depth : Int} {v : Value} :
    issues depth v = [] ↔ depth ≤ Catalog.maxDepth ∧
      ∃ (fields : Fields) (kind : Kind) (props : Fields), v = .object fields ∧
        judgedProps fields = .ok (kind, props) ∧ kind.rule props = [] ∧
        (kind = .columns → issuesOfChildren depth (fields.get "children") = []) := by
  cases v with
  | object fields =>
    rw [issues, issuesOfChildrenIn_eq]
    split_ifs with hd
    · simp [Int.not_le.2 hd]
    · simp only [Int.not_lt.1 hd, true_and, Value.object.injEq]
      cases hj : judgedProps fields with
      | error problem => simp [hj]
      | ok judged =>
        obtain ⟨kind, props⟩ := judged
        have children : (if kind = .columns then
            issuesOfChildren depth (Fields.get fields "children") else []) = [] ↔
            (kind = .columns → issuesOfChildren depth (Fields.get fields "children") = []) := by
          split_ifs with hk <;> simp [hk]
        simp only [List.append_eq_nil_iff, List.map_eq_nil_iff, children]
        constructor
        · rintro ⟨hr, hc⟩
          exact ⟨fields, kind, props, rfl, hj, hr, hc⟩
        · rintro ⟨_, kind', props', rfl, hj', hr, hc⟩
          cases hj.symm.trans hj'
          exact ⟨hr, hc⟩
  | _ =>
    simp only [issues]
    split_ifs <;> simp

/-! ### Validation and reading -/

theorem ofItems_of_forall {P : Block → Prop} {items : List Value}
    (h : ∀ item ∈ items, ∃ b, ofValue item = .ok b ∧ P b) :
    ∃ bs, ofItems items = .ok bs ∧ ∀ b ∈ bs, P b := by
  obtain ⟨bs, hbs, hP⟩ := Outcome.exists_forall₂ h
  exact ⟨bs, ofItems_eq_ok_iff.2 hbs, hP⟩

/-- Children without issues read as blocks, if each of them does. -/
theorem listIn_of_issuesOfChildren {depth : Int} {v : Value} {P : Block → Prop}
    (h : issuesOfChildren depth v = [])
    (read : ∀ item ∈ v.items, issues (depth + 1) item = [] → ∃ b, ofValue item = .ok b ∧ P b) :
    ∃ bs, listIn v = .ok bs ∧ ∀ b ∈ bs, P b := by
  rcases issuesOfChildren_eq_nil_iff.1 h with rfl | ⟨items, rfl, hitems⟩
  · exact ⟨[], rfl, by simp⟩
  · exact ofItems_of_forall fun item hi => read item hi (hitems item hi)

/-- A value without issues reads as a sound block. -/
theorem sound_of_issues {depth : Int} {v : Value} (h : issues depth v = []) :
    ∃ b, ofValue v = .ok b ∧ Sound depth b := by
  induction v using Value.inductionOnChildren generalizing depth with
  | step v ih =>
    obtain ⟨hd, fields, kind, props, rfl, hj, hr, hc⟩ := issues_eq_nil_iff.1 h
    obtain ⟨ht, hp⟩ := judgedProps_eq_ok_iff.1 hj
    obtain ⟨bare, hb, hs⟩ := propsSound_of_rule hr
    obtain ⟨hk, hnone⟩ := kind_of_ofProps hb
    rw [ofValue_object (kindOf_eq_ok_iff.2 ht) (Fields.objectAt_of_get hp) hb]
    split_ifs with hcol
    · obtain ⟨children, hl, hsound⟩ :=
        listIn_of_issuesOfChildren (hc hcol) fun item hi => ih item hi
      refine ⟨bare.withChildren children, by rw [hl]; rfl, ?_⟩
      refine .intro hd ((propsSound_withChildren bare children).2 hs) ?_
      rw [children_withChildren (hk.trans hcol)]
      exact hsound
    · refine ⟨bare, rfl, .intro hd hs ?_⟩
      rw [hnone]
      simp

/-- The stored form of a sound block has no issues. -/
theorem Sound.issues_toValue {depth : Int} {b : Block} (h : Sound depth b) :
    issues depth b.toValue = [] := by
  induction h with
  | @intro depth b hd hp _ ih =>
    refine issues_eq_nil_iff.2 ⟨hd, _, b.kind, b.props, toValue_eq b, ?_, rule_of_propsSound hp, ?_⟩
    · exact judgedProps_eq_ok_iff.2 ⟨Kind.ofName?_name b.kind, rfl⟩
    · intro hcol
      refine issuesOfChildren_eq_nil_iff.2 (.inr ⟨b.children.map toValue, ?_, ?_⟩)
      · rw [if_pos hcol]
        rfl
      · intro item hi
        obtain ⟨child, hc, rfl⟩ := List.mem_map.1 hi
        exact ih child hc

end Block

/-! ## Sound templates -/

namespace Template

/-- A template whose fields are all of their kind and whose blocks are sound. -/
structure Sound (t : Template) : Prop where
  version : t.version = .text formatVersion
  subject : t.metadata.subject.isText = true
  preheader : t.metadata.preheader.isText = true
  backgroundColor : t.settings.backgroundColor.isText = true
  contentWidth : widthIssues t.settings.contentWidth = []
  fontFamily : t.settings.fontFamily.isText = true
  content : ∀ b ∈ t.content, b.Sound 1

theorem versionIssues_eq_nil_iff {v : Value} :
    versionIssues v = [] ↔ v = .text formatVersion := by
  cases v with
  | text s => simp [versionIssues]
  | _ => simp [versionIssues]

theorem metadataIssues_eq_nil_iff {v : Value} :
    metadataIssues v = [] ↔ ∃ fields : Fields, v = .object fields ∧
      (fields.get "subject").isText = true ∧ (fields.get "preheader").isText = true := by
  cases v with
  | object fields => simp [metadataIssues]
  | _ => simp [metadataIssues]

theorem widthIssues_eq_nil_iff {v : Value} :
    widthIssues v = [] ↔
      v.isBetween Catalog.contentWidthMin Catalog.contentWidthMax = true := by
  unfold widthIssues
  cases hb : v.isBetween Catalog.contentWidthMin Catalog.contentWidthMax with
  | true => simp [Value.isNumber_of_isBetween hb]
  | false => cases v.isNumber <;> simp

theorem settingsIssues_eq_nil_iff {v : Value} :
    settingsIssues v = [] ↔ ∃ fields : Fields, v = .object fields ∧
      (fields.get "backgroundColor").isText = true ∧
      widthIssues (fields.get "contentWidth") = [] ∧ (fields.get "fontFamily").isText = true := by
  cases v with
  | object fields =>
    simp only [settingsIssues, List.append_eq_nil_iff, Value.object.injEq, exists_eq_left',
      and_assoc]
    simp
  | _ => simp [settingsIssues]

theorem contentIssues_eq_nil_iff {v : Value} :
    contentIssues v = [] ↔ ∃ items, v = .list items ∧ ∀ item ∈ items, Block.issues 1 item = [] := by
  cases v with
  | list items =>
    simp only [Value.list.injEq, exists_eq_left']
    refine Iff.trans (Rule.flatMap_zipIdx_eq_nil_iff
      (f := fun item index => (Block.issues 1 item).map (Issue.block index))) ?_
    simp only [List.map_eq_nil_iff]
    constructor
    · intro h item hi
      obtain ⟨index, hindex⟩ := List.getElem?_of_mem hi
      exact h index item hindex
    · intro h index item hindex
      exact h item (List.mem_of_getElem? hindex)
  | _ => simp [contentIssues]

theorem issues_eq_nil_iff {v : Value} :
    issues v = [] ↔ ∃ fields : Fields, v = .object fields ∧
      versionIssues (fields.get "version") = [] ∧ metadataIssues (fields.get "metadata") = [] ∧
      settingsIssues (fields.get "settings") = [] ∧ contentIssues (fields.get "content") = [] := by
  cases v with
  | object fields => simp [issues]
  | _ => simp [issues]

theorem isValid_iff {v : Value} : isValid v = true ↔ issues v = [] :=
  List.isEmpty_iff

/-- A field that is not null is present as it is. -/
theorem present_of_ne_null {fields : Fields} {key : String} {default : Value}
    (h : fields.get key ≠ .null) : fields.present key default = fields.get key := by
  unfold Fields.present
  rw [Fields.get?_of_get rfl h, Option.getD_some]

theorem present_of_isText {fields : Fields} {key : String} {default : Value}
    (h : (fields.get key).isText = true) : fields.present key default = fields.get key := by
  refine present_of_ne_null ?_
  intro hn
  rw [hn] at h
  cases h

theorem present_of_width {fields : Fields} {key : String} {default : Value}
    (h : widthIssues (fields.get key) = []) : fields.present key default = fields.get key := by
  refine present_of_ne_null ?_
  intro hn
  rw [hn] at h
  cases h

/-- A value without issues reads as a sound template. -/
theorem sound_of_isValid {v : Value} (h : isValid v = true) :
    ∃ t, ofValue v = .ok t ∧ t.Sound := by
  obtain ⟨fields, rfl, hv, hm, hs, hc⟩ := issues_eq_nil_iff.1 (isValid_iff.1 h)
  have hv := versionIssues_eq_nil_iff.1 hv
  obtain ⟨metadata, hm, hsubject, hpreheader⟩ := metadataIssues_eq_nil_iff.1 hm
  obtain ⟨settings, hs, hbackground, hwidth, hfont⟩ := settingsIssues_eq_nil_iff.1 hs
  obtain ⟨items, hi, hc⟩ := contentIssues_eq_nil_iff.1 hc
  obtain ⟨content, hread, hsound⟩ := Block.ofItems_of_forall fun item hitem =>
    Block.sound_of_issues (hc item hitem)
  have hcontent : Block.listIn (Fields.get fields "content") = .ok content := by
    rw [hi]
    exact hread
  refine ⟨_, ofValue_of (Fields.objectAt_of_get hm) (Fields.objectAt_of_get hs) hcontent, ?_⟩
  exact {
    version := (present_of_ne_null (by simp [hv])).trans hv
    subject := by simpa only [assembled, present_of_isText hsubject] using hsubject
    preheader := by simpa only [assembled, present_of_isText hpreheader] using hpreheader
    backgroundColor := by simpa only [assembled, present_of_isText hbackground] using hbackground
    contentWidth := by simpa only [assembled, present_of_width hwidth] using hwidth
    fontFamily := by simpa only [assembled, present_of_isText hfont] using hfont
    content := hsound }

/-- What a candidate without issues reads as is sound. -/
theorem sound_of_ofValue {v : Value} {t : Template} (h : isValid v = true)
    (ht : ofValue v = .ok t) : t.Sound := by
  obtain ⟨read, hread, hs⟩ := sound_of_isValid h
  rw [ht] at hread
  exact Except.ok.inj hread ▸ hs

/-- The stored form of a sound template has no issues. -/
theorem Sound.isValid {t : Template} (h : t.Sound) : isValid t.toValue = true := by
  refine isValid_iff.2 (issues_eq_nil_iff.2 ⟨_, rfl, versionIssues_eq_nil_iff.2 h.version,
    metadataIssues_eq_nil_iff.2 ⟨_, rfl, h.subject, h.preheader⟩,
    settingsIssues_eq_nil_iff.2 ⟨_, rfl, h.backgroundColor, h.contentWidth, h.fontFamily⟩,
    contentIssues_eq_nil_iff.2 ⟨_, rfl, ?_⟩⟩)
  intro item hi
  rw [Block.toItems_eq_map] at hi
  obtain ⟨b, hb, rfl⟩ := List.mem_map.1 hi
  exact (h.content b hb).issues_toValue

/-- A candidate with the given blocks as its content. -/
def candidate (blocks : List Value) : Value :=
  .object [
    ("version", .text formatVersion),
    ("metadata", .object [("subject", .text "News"), ("preheader", .text "")]),
    ("settings", .object [
      ("backgroundColor", .text "#ffffff"), ("contentWidth", .int Catalog.maxWidth),
      ("fontFamily", .text Catalog.defaultFont)]),
    ("content", .list blocks)]

end Template

end EmailStudio
