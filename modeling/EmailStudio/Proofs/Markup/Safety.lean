import EmailStudio.Proofs.Markup.Measure
import EmailStudio.Proofs.Markup.Order

/-!
# Safe markup

The catalog closes the sets of values that the attributes of markup may have. `Kind.closedSet?` and
`Kind.IsWidth` say which values these are for what a block of a kind gives. The main result is
`Template.compile_isSafe`: whatever props a valid candidate leaves out, gives as null or spells as
binary numbers, no other values get into the body of its markup.
-/

namespace EmailStudio

/-! ## Closed sets of values -/

namespace Kind

/-- The values that an attribute may have in what a block of a kind gives, if the catalog closes
their set. -/
def closedSet? (kind : Kind) : String → Option (List String)
  | "padding" => some <|
    match kind with
    | button => Catalog.buttonPaddings.map (·.2)
    | _ => Catalog.paddings.map (·.2)
  | "font-size" => some <|
    match kind with
    | footer => ["12px"]
    | _ => Catalog.inPixels Catalog.fontSizes
  | "align" => some <|
    match kind with
    | text => Catalog.textAlignments
    | _ => Catalog.alignments
  | "border-radius" => some (Catalog.inPixels Catalog.borderRadii)
  | "height" => some (Catalog.inPixels Catalog.spacerHeights)
  | "border-width" => some (Catalog.inPixels Catalog.dividerWidths)
  | "icon-size" => some (Catalog.inPixels Catalog.socialIconSizes)
  | "line-height" => some Catalog.lineHeights
  | "border-style" => some Catalog.dividerStyles
  | "vertical-align" => some Catalog.verticalAligns
  | "name" => some Catalog.socialNetworks
  | _ => none

/-- The widths that an element may have that a block of a kind gives. -/
def IsWidth (kind : Kind) (s : String) : Prop :=
  match kind with
  | header => Numeral.IsPixels (fun r => Catalog.logoWidthMin ≤ r ∧ r ≤ Catalog.logoWidthMax) s
  | image => s = "100%" ∨ Numeral.IsPixels (fun r => 0 < r ∧ r ≤ Catalog.maxWidth) s
  | button => s = "100%"
  | _ => False

/-- The element that a block of a kind gives. -/
def tag : Kind → String
  | header | image => "mj-image"
  | text | footer => "mj-text"
  | button => "mj-button"
  | spacer => "mj-spacer"
  | divider => "mj-divider"
  | social => "mj-social"
  | columns => "mj-section"

/-- The attributes that are always written, whatever props are left out. -/
def written : Kind → List String
  | header | image => ["width", "align"]
  | text | footer => ["font-size", "align", "line-height"]
  | button => ["font-size", "border-radius", "align", "padding"]
  | spacer => ["height"]
  | divider => ["border-width", "border-style"]
  | social => ["align", "name", "icon-size"]
  | columns => []

/-- An attribute that may stand in what a block of a kind gives. -/
structure Allows (kind : Kind) (name value : String) : Prop where
  closed : ∀ set, kind.closedSet? name = some set → value ∈ set
  width : name = "width" → kind.IsWidth value

variable {kind : Kind} {name value : String}

theorem allows_of_open (hset : kind.closedSet? name = none) (hname : name ≠ "width") :
    kind.Allows name value where
  closed set h := by
    rw [hset] at h
    cases h
  width h := absurd h hname

theorem allows_of_mem {set : List String} (hset : kind.closedSet? name = some set)
    (hname : name ≠ "width") (h : value ∈ set) : kind.Allows name value where
  closed set' h' := by
    rw [hset] at h'
    exact Option.some.inj h' ▸ h
  width h := absurd h hname

theorem allows_width (h : kind.IsWidth value) : kind.Allows "width" value where
  closed set h' := by
    cases h'
  width _ := h

end Kind

/-- Attributes that may stand in what a block of a kind gives. -/
def Attributes.AreSafe (kind : Kind) (attributes : Attributes) : Prop :=
  ∀ pair ∈ attributes, kind.Allows pair.1 pair.2

namespace Attributes

variable {kind : Kind} {attributes others : Attributes}

theorem areSafe_nil : AreSafe kind [] := by
  intro pair hp
  cases hp

theorem areSafe_cons {name value : String} :
    AreSafe kind ((name, value) :: attributes) ↔
      kind.Allows name value ∧ AreSafe kind attributes :=
  List.forall_mem_cons

theorem areSafe_append (h : AreSafe kind attributes) (ho : AreSafe kind others) :
    AreSafe kind (attributes ++ others) :=
  List.forall_mem_append.2 ⟨h, ho⟩

end Attributes

namespace Element

def tag : Element → String
  | plain tag _ _ => tag
  | social _ _ _ => "mj-social"

/-- All attributes of an element and of the elements in it. -/
def attributes : Element → Attributes
  | plain _ attributes _ => attributes
  | social align mode icons =>
    [("align", align), ("mode", mode)] ++ icons.flatMap (·.attributes)

/-- An element that a block of a kind may give: every attribute is allowed, and none is missing of
those that are always written. -/
structure IsSafe (kind : Kind) (e : Element) : Prop where
  tag : e.tag = kind.tag
  attributes : e.attributes.AreSafe kind
  written : ∀ name ∈ kind.written, name ∈ e.attributes.map (·.1)

end Element

/-- The elements of a section, from all its columns. -/
def Section.elements (part : Section) : List Element :=
  part.columns.flatMap (·.elements)

/-- A section with safe attributes on itself and on its columns. Columns that a block asks for say
how they are aligned. -/
structure Section.IsSafe (kind : Kind) (part : Section) : Prop where
  attributes : part.attributes.AreSafe kind
  columns : ∀ column ∈ part.columns, column.attributes.AreSafe kind
  aligned : kind = .columns →
    ∀ column ∈ part.columns, "vertical-align" ∈ column.attributes.map (·.1)

/-! ## Fragments -/

namespace Fragment

/-- A value that an attribute may have, if it is written at all. -/
def AllowsOption (kind : Kind) (name : String) (value : Option String) : Prop :=
  ∀ s, value = some s → kind.Allows name s

/-- A fragment with safe attributes, whichever way it is set. -/
structure IsSafe (kind : Kind) (fragment : Fragment) : Prop where
  element : fragment.element.IsSafe kind
  padding : AllowsOption kind "padding" fragment.padding

variable {kind : Kind} {name : String} {value : Option String} {v : Value}

theorem allows_some {s : String} (h : kind.Allows name s) : AllowsOption kind name (some s) := by
  intro t ht
  cases ht
  exact h

theorem allows_none : AllowsOption kind name none := by
  intro t ht
  cases ht

theorem allows_open (hset : kind.closedSet? name = none) (hname : name ≠ "width") :
    AllowsOption kind name value :=
  fun _ _ => Kind.allows_of_open hset hname

theorem allows_pixels {options : List Int}
    (hset : kind.closedSet? name = some (Catalog.inPixels options)) (hname : name ≠ "width")
    (h : Rule.isNumberOf options v = true) : AllowsOption kind name (some v.pixels) :=
  allows_some (Kind.allows_of_mem hset hname (Value.pixels_mem_inPixels h))

theorem allows_attributeText {options : List String} (hset : kind.closedSet? name = some options)
    (hname : name ≠ "width") (h : Rule.isOneOf options v = true) :
    AllowsOption kind name v.attributeText := by
  rw [Value.attributeText_of_isOneOf h]
  exact allows_some (Kind.allows_of_mem hset hname (Value.plain_mem h))

theorem allows_padding {s : String}
    (hset : kind.closedSet? "padding" = some (Catalog.paddings.map (·.2)))
    (h : v.padding = .ok s) : AllowsOption kind "padding" (some s) :=
  allows_some (Kind.allows_of_mem hset (by decide) (Value.mem_of_keyIn h (by decide)))

theorem areSafe_nil : (attributesOf []).AreSafe kind :=
  Attributes.areSafe_nil

theorem areSafe_cons {rest : List (String × Option String)} (hvalue : AllowsOption kind name value)
    (hrest : (attributesOf rest).AreSafe kind) :
    (attributesOf ((name, value) :: rest)).AreSafe kind :=
  forall_mem_attributesOf_cons.2 ⟨hvalue, hrest⟩

variable {fragment : Fragment}

theorem IsSafe.nested (h : fragment.IsSafe kind) : fragment.nested.IsSafe kind := by
  have surroundings : (attributesOf [("container-background-color", fragment.background),
      ("padding", fragment.padding)]).AreSafe kind :=
    areSafe_cons (allows_open rfl (by decide)) (areSafe_cons h.padding areSafe_nil)
  have element := h.element
  unfold Fragment.nested
  cases he : fragment.element with
  | plain tag attributes body =>
    rw [he] at element
    refine ⟨element.tag, Attributes.areSafe_append element.attributes surroundings, ?_⟩
    intro name hname
    rw [Element.attributes, List.map_append]
    exact List.mem_append_left _ (element.written name hname)
  | social align mode icons =>
    rw [he] at element
    exact element

theorem IsSafe.alone (h : fragment.IsSafe kind) (hk : kind ≠ .columns) :
    fragment.alone.IsSafe kind where
  attributes :=
    areSafe_cons (allows_open rfl (by decide)) (areSafe_cons h.padding areSafe_nil)
  columns := by
    intro column hc
    rw [List.mem_singleton.1 hc]
    exact Attributes.areSafe_nil
  aligned columns := absurd columns hk

end Fragment

/-! ### The fragment of each kind of block -/

section Kinds

open Fragment

variable {fragment : Fragment}

theorem HeaderProps.Sound.isSafe {props : HeaderProps} (h : props.Sound)
    (hf : props.fragment = .ok fragment) : fragment.IsSafe .header := by
  simp only [HeaderProps.fragment, Outcome.bind_eq_ok_iff, Outcome.pure_eq_ok_iff] at hf
  obtain ⟨padding, hpadding, background, -, src, -, alt, -, rfl⟩ := hf
  have width : Kind.header.IsWidth props.logoWidth.pixels := Value.isPixels_logoWidth h.logoWidth
  have align : AllowsOption .header "align" props.align.attributeText :=
    allows_attributeText rfl (by decide) h.align
  refine ⟨⟨rfl, ?_, ?_⟩, allows_padding rfl hpadding⟩
  · refine areSafe_cons (allows_open rfl (by decide)) ?_
    refine areSafe_cons (allows_open rfl (by decide)) ?_
    refine areSafe_cons (allows_some (Kind.allows_width width)) ?_
    exact areSafe_cons align areSafe_nil
  · simp [Kind.written, Element.attributes, attributesOf, Value.attributeText_of_isOneOf h.align]

theorem TextProps.Sound.isSafe {props : TextProps} (h : props.Sound)
    (hf : props.fragment = .ok fragment) : fragment.IsSafe .text := by
  simp only [TextProps.fragment, Outcome.bind_eq_ok_iff, Outcome.pure_eq_ok_iff] at hf
  obtain ⟨padding, hpadding, font, -, color, -, rfl⟩ := hf
  have size : AllowsOption .text "font-size" (some props.fontSize.pixels) :=
    allows_pixels rfl (by decide) h.fontSize
  have align : AllowsOption .text "align" props.align.attributeText :=
    allows_attributeText rfl (by decide) h.align
  have height : AllowsOption .text "line-height" props.lineHeight.attributeText :=
    allows_attributeText rfl (by decide) h.lineHeight
  refine ⟨⟨rfl, ?_, ?_⟩, allows_padding rfl hpadding⟩
  · refine areSafe_cons size ?_
    refine areSafe_cons (allows_open rfl (by decide)) ?_
    refine areSafe_cons (allows_open rfl (by decide)) ?_
    exact areSafe_cons align (areSafe_cons height areSafe_nil)
  · simp [Kind.written, Element.attributes, attributesOf, Value.attributeText_of_isOneOf h.align,
      Value.attributeText_of_isOneOf h.lineHeight]

theorem ImageProps.Sound.isWidth {props : ImageProps} (h : props.Sound) :
    Kind.image.IsWidth (if props.isFullWidth then "100%" else props.width.pixels) := by
  by_cases hfull : props.isFullWidth = true
  · rw [if_pos hfull]
    exact .inl rfl
  · rw [if_neg hfull]
    right
    have hw := h.width
    unfold isFullWidth at hfull
    cases hv : props.width with
    | text s =>
      rw [hv] at hw hfull
      exact absurd hw hfull
    | int n =>
      rw [hv] at hw hfull
      exact Value.isPixels_imageWidth hw (Bool.eq_false_of_not_eq_true hfull)
    | float x =>
      rw [hv] at hw hfull
      exact Value.isPixels_imageWidth hw (Bool.eq_false_of_not_eq_true hfull)
    | _ =>
      rw [hv] at hw
      cases hw

theorem ImageProps.Sound.isSafe {props : ImageProps} (h : props.Sound)
    (hf : props.fragment = .ok fragment) : fragment.IsSafe .image := by
  have align : AllowsOption .image "align" props.align.attributeText :=
    allows_attributeText rfl (by decide) h.align
  simp only [ImageProps.fragment, ← Outcome.ite_bind] at hf
  simp only [Outcome.bind_eq_ok_iff, Outcome.pure_eq_ok_iff] at hf
  obtain ⟨padding, hpadding, src, -, alt, -, href, -, rfl⟩ := hf
  refine ⟨⟨rfl, ?_, ?_⟩, allows_padding rfl hpadding⟩
  · refine areSafe_cons (allows_open rfl (by decide)) ?_
    refine areSafe_cons (allows_open rfl (by decide)) ?_
    refine areSafe_cons (allows_some (Kind.allows_width h.isWidth)) ?_
    exact areSafe_cons align (areSafe_cons (allows_open rfl (by decide)) areSafe_nil)
  · simp [Kind.written, Element.attributes, attributesOf, Value.attributeText_of_isOneOf h.align]

theorem ButtonProps.Sound.isSafe {props : ButtonProps} (h : props.Sound)
    (hf : props.fragment = .ok fragment) : fragment.IsSafe .button := by
  simp only [ButtonProps.fragment, Outcome.bind_eq_ok_iff, Outcome.pure_eq_ok_iff] at hf
  obtain ⟨href, -, background, -, color, -, padding, hpadding, text, -, rfl⟩ := hf
  have size : AllowsOption .button "font-size" (some props.fontSize.pixels) :=
    allows_pixels rfl (by decide) h.fontSize
  have radius : AllowsOption .button "border-radius" (some props.borderRadius.pixels) :=
    allows_pixels rfl (by decide) h.borderRadius
  have align : AllowsOption .button "align" props.align.attributeText :=
    allows_attributeText rfl (by decide) h.align
  have inner : Kind.button.Allows "padding" padding :=
    Kind.allows_of_mem rfl (by decide) (Value.mem_of_keyIn hpadding (by decide))
  have width : AllowsOption .button "width"
      (if props.fullWidth.truthy then some "100%" else none) := by
    split_ifs
    · exact allows_some (Kind.allows_width rfl)
    · exact allows_none
  refine ⟨⟨rfl, ?_, ?_⟩, allows_none⟩
  · refine areSafe_cons (allows_open rfl (by decide)) ?_
    refine areSafe_cons (allows_open rfl (by decide)) ?_
    refine areSafe_cons (allows_open rfl (by decide)) ?_
    refine areSafe_cons size (areSafe_cons radius (areSafe_cons align ?_))
    exact areSafe_cons (allows_some inner) (areSafe_cons width areSafe_nil)
  · simp [Kind.written, Element.attributes, attributesOf, Value.attributeText_of_isOneOf h.align]

theorem SpacerProps.Sound.isSafe {props : SpacerProps} (h : props.Sound) :
    props.fragment.IsSafe .spacer := by
  have height : AllowsOption .spacer "height" (some props.height.pixels) :=
    allows_pixels rfl (by decide) h.height
  refine ⟨⟨rfl, areSafe_cons height areSafe_nil, ?_⟩, allows_none⟩
  simp [Kind.written, Element.attributes, SpacerProps.fragment]

theorem DividerProps.Sound.isSafe {props : DividerProps} (h : props.Sound)
    (hf : props.fragment = .ok fragment) : fragment.IsSafe .divider := by
  simp only [DividerProps.fragment, Outcome.bind_eq_ok_iff, Outcome.pure_eq_ok_iff] at hf
  obtain ⟨padding, hpadding, color, -, rfl⟩ := hf
  have width : AllowsOption .divider "border-width" (some props.width.pixels) :=
    allows_pixels rfl (by decide) h.width
  have style : AllowsOption .divider "border-style" props.style.attributeText :=
    allows_attributeText rfl (by decide) h.style
  refine ⟨⟨rfl, ?_, ?_⟩, allows_padding rfl hpadding⟩
  · refine areSafe_cons (allows_open rfl (by decide)) ?_
    exact areSafe_cons width (areSafe_cons style areSafe_nil)
  · simp [Kind.written, Element.attributes, attributesOf, Value.attributeText_of_isOneOf h.style]

theorem SocialProps.areSafe_icon {props : SocialProps} (h : props.Sound)
    {background : Option String} {network : SocialNetwork} {symbol : SocialIcon}
    (hn : network.Sound) (hicon : icon props.iconSize.pixels background network = .ok symbol) :
    symbol.attributes.AreSafe .social := by
  simp only [icon, Outcome.bind_eq_ok_iff, Outcome.pure_eq_ok_iff] at hicon
  obtain ⟨href, -, rfl⟩ := hicon
  have name : Kind.social.Allows "name" network.type.plain :=
    Kind.allows_of_mem rfl (by decide) (Value.plain_mem hn.type)
  have size : Kind.social.Allows "icon-size" props.iconSize.pixels :=
    Kind.allows_of_mem rfl (by decide) (Value.pixels_mem_inPixels h.iconSize)
  refine Attributes.areSafe_append ?_ ?_
  · simp only [Attributes.areSafe_cons]
    exact ⟨name, Kind.allows_of_open rfl (by decide), size, Attributes.areSafe_nil⟩
  · intro pair hp
    obtain ⟨color, -, rfl⟩ := List.mem_map.1 hp
    show Kind.social.Allows "background-color" color
    exact Kind.allows_of_open rfl (by decide)

theorem SocialProps.Sound.isSafe {props : SocialProps} (h : props.Sound)
    (hf : props.fragment? = .ok (some fragment)) : fragment.IsSafe .social := by
  obtain ⟨background, icons, -, hicons, hsome⟩ := fragment?_eq_ok hf
  split_ifs at hsome with hempty
  rw [Option.some.inj hsome]
  have align : Kind.social.Allows "align" props.align.plain :=
    Kind.allows_of_mem rfl (by decide) (Value.plain_mem h.align)
  refine ⟨⟨rfl, Attributes.areSafe_append ?_ ?_, ?_⟩, allows_none⟩
  · simp only [Attributes.areSafe_cons]
    exact ⟨align, Kind.allows_of_open rfl (by decide), Attributes.areSafe_nil⟩
  · intro pair hp
    obtain ⟨symbol, hs, hp⟩ := List.mem_flatMap.1 hp
    obtain ⟨network, hn, hicon⟩ := Outcome.exists_of_mem_right hicons hs
    exact areSafe_icon h (h.networks network (List.mem_of_mem_filter hn)) hicon pair hp
  · -- without an icon there is no row
    cases icons with
    | nil => exact absurd rfl hempty
    | cons symbol icons => simp [Kind.written, Element.attributes, SocialIcon.attributes]

theorem FooterProps.isSafe {props : FooterProps} (hf : props.fragment = .ok fragment) :
    fragment.IsSafe .footer := by
  have note (color body : String) (background : Option String) :
      IsSafe .footer ⟨.plain "mj-text" [("font-size", "12px"), ("color", color),
        ("align", "center"), ("line-height", "1.6")] (some body), background, none⟩ := by
    refine ⟨⟨rfl, ?_, by simp [Kind.written, Element.attributes]⟩, allows_none⟩
    simp only [Element.attributes, Attributes.areSafe_cons]
    refine ⟨?_, ?_, ?_, ?_, Attributes.areSafe_nil⟩
    · exact Kind.allows_of_mem rfl (by decide) List.mem_cons_self
    · exact Kind.allows_of_open rfl (by decide)
    · have hset : Kind.footer.closedSet? "align" = some Catalog.alignments := rfl
      exact Kind.allows_of_mem hset (by decide) (by decide)
    · have hset : Kind.footer.closedSet? "line-height" = some Catalog.lineHeights := rfl
      exact Kind.allows_of_mem hset (by decide) (by decide)
  unfold FooterProps.fragment at hf
  by_cases hshown : props.showUnsubscribe.truthy = true
  · simp only [if_pos hshown, Outcome.bind_eq_ok_iff, Outcome.pure_eq_ok_iff] at hf
    obtain ⟨background, -, color, -, address, -, company, -, text, -, unsubscribe, -, rfl⟩ := hf
    exact note color _ _
  · simp only [if_neg hshown, Outcome.bind_eq_ok_iff, Outcome.pure_eq_ok_iff] at hf
    obtain ⟨background, -, color, -, address, -, company, -, unsubscribe, -, rfl⟩ := hf
    exact note color _ _

end Kinds

/-! ## Blocks -/

namespace Block

theorem PropsSound.isSafe {b : Block} {fragment : Fragment} (h : b.PropsSound)
    (hf : b.fragment? = .ok (some fragment)) : fragment.IsSafe b.kind := by
  cases b with
  | header props =>
    obtain ⟨_, hf, hsome⟩ := Outcome.map_eq_ok_iff.1 hf
    exact Option.some.inj hsome ▸ HeaderProps.Sound.isSafe h hf
  | text props =>
    obtain ⟨_, hf, hsome⟩ := Outcome.map_eq_ok_iff.1 hf
    exact Option.some.inj hsome ▸ TextProps.Sound.isSafe h hf
  | image props =>
    obtain ⟨_, hf, hsome⟩ := Outcome.map_eq_ok_iff.1 hf
    exact Option.some.inj hsome ▸ ImageProps.Sound.isSafe h hf
  | button props =>
    obtain ⟨_, hf, hsome⟩ := Outcome.map_eq_ok_iff.1 hf
    exact Option.some.inj hsome ▸ ButtonProps.Sound.isSafe h hf
  | columns props children => cases hf
  | spacer props =>
    cases hf
    exact SpacerProps.Sound.isSafe h
  | divider props =>
    obtain ⟨_, hf, hsome⟩ := Outcome.map_eq_ok_iff.1 hf
    exact Option.some.inj hsome ▸ DividerProps.Sound.isSafe h hf
  | social props => exact SocialProps.Sound.isSafe h hf
  | footer props =>
    obtain ⟨_, hf, hsome⟩ := Outcome.map_eq_ok_iff.1 hf
    exact Option.some.inj hsome ▸ FooterProps.isSafe hf

/-! ### Elements and sections -/

/-- The attribute of the columns that a sound block asks for. -/
theorem areSafe_column {props : ColumnsProps} {run : List Block} {column : Column}
    (h : props.Sound) (hc : Block.column props run = .ok column) :
    column.attributes.AreSafe .columns ∧
      "vertical-align" ∈ column.attributes.map (·.1) := by
  simp only [Block.column, Outcome.bind_eq_ok_iff, Outcome.pure_eq_ok_iff] at hc
  obtain ⟨es, -, rfl⟩ := hc
  have align : Kind.columns.Allows "vertical-align" props.verticalAlign.plain :=
    Kind.allows_of_mem rfl (by decide) (Value.plain_mem h.verticalAlign)
  exact ⟨Attributes.areSafe_cons.2 ⟨align, Attributes.areSafe_nil⟩, List.mem_singleton_self _⟩

theorem Sound.propsSound_of_mem_leaves {depth : Int} {b leaf : Block} (h : Sound depth b)
    (hl : leaf ∈ b.leaves) : leaf.kind ≠ .columns ∧ leaf.PropsSound := by
  induction b using inductionOnChildren generalizing depth with
  | step b ih =>
    rcases b.eq_columns_or_kind_ne with ⟨props, children, rfl⟩ | hk
    · rw [leaves, leavesOfAll_eq] at hl
      obtain ⟨child, hc, hl⟩ := List.mem_flatMap.1 hl
      exact ih child hc (h.child hc) hl
    · rw [leaves_of_kind_ne hk] at hl
      rw [List.mem_singleton.1 hl]
      exact ⟨hk, h.props⟩

/-- The element of a leaf inside columns. -/
theorem PropsSound.isSafe_element {leaf : Block} {e : Element} (h : leaf.PropsSound)
    (hk : leaf.kind ≠ .columns) (he : leaf.elements = .ok [e]) :
    e.IsSafe leaf.kind := by
  rw [elements_of_kind_ne hk] at he
  obtain ⟨fragment, hf, he⟩ := Outcome.bind_eq_ok_iff.1 he
  have he := Outcome.pure_eq_ok_iff.1 he
  cases fragment with
  | none => cases he
  | some fragment =>
    obtain rfl : fragment.nested = e := List.head_eq_of_cons_eq he
    exact (h.isSafe hf).nested

/-- The elements of columns, one column after the other. -/
theorem forall₂_columns {props : ColumnsProps} {runs : List (List Block)} {columns : List Column}
    (h : List.Forall₂ (fun run column => Block.column props run = .ok column) runs columns) :
    List.Forall₂ (fun leaf e => leaf.elements = .ok [e])
      ((leavesOfAll runs.flatten).filter gives) (columns.flatMap (·.elements)) := by
  induction h with
  | nil => exact .nil
  | @cons run column runs columns hcolumn _ ih =>
    simp only [Block.column, Outcome.bind_eq_ok_iff, Outcome.pure_eq_ok_iff] at hcolumn
    obtain ⟨es, hes, rfl⟩ := hcolumn
    rw [leavesOfAll_flatten, List.flatMap_cons, ← leavesOfAll_flatten, List.filter_append,
      List.flatMap_cons]
    exact List.rel_append (forall₂_elementsOfAll hes) ih

theorem Sound.isSafe_columns {depth : Int} {props : ColumnsProps} {children : List Block}
    {part : Section} (h : Sound depth (columns props children))
    (hs : columnsSection props children = .ok part) :
    part.IsSafe .columns ∧
      List.Forall₂ (fun leaf e => e.IsSafe leaf.kind)
        ((leavesOfAll children).filter gives) part.elements := by
  obtain ⟨count, runs, -, -, hcount, hruns, -, hflat⟩ := h.spread
  rw [columnsSection_eq hcount hruns] at hs
  obtain ⟨cols, hcols, rfl⟩ := Outcome.map_eq_ok_iff.1 hs
  have hcols := Outcome.mapM_eq_ok_iff.1 hcols
  have hcolumn : ∀ column ∈ cols, column.attributes.AreSafe .columns ∧
      "vertical-align" ∈ column.attributes.map (·.1) := by
    intro column hc
    obtain ⟨run, -, hread⟩ := Outcome.exists_of_mem_right hcols hc
    exact areSafe_column h.props hread
  refine ⟨⟨?_, fun column hc => (hcolumn column hc).1, fun _ column hc => (hcolumn column hc).2⟩,
    ?_⟩
  · dsimp only
    split_ifs
    · exact Attributes.areSafe_nil
    · exact Attributes.areSafe_cons.2 ⟨Kind.allows_of_open rfl (by decide), Attributes.areSafe_nil⟩
  · have hgood : ∀ leaf ∈ (leavesOfAll children).filter gives,
        leaf.kind ≠ .columns ∧ leaf.PropsSound := fun leaf hl =>
      h.propsSound_of_mem_leaves (List.mem_of_mem_filter hl)
    have hleaves := forall₂_columns hcols
    rw [hflat] at hleaves
    exact ((List.forall₂_and_left _ _).2 ⟨hgood, hleaves⟩).imp fun leaf e he =>
      he.1.2.isSafe_element he.1.1 he.2

/-- The section of a block is safe, and so are the elements in it, leaf by leaf. -/
theorem Sound.isSafe_section {depth : Int} {b : Block} {part : Section} (h : Sound depth b)
    (hs : b.section? = .ok (some part)) :
    part.IsSafe b.kind ∧
      List.Forall₂ (fun leaf e => e.IsSafe leaf.block.kind)
        (b.contentLeaves.filter (·.block.gives)) part.elements := by
  have hgives := isSome_of_section? hs
  rcases b.eq_columns_or_kind_ne with ⟨props, children, rfl⟩ | hk
  · obtain ⟨_, hs, hsome⟩ := Outcome.map_eq_ok_iff.1 hs
    obtain ⟨hpart, helements⟩ := h.isSafe_columns hs
    rw [← Option.some.inj hsome]
    refine ⟨hpart, ?_⟩
    rw [contentLeaves, List.filter_map, List.forall₂_map_left_iff]
    exact helements
  · rw [section?_of_kind_ne hk] at hs
    obtain ⟨fragment, hf, hpart⟩ := Outcome.bind_eq_ok_iff.1 hs
    have hpart := Outcome.pure_eq_ok_iff.1 hpart
    cases fragment with
    | none => cases hpart
    | some fragment =>
      obtain rfl : fragment.alone = part := Option.some.inj hpart
      have hsafe := h.props.isSafe hf
      refine ⟨hsafe.alone hk, ?_⟩
      rw [contentLeaves_of_kind_ne hk, List.filter_cons_of_pos (by rw [← hgives]; rfl)]
      exact .cons hsafe.element .nil

/-- A block that gives nothing has no leaf that gives anything. -/
theorem filter_contentLeaves {b : Block} (h : b.section? = .ok none) :
    b.contentLeaves.filter (·.block.gives) = [] := by
  have hgives := isSome_of_section? h
  cases b with
  | columns props children => cases hgives
  | _ => exact List.filter_cons_of_neg (by rw [← hgives]; simp)

end Block

/-! ## Templates -/

/-- Markup with safe attributes on its body and on all that lies in it: on the section of each block
of the content, and on the element of each block that is no columns, however deep it lies. -/
structure Markup.IsSafe (t : Template) (markup : Markup) : Prop where
  width : Numeral.IsPixels
    (fun r => Catalog.contentWidthMin ≤ r ∧ r ≤ Catalog.contentWidthMax) markup.width
  sections : List.Forall₂ (fun b part => part.IsSafe b.kind) (t.content.filter Block.gives)
    markup.sections
  elements : List.Forall₂ (fun leaf e => e.IsSafe leaf.block.kind)
    (t.leaves.filter (·.block.gives)) (markup.sections.flatMap (·.elements))

namespace Template

/-- The elements of the sections of blocks, leaf by leaf. -/
theorem forall₂_elements {bs : List Block} {parts : List (Option Section)}
    (hb : ∀ b ∈ bs, b.Sound 1)
    (h : List.Forall₂ (fun b part => b.section? = .ok part) bs parts) :
    List.Forall₂ (fun leaf e => e.IsSafe leaf.block.kind)
      ((bs.flatMap Block.contentLeaves).filter (·.block.gives))
      ((parts.filterMap id).flatMap (·.elements)) := by
  induction h with
  | nil => exact .nil
  | @cons b part bs parts hread _ ih =>
    obtain ⟨hb, hbs⟩ := List.forall_mem_cons.1 hb
    rw [List.flatMap_cons, List.filter_append]
    cases part with
    | none =>
      rw [Block.filter_contentLeaves hread, List.filterMap_cons_none rfl]
      exact ih hbs
    | some part =>
      rw [List.filterMap_cons_some (f := id) rfl, List.flatMap_cons]
      exact List.rel_append (hb.isSafe_section hread).2 (ih hbs)

theorem Sound.isSafe_markup {t : Template} {markup : Markup} (h : t.Sound)
    (hm : t.markup = .ok markup) : markup.IsSafe t := by
  simp only [Template.markup, Outcome.bind_eq_ok_iff, Outcome.pure_eq_ok_iff] at hm
  obtain ⟨parts, hparts, title, -, preview, -, font, -, background, -, rfl⟩ := hm
  have hparts := Outcome.mapM_eq_ok_iff.1 hparts
  have hsections := (List.forall₂_and_left _ _).2 ⟨fun b hb => List.mem_of_mem_filter hb,
    Block.forall₂_sections hparts⟩
  exact {
    width := Value.isPixels_contentWidth (widthIssues_eq_nil_iff.1 h.contentWidth)
    sections := hsections.imp fun b part hb => ((h.content b hb.1).isSafe_section hb.2).1
    elements := forall₂_elements h.content hparts }

/-- Only values of the catalog get into the body of the markup of a valid candidate: an attribute
whose values the catalog closes has one of them, and a width lies between its bounds. -/
theorem compile_isSafe {candidate : Value} {t : Template} {mjml : String}
    (h : isValid candidate = true) (ht : ofValue candidate = .ok t) (hm : t.compile = .ok mjml) :
    ∃ markup, t.markup = .ok markup ∧ mjml = markup.text ∧ markup.IsSafe t := by
  obtain ⟨markup, hmarkup, htext⟩ := Outcome.bind_eq_ok_iff.1 hm
  have hsafe := (sound_of_ofValue h ht).isSafe_markup hmarkup
  exact ⟨markup, hmarkup, (Outcome.pure_eq_ok_iff.1 htext).symm, hsafe⟩

/-- A candidate that leaves most props out and gives others as null or as binary numbers. -/
def scatteredProps : Value :=
  candidate [
    .object [("type", .text "EmailHeader"), ("props", .object [
      ("logoWidth", .float ⟨0x4062D00000000000⟩), ("padding", .null), ("align", .null)])],
    .object [("type", .text "EmailColumns"),
      ("props", .object [("columns", .float ⟨0x4000000000000000⟩)]),
      ("children", .list [
        .object [("type", .text "EmailImage"), ("props", .object [
          ("alt", .text "Photo"), ("width", .float ⟨0x3FB999999999999A⟩)])],
        .object [("type", .text "EmailColumns"), ("props", .object []),
          ("children", .list [
            .object [("type", .text "EmailButton"), ("props", .object [
              ("text", .text "Go"), ("href", .text "https://example.com"),
              ("padding", .null)])]])]])]]

theorem compile_isSafe_scatteredProps :
    isValid scatteredProps = true ∧ ∃ t mjml, ofValue scatteredProps = .ok t ∧
      t.compile = .ok mjml ∧
      ∃ markup, t.markup = .ok markup ∧ mjml = markup.text ∧ markup.IsSafe t :=
  have h : isValid scatteredProps = true := by decide +kernel
  ⟨h, _, _, rfl, rfl, compile_isSafe h rfl rfl⟩

end Template

end EmailStudio
