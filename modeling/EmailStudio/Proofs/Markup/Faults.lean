import EmailStudio.Proofs.Markup.Columns
import EmailStudio.Proofs.Publishing.Publisher

/-!
# When markup faults

Validation leaves a few props open that markup needs as texts: the background of a header, the font
and the color of a text, both colors of a button. `Block.Escapable` says that these can be escaped,
here and below. The main result is `Publisher.compile_outcome`: a candidate with issues is refused
with them, one without reads as a template, and that template has markup exactly if all of it can be
escaped. Nothing else about a candidate without issues makes its markup fault.
-/

namespace EmailStudio

/-! ## Computations that need texts -/

/-- A computation that gives a result under a condition, and for want of a text gives none
otherwise. -/
structure NeedsText {α : Type} (p : Prop) (x : Except Fault α) : Prop where
  returns : p → ∃ a, x = .ok a
  faults : ¬p → x = .error .notText

namespace NeedsText

variable {α β : Type} {p q : Prop} {x : Except Fault α}

theorem of_ok {a : α} (h : x = .ok a) : NeedsText True x :=
  ⟨fun _ => ⟨a, h⟩, fun hn => absurd trivial hn⟩

theorem congr (h : NeedsText p x) (hpq : p ↔ q) : NeedsText q x :=
  ⟨fun hq => h.returns (hpq.2 hq), fun hq => h.faults fun hp => hq (hpq.1 hp)⟩

theorem bind {f : α → Except Fault β} (hx : NeedsText p x) (hf : ∀ a, NeedsText q (f a)) :
    NeedsText (p ∧ q) (x >>= f) := by
  by_cases hp : p
  · obtain ⟨a, ha⟩ := hx.returns hp
    rw [ha]
    exact (hf a).congr (by simp [hp])
  · rw [hx.faults hp]
    exact ⟨fun h => absurd h.1 hp, fun _ => rfl⟩

theorem bind_pure {f : α → β} (hx : NeedsText p x) : NeedsText p (x >>= fun a => pure (f a)) :=
  (hx.bind fun a => of_ok (a := f a) rfl).congr (by simp)

theorem map {f : α → β} (hx : NeedsText p x) : NeedsText p (f <$> x) := by
  rw [map_eq_pure_bind]
  exact hx.bind_pure

theorem mapM {p : α → Prop} {f : α → Except Fault β} {xs : List α}
    (h : ∀ x ∈ xs, NeedsText (p x) (f x)) : NeedsText (∀ x ∈ xs, p x) (xs.mapM f) := by
  induction xs with
  | nil => exact (of_ok rfl).congr (by simp)
  | cons x xs ih =>
    rw [List.mapM_cons]
    have hx := h x List.mem_cons_self
    have hxs := ih fun y hy => h y (List.mem_cons_of_mem _ hy)
    exact (hx.bind fun _ => hxs.bind_pure).congr List.forall_mem_cons.symm

end NeedsText

namespace Value

/-- What can be escaped: a text, or what does not count as given. -/
def isEscapable (v : Value) : Bool :=
  v.isText || !v.truthy

theorem needsText_escaped (v : Value) : NeedsText (v.isEscapable = true) v.escaped := by
  unfold isEscapable escaped
  by_cases ht : v.truthy = true
  · rw [if_pos ht, ht]
    cases v with
    | text s => exact (NeedsText.of_ok rfl).congr (by simp [isText])
    | _ => exact ⟨fun h => by simp [isText] at h, fun _ => rfl⟩
  · rw [if_neg ht]
    exact (NeedsText.of_ok rfl).congr (by simp [ht])

theorem isEscapable_of_isText {v : Value} (h : v.isText = true) : v.isEscapable = true := by
  rw [isEscapable, h, Bool.true_or]

theorem isEscapable_of_isFilled {v : Value} (h : Rule.isFilled v = true) :
    v.isEscapable = true := by
  cases v <;> first | rfl | cases h

theorem isEscapable_of_isSource {v : Value} (h : Rule.isSource v = true) :
    v.isEscapable = true := by
  cases v <;> first | rfl | cases h

theorem isEscapable_orElse {v : Value} (h : v.isText = true) (s : String) :
    (v.orElse (.text s)).isEscapable = true := by
  unfold orElse
  split_ifs
  · exact isEscapable_of_isText h
  · rfl

theorem needsText_of_isEscapable {v : Value} (h : v.isEscapable = true) :
    NeedsText True v.escaped :=
  (needsText_escaped v).congr (iff_true_intro h)

theorem needsText_keyIn {options : List String} {v : Value} (h : Rule.isOneOf options v = true)
    (table : List (String × String)) (default : String) :
    NeedsText True (v.keyIn table default) := by
  cases v with
  | text s => exact .of_ok rfl
  | _ => cases h

theorem needsText_padding {v : Value} (h : Rule.isOneOf Rule.paddingNames v = true) :
    NeedsText True v.padding :=
  needsText_keyIn h _ _

theorem needsText_buttonPadding {v : Value} (h : Rule.isOneOf Rule.buttonPaddingNames v = true) :
    NeedsText True v.buttonPadding :=
  needsText_keyIn h _ _

end Value

/-! ## Blocks -/

theorem HeaderProps.Sound.needsText {props : HeaderProps} (h : props.Sound) :
    NeedsText (props.backgroundColor.isEscapable = true) props.fragment := by
  have padding := Value.needsText_padding h.padding
  have src := Value.needsText_of_isEscapable (Value.isEscapable_of_isText h.logoUrl)
  have alt := Value.needsText_of_isEscapable (Value.isEscapable_orElse h.logoAlt "Logo")
  have background := props.backgroundColor.needsText_escaped
  exact (padding.bind fun _ => background.bind fun _ => src.bind fun _ => alt.bind_pure).congr
    (by simp)

theorem TextProps.Sound.needsText {props : TextProps} (h : props.Sound) :
    NeedsText (props.fontFamily.isEscapable = true ∧ props.color.isEscapable = true)
      props.fragment := by
  have padding := Value.needsText_padding h.padding
  have font := props.fontFamily.needsText_escaped
  have color := props.color.needsText_escaped
  exact (padding.bind fun _ => font.bind fun _ => color.bind_pure).congr (by simp)

theorem ImageProps.Sound.needsText {props : ImageProps} (h : props.Sound) :
    NeedsText True props.fragment := by
  have padding := Value.needsText_padding h.padding
  have src := Value.needsText_of_isEscapable (Value.isEscapable_of_isSource h.src)
  have alt := Value.needsText_of_isEscapable (Value.isEscapable_of_isFilled h.alt)
  have href : props.href.isEscapable = true := by
    rcases h.href with hn | ht
    · rw [hn]
      rfl
    · exact Value.isEscapable_of_isText ht
  refine (padding.bind fun _ => src.bind fun _ => alt.bind fun _ => ?_).congr
    (by simp : (True ∧ True ∧ True ∧ True) ↔ True)
  by_cases ht : props.href.truthy = true
  · simp only [if_pos ht]
    exact (Value.needsText_of_isEscapable href).map.bind_pure
  · simp only [if_neg ht]
    exact .of_ok rfl

theorem ButtonProps.Sound.needsText {props : ButtonProps} (h : props.Sound) :
    NeedsText (props.backgroundColor.isEscapable = true ∧ props.textColor.isEscapable = true)
      props.fragment := by
  have href := Value.needsText_of_isEscapable (Value.isEscapable_of_isFilled h.href)
  have background := props.backgroundColor.needsText_escaped
  have color := props.textColor.needsText_escaped
  have padding := Value.needsText_buttonPadding h.padding
  have text := Value.needsText_of_isEscapable (Value.isEscapable_of_isFilled h.text)
  exact (href.bind fun _ => background.bind fun _ => color.bind fun _ => padding.bind fun _ =>
    text.bind_pure).congr (by simp)

theorem DividerProps.Sound.needsText {props : DividerProps} (h : props.Sound) :
    NeedsText True props.fragment := by
  have padding := Value.needsText_padding h.padding
  have color := Value.needsText_of_isEscapable (Value.isEscapable_of_isText h.color)
  exact (padding.bind fun _ => color.bind_pure).congr (by simp)

theorem SocialProps.Sound.needsText {props : SocialProps} (h : props.Sound) :
    NeedsText True props.fragment? := by
  have background : NeedsText True (iconBackground props.iconStyle) := by
    have := h.iconStyle
    unfold iconBackground
    split <;> first | exact .of_ok rfl | simp_all [Rule.isOneOf]
  have icons (background : Option String) : NeedsText True
      ((props.networks.filter (·.url.truthy)).mapM (icon props.iconSize.pixels background)) := by
    refine (NeedsText.mapM (p := fun _ => True) ?_).congr (by simp)
    intro network hn
    have url := (h.networks network (List.mem_of_mem_filter hn)).url
    exact (Value.needsText_of_isEscapable (Value.isEscapable_of_isText url)).bind_pure
  refine (background.bind fun _ => (icons _).bind fun icons => ?_).congr
    (by simp : (True ∧ True ∧ True) ↔ True)
  split_ifs <;> exact .of_ok rfl

theorem FooterProps.Sound.needsText {props : FooterProps} (h : props.Sound) :
    NeedsText True props.fragment := by
  have background := Value.needsText_of_isEscapable (Value.isEscapable_of_isText h.backgroundColor)
  have color := Value.needsText_of_isEscapable (Value.isEscapable_of_isText h.textColor)
  have address := Value.needsText_of_isEscapable (Value.isEscapable_of_isText h.address)
  have company := Value.needsText_of_isEscapable (Value.isEscapable_of_isText h.companyName)
  have unsubscribe := Value.needsText_of_isEscapable
    (Value.isEscapable_orElse h.unsubscribeText "Unsubscribe")
  refine (background.bind fun _ => color.bind fun _ => address.bind fun _ => company.bind fun _ =>
    ?_).congr (by simp : (True ∧ True ∧ True ∧ True ∧ True) ↔ True)
  by_cases ht : props.showUnsubscribe.truthy = true
  · simp only [if_pos ht]
    exact unsubscribe.bind_pure
  · simp only [if_neg ht]
    exact .of_ok rfl

namespace Block

/-- The props of a block itself that validation leaves open. -/
def unjudged : Block → List Value
  | header props => [props.backgroundColor]
  | text props => [props.fontFamily, props.color]
  | button props => [props.backgroundColor, props.textColor]
  | _ => []

/-- A block for whose markup, and that of all blocks below it, there is a text wherever one is
needed. -/
inductive Escapable : Block → Prop
  | intro {b : Block} (props : ∀ v ∈ b.unjudged, v.isEscapable = true)
      (children : ∀ child ∈ b.children, Escapable child) : Escapable b

theorem escapable_iff {b : Block} :
    b.Escapable ↔
      (∀ v ∈ b.unjudged, v.isEscapable = true) ∧ ∀ child ∈ b.children, child.Escapable := by
  constructor
  · rintro ⟨props, children⟩
    exact ⟨props, children⟩
  · rintro ⟨props, children⟩
    exact ⟨props, children⟩

theorem escapable_columns_iff {props : ColumnsProps} {children : List Block} :
    (columns props children).Escapable ↔ ∀ child ∈ children, child.Escapable := by
  rw [escapable_iff]
  simp [unjudged, Block.children]

theorem escapable_iff_of_kind_ne {b : Block} (h : b.kind ≠ .columns) :
    b.Escapable ↔ ∀ v ∈ b.unjudged, v.isEscapable = true := by
  rw [escapable_iff, children_of_kind_ne h]
  simp

theorem PropsSound.needsText {b : Block} (h : b.PropsSound) (hk : b.kind ≠ .columns) :
    NeedsText b.Escapable b.fragment? := by
  refine NeedsText.congr ?_ (escapable_iff_of_kind_ne hk).symm
  cases b with
  | header => exact (HeaderProps.Sound.needsText h).map.congr (by simp [unjudged])
  | text => exact (TextProps.Sound.needsText h).map.congr (by simp [unjudged])
  | image => exact (ImageProps.Sound.needsText h).map.congr (by simp [unjudged])
  | button => exact (ButtonProps.Sound.needsText h).map.congr (by simp [unjudged])
  | columns => exact absurd rfl hk
  | spacer => exact (NeedsText.of_ok rfl).congr (by simp [unjudged])
  | divider => exact (DividerProps.Sound.needsText h).map.congr (by simp [unjudged])
  | social => exact (SocialProps.Sound.needsText h).congr (by simp [unjudged])
  | footer => exact (FooterProps.Sound.needsText h).map.congr (by simp [unjudged])

/-! ### Elements and sections -/

theorem Sound.needsText_elements {depth : Int} {b : Block} (h : Sound depth b) :
    NeedsText b.Escapable b.elements := by
  induction b using inductionOnChildren generalizing depth with
  | step b ih =>
    rcases b.eq_columns_or_kind_ne with ⟨props, children, rfl⟩ | hk
    · rw [elements, elementsOfAll_eq]
      refine (NeedsText.mapM fun child hc => ih child hc (h.child hc)).map.congr ?_
      exact escapable_columns_iff.symm
    · rw [elements_of_kind_ne hk]
      exact (h.props.needsText hk).bind_pure

theorem needsText_elementsOfAll {depth : Int} {bs : List Block}
    (h : ∀ b ∈ bs, Sound depth b) : NeedsText (∀ b ∈ bs, b.Escapable) (elementsOfAll bs) := by
  rw [elementsOfAll_eq]
  exact (NeedsText.mapM fun b hb => (h b hb).needsText_elements).map

theorem Sound.needsText_section {depth : Int} {b : Block} (h : Sound depth b) :
    NeedsText b.Escapable b.section? := by
  rcases b.eq_columns_or_kind_ne with ⟨props, children, rfl⟩ | hk
  · obtain ⟨count, parts, -, -, hcount, hparts, -, hflat⟩ := h.spread
    have hchild : ∀ part ∈ parts, ∀ child ∈ part, Sound (depth + 1) child := by
      intro part hpart child hc
      apply h.child
      rw [Block.children, ← hflat]
      exact List.mem_flatten_of_mem hpart hc
    have hcolumn : ∀ part ∈ parts,
        NeedsText (∀ child ∈ part, child.Escapable) (column props part) := fun part hpart =>
      (needsText_elementsOfAll (hchild part hpart)).bind_pure
    rw [section?, columnsSection_eq hcount hparts]
    refine (NeedsText.mapM hcolumn).map.map.congr ?_
    rw [escapable_columns_iff, ← hflat]
    exact List.forall_mem_flatten.symm
  · rw [section?_of_kind_ne hk]
    exact (h.props.needsText hk).bind_pure

end Block

/-! ## Templates and candidates -/

namespace Template

/-- A template for whose markup there is a text wherever one is needed. -/
def Escapable (t : Template) : Prop :=
  ∀ b ∈ t.content, b.Escapable

theorem Sound.needsText_markup {t : Template} (h : t.Sound) : NeedsText t.Escapable t.markup := by
  have sections : NeedsText t.Escapable (t.content.mapM (·.section?)) :=
    NeedsText.mapM fun b hb => (h.content b hb).needsText_section
  have title := Value.needsText_of_isEscapable (Value.isEscapable_of_isText h.subject)
  have preview := Value.needsText_of_isEscapable (Value.isEscapable_of_isText h.preheader)
  have font := Value.needsText_of_isEscapable (Value.isEscapable_of_isText h.fontFamily)
  have background := Value.needsText_of_isEscapable (Value.isEscapable_of_isText h.backgroundColor)
  exact (sections.bind fun _ => title.bind fun _ => preview.bind fun _ => font.bind fun _ =>
    background.bind_pure).congr (by simp)

theorem Sound.needsText_compile {t : Template} (h : t.Sound) :
    NeedsText t.Escapable t.compile :=
  h.needsText_markup.bind_pure

end Template

namespace Publisher

/-- Every candidate is refused with its issues, compiled, or found to lack a text that its markup
needs. The last is the case of candidates without issues that cannot be escaped, and of no
others. -/
theorem compile_outcome (candidate : Value) :
    (Template.isValid candidate = false →
      compile candidate = .error (.invalid (Template.errors candidate))) ∧
    (Template.isValid candidate = true →
      ∃ t, Template.ofValue candidate = .ok t ∧
        (t.Escapable → ∃ markup, t.compile = .ok markup ∧
          compile candidate = .ok (t.toValue, markup)) ∧
        (¬t.Escapable → compile candidate = .error (.fault .notText))) := by
  refine ⟨compile_of_errors, fun h => ?_⟩
  obtain ⟨t, ht, hs⟩ := Template.sound_of_isValid h
  refine ⟨t, ht, fun he => ?_, fun he => ?_⟩
  · obtain ⟨markup, hm⟩ := hs.needsText_compile.returns he
    refine ⟨markup, hm, ?_⟩
    rw [compile_of_isValid h ht, hm]
    rfl
  · rw [compile_of_isValid h ht, hs.needsText_compile.faults he]
    rfl

/-- The color of a text is one of the props that validation leaves open: a number passes for it, and
has no markup. -/
theorem compile_of_color_number :
    Template.isValid (Template.candidate [.object [
      ("type", .text "EmailText"), ("props", .object [("color", .int 333333)])]]) = true ∧
    compile (Template.candidate [.object [
      ("type", .text "EmailText"), ("props", .object [("color", .int 333333)])]]) =
      .error (.fault .notText) :=
  ⟨rfl, rfl⟩

end Publisher

end EmailStudio
