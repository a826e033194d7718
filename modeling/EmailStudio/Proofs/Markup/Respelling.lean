import EmailStudio.Proofs.Document.Respelling
import EmailStudio.Proofs.Markup.Measure
import EmailStudio.Proofs.Markup.Nesting
import EmailStudio.Proofs.Validation.Respelling

/-!
# Markup and the spelling of numbers

Markup writes a number in one way, however it is spelled, and elsewhere only asks what number it is.
So a sound document and its standard form have the same markup, part by part, and by
`Template.compile_respelled` candidates that only differ in the spelling of numbers are valid
together and compile to the same text.
-/

namespace EmailStudio

/-! ## Values -/

namespace Value

variable {v : Value}

@[simp] theorem escaped_standard (v : Value) : v.standard.escaped = v.escaped := by
  refine apply_standard (fun {x n} h => ?_) (fun items => ?_) (fun fields => ?_) v
  · unfold escaped
    rw [truthy_of_toRat? h]
  · cases items <;> rfl
  · cases fields <;> rfl

@[simp] theorem keyIn_standard (v : Value) (table : List (String × String)) (default : String) :
    v.standard.keyIn table default = v.keyIn table default := by
  refine apply_standard (fun _ => rfl) (fun items => ?_) (fun fields => ?_) v
  · cases items <;> rfl
  · cases fields <;> rfl

@[simp] theorem padding_standard (v : Value) : v.standard.padding = v.padding :=
  keyIn_standard v _ _

@[simp] theorem buttonPadding_standard (v : Value) : v.standard.buttonPadding = v.buttonPadding :=
  keyIn_standard v _ _

@[simp] theorem toInteger_standard (v : Value) : v.standard.toInteger = v.toInteger :=
  apply_standard (fun {x n} h =>
    have hwhole : (float x).isWhole n = true := decide_eq_true h
    (toInteger_of_isWhole hwhole).symm) (fun _ => rfl) (fun _ => rfl) v

theorem pixels_standard (h : v.isNumber = true) : v.standard.pixels = v.pixels := by
  cases v with
  | int n => rfl
  | float x =>
    rcases standard_float x with h | ⟨n, hx, h⟩ <;> rw [h]
    have hwhole : (float x).isWhole n = true := decide_eq_true hx
    rw [pixels, pixels, measure_of_isWhole hwhole]
    rfl
  | _ => cases h

theorem isNumber_of_isImageWidth (h : Rule.isImageWidth v = true) (htext : v.isText = false) :
    v.isNumber = true := by
  cases v <;> first | rfl | cases h | cases htext

theorem standard_of_isText (h : v.isText = true) : v.standard = v := by
  cases v <;> first | rfl | cases h

theorem standard_of_isBool (h : v.isBool = true) : v.standard = v := by
  cases v <;> first | rfl | cases h

theorem standard_of_isOneOf {options : List String} (h : Rule.isOneOf options v = true) :
    v.standard = v := by
  cases v <;> first | rfl | cases h

end Value

/-! ## Fragments -/

theorem HeaderProps.Sound.fragment_standard {props : HeaderProps} (h : props.Sound) :
    props.standard.fragment = props.fragment := by
  have hwidth := Value.pixels_standard (Value.isNumber_of_isBetween h.logoWidth)
  simp only [fragment, standard, Value.padding_standard, Value.escaped_standard,
    Value.orElse_text_standard, hwidth, Value.standard_of_isOneOf h.align]

theorem TextProps.Sound.fragment_standard {props : TextProps} (h : props.Sound) :
    props.standard.fragment = props.fragment := by
  have hsize := Value.pixels_standard (Value.isNumber_of_isNumberOf h.fontSize)
  simp only [fragment, body, standard, Value.padding_standard, Value.escaped_standard, hsize,
    Value.standard_of_isText h.content, Value.standard_of_isOneOf h.align,
    Value.standard_of_isOneOf h.lineHeight]

theorem ImageProps.isFullWidth_standard (props : ImageProps) :
    props.standard.isFullWidth = props.isFullWidth := by
  refine Value.apply_standard (f := fun width => isFullWidth { props with width := width })
    (fun {x n} h => ?_) (fun _ => rfl) (fun _ => rfl) props.width
  have hrat : (Value.int n).rat? = (Value.float x).rat? := h.symm
  simp only [isFullWidth, Value.isWhole, hrat]

/-- The width of an image is written as a number only where it is one. -/
theorem ImageProps.Sound.width_standard {props : ImageProps} (h : props.Sound) :
    (if props.isFullWidth then "100%" else props.width.standard.pixels) =
      if props.isFullWidth then "100%" else props.width.pixels := by
  cases htext : props.width.isText with
  | true => rw [Value.standard_of_isText htext]
  | false => rw [Value.pixels_standard (Value.isNumber_of_isImageWidth h.width htext)]

theorem ImageProps.Sound.fragment_standard {props : ImageProps} (h : props.Sound) :
    props.standard.fragment = props.fragment := by
  have hfull := props.isFullWidth_standard
  have hwidth := h.width_standard
  simp only [fragment, hfull]
  simp only [standard, Value.padding_standard, Value.escaped_standard, Value.truthy_standard,
    hwidth, Value.standard_of_isOneOf h.align]

theorem ButtonProps.Sound.fragment_standard {props : ButtonProps} (h : props.Sound) :
    props.standard.fragment = props.fragment := by
  have hsize := Value.pixels_standard (Value.isNumber_of_isNumberOf h.fontSize)
  have hradius := Value.pixels_standard (Value.isNumber_of_isNumberOf h.borderRadius)
  simp only [fragment, standard, Value.buttonPadding_standard, Value.escaped_standard, hsize,
    hradius, Value.truthy_standard, Value.standard_of_isOneOf h.align]

theorem SpacerProps.Sound.fragment_standard {props : SpacerProps} (h : props.Sound) :
    props.standard.fragment = props.fragment := by
  simp only [fragment, standard, Value.pixels_standard (Value.isNumber_of_isNumberOf h.height)]

theorem DividerProps.Sound.fragment_standard {props : DividerProps} (h : props.Sound) :
    props.standard.fragment = props.fragment := by
  have hwidth := Value.pixels_standard (Value.isNumber_of_isNumberOf h.width)
  simp only [fragment, standard, Value.padding_standard, Value.escaped_standard, hwidth,
    Value.standard_of_isOneOf h.style]

theorem SocialNetwork.Sound.standard_eq {network : SocialNetwork} (h : network.Sound) :
    network.standard = network := by
  rw [standard, Value.standard_of_isOneOf h.type, Value.standard_of_isText h.url]

theorem SocialProps.Sound.fragment?_standard {props : SocialProps} (h : props.Sound) :
    props.standard.fragment? = props.fragment? := by
  have hsize := Value.pixels_standard (Value.isNumber_of_isNumberOf h.iconSize)
  have hnetworks : props.networks.map (·.standard) = props.networks :=
    (List.map_congr_left fun network hn => (h.networks network hn).standard_eq).trans
      (List.map_id _)
  simp only [fragment?, standard, hsize, hnetworks, Value.standard_of_isOneOf h.iconStyle,
    Value.standard_of_isOneOf h.align]

theorem FooterProps.Sound.standard_eq {props : FooterProps} (h : props.Sound) :
    props.standard = props := by
  simp only [standard, Value.standard_of_isText h.companyName, Value.standard_of_isText h.address,
    Value.standard_of_isText h.unsubscribeText, Value.standard_of_isText h.backgroundColor,
    Value.standard_of_isText h.textColor, Value.standard_of_isBool h.showUnsubscribe]

/-! ## Blocks -/

namespace Block

theorem PropsSound.fragment?_standard {b : Block} (h : b.PropsSound) (hk : b.kind ≠ .columns) :
    b.standard.fragment? = b.fragment? := by
  cases b with
  | header => rw [standard, fragment?, fragment?, HeaderProps.Sound.fragment_standard h]
  | text => rw [standard, fragment?, fragment?, TextProps.Sound.fragment_standard h]
  | image => rw [standard, fragment?, fragment?, ImageProps.Sound.fragment_standard h]
  | button => rw [standard, fragment?, fragment?, ButtonProps.Sound.fragment_standard h]
  | columns => exact absurd rfl hk
  | spacer => rw [standard, fragment?, fragment?, SpacerProps.Sound.fragment_standard h]
  | divider => rw [standard, fragment?, fragment?, DividerProps.Sound.fragment_standard h]
  | social => rw [standard, fragment?, fragment?, SocialProps.Sound.fragment?_standard h]
  | footer => rw [standard, FooterProps.Sound.standard_eq h]

theorem elementsOfAll_standard {bs : List Block} (h : ∀ b ∈ bs, b.standard.elements = b.elements) :
    elementsOfAll (bs.map standard) = elementsOfAll bs := by
  rw [elementsOfAll_eq, elementsOfAll_eq, List.mapM_map]
  exact congrArg _ (Outcome.mapM_congr h)

theorem Sound.elements_standard {depth : Int} {b : Block} (h : Sound depth b) :
    b.standard.elements = b.elements := by
  induction h with
  | @intro depth b _ props _ ih =>
    rcases b.eq_columns_or_kind_ne with ⟨props, children, rfl⟩ | hk
    · rw [standard_columns, elements, elements]
      exact elementsOfAll_standard ih
    · rw [elements_of_kind_ne hk, elements_of_kind_ne (b.kind_standard ▸ hk),
        props.fragment?_standard hk]

theorem Sound.columnsSection_standard {depth : Int} {props : ColumnsProps} {children : List Block}
    (h : Sound depth (columns props children)) :
    columnsSection props.standard (children.map standard) = columnsSection props children := by
  obtain ⟨count, parts, -, -, hcount, hparts, -, hflat⟩ := h.spread
  have hprops : props.Sound := h.props
  have hcount' : props.standard.columns.toInteger = .ok count :=
    (Value.toInteger_standard props.columns).trans hcount
  have hparts' : Columns.spread (children.map standard) count =
      .ok (parts.map (·.map standard)) := by
    rw [Columns.spread_map, hparts]
    rfl
  have halign : props.standard.verticalAlign = props.verticalAlign :=
    Value.standard_of_isOneOf hprops.verticalAlign
  have hstack : props.standard.stackOnMobile = props.stackOnMobile :=
    Value.standard_of_isBool hprops.stackOnMobile
  rw [columnsSection_eq hcount hparts, columnsSection_eq hcount' hparts', hstack, List.mapM_map]
  refine congrArg _ (Outcome.mapM_congr fun run hrun => ?_)
  have hrun : ∀ b ∈ run, b.standard.elements = b.elements := fun b hb => by
    have hmem : b ∈ children := hflat ▸ List.mem_flatten_of_mem hrun hb
    exact (h.child hmem).elements_standard
  simp only [Function.comp_apply, column, halign, elementsOfAll_standard hrun]

theorem Sound.section?_standard {depth : Int} {b : Block} (h : Sound depth b) :
    b.standard.section? = b.section? := by
  rcases b.eq_columns_or_kind_ne with ⟨props, children, rfl⟩ | hk
  · rw [standard_columns, section?, section?, h.columnsSection_standard]
  · rw [section?_of_kind_ne hk, section?_of_kind_ne (b.kind_standard ▸ hk),
      h.props.fragment?_standard hk]

end Block

/-! ## Templates -/

namespace Template

theorem Sound.compile_standard {t : Template} (h : t.Sound) : t.standard.compile = t.compile := by
  have hcontent : (t.content.map (·.standard)).mapM (·.section?) = t.content.mapM (·.section?) := by
    rw [List.mapM_map]
    exact Outcome.mapM_congr fun b hb => (h.content b hb).section?_standard
  have hwidth := Value.pixels_standard
    (Value.isNumber_of_isBetween (widthIssues_eq_nil_iff.1 h.contentWidth))
  simp only [compile, markup, standard, hcontent, hwidth, Value.escaped_standard]

/-- However the numbers of a candidate are spelled, it is as valid and compiles to the same
markup. -/
theorem compile_respelled {candidate respelled : Value} (h : candidate.Respells respelled) :
    isValid respelled = isValid candidate ∧
    (isValid candidate = true → ∃ t other : Template, ofValue candidate = .ok t ∧
      ofValue respelled = .ok other ∧ other.compile = t.compile) := by
  have hvalid : isValid respelled = isValid candidate := by
    rw [← isValid_standard respelled, ← isValid_standard candidate, h.standard_eq]
  refine ⟨hvalid, fun hc => ?_⟩
  obtain ⟨t, ht, hsound⟩ := sound_of_isValid hc
  obtain ⟨other, hother, hsound'⟩ := sound_of_isValid (hvalid.trans hc)
  have hstandard : other.standard = t.standard := by
    have hread := ofValue_standard hother
    rw [← h.standard_eq, ofValue_standard ht] at hread
    exact (Except.ok.inj hread).symm
  refine ⟨t, other, ht, hother, ?_⟩
  rw [← hsound.compile_standard, ← hsound'.compile_standard, hstandard]

/-- A picture in columns, with values for the three numbers that its markup is made of. -/
def pictureWith (contentWidth columns width : Value) : Value :=
  .object [
    ("version", .text formatVersion),
    ("metadata", .object [("subject", .text "News"), ("preheader", .text "")]),
    ("settings", .object [
      ("backgroundColor", .text "#ffffff"), ("contentWidth", contentWidth),
      ("fontFamily", .text Catalog.defaultFont)]),
    ("content", .list [.object [
      ("type", .text "EmailColumns"), ("props", .object [("columns", columns)]),
      ("children", .list [.object [
        ("type", .text "EmailImage"),
        ("props", .object [("alt", .text "Photo"), ("width", width)])]])]])]

theorem respells_pictureWith {contentWidth columns width otherContent otherColumns other : Value}
    (hcontent : contentWidth.Respells otherContent) (hcolumns : columns.Respells otherColumns)
    (hwidth : width.Respells other) :
    (pictureWith contentWidth columns width).Respells
      (pictureWith otherContent otherColumns other) := by
  refine .keep (.keep (.cons (.keep (.cons hcontent (.same _))) (.cons ?_ (.same _))))
  refine .list rfl (List.forall_mem_singleton.2 (.keep (.cons (.cons hcolumns (.same _)) ?_)))
  refine .cons (.list rfl (List.forall_mem_singleton.2 ?_)) (.same _)
  exact .keep (.cons (.keep (.cons hwidth (.same _))) (.same _))

def integerPicture : Value :=
  pictureWith (.int 600) (.int 2) (.int 0)

/-- The same with binary numbers, and a negative zero. -/
def binaryPicture : Value :=
  pictureWith (.float ⟨0x4082C00000000000⟩) (.float ⟨0x4000000000000000⟩)
    (.float ⟨0x8000000000000000⟩)

theorem compile_respelled_picture :
    integerPicture.Respells binaryPicture ∧ isValid binaryPicture = isValid integerPicture ∧
      isValid integerPicture = true ∧ ∃ t other : Template, ofValue integerPicture = .ok t ∧
        ofValue binaryPicture = .ok other ∧ other.compile = t.compile := by
  have respells : integerPicture.Respells binaryPicture :=
    respells_pictureWith (.number (q := 600) rfl (by decide +kernel))
      (.number (q := 2) rfl (by decide +kernel)) (.number (q := 0) rfl (by decide +kernel))
  have hvalid : isValid integerPicture = true := rfl
  obtain ⟨heq, hcompile⟩ := compile_respelled respells
  exact ⟨respells, heq, hvalid, hcompile hvalid⟩

end Template

end EmailStudio
