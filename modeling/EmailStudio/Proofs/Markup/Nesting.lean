import EmailStudio.Proofs.Markup.Columns
import EmailStudio.Proofs.Markup.Writing

/-!
# Nesting of compiled markup

Sound blocks give content of the grammar: `Block.PropsSound.isContent` for the fragment of one
block, `Block.Sound.isContent_elements` for all that lies in columns, however deep. The main result
is `Template.compile_spells_document`: the markup of a template without issues is a document, with a
section for each block of its content that gives anything, and as many columns in it as the block
asks for.
-/

namespace EmailStudio

/-! ## Plain values -/

namespace Text

/-- What is written is plain, if anything is. -/
def IsPlainOption (s : Option String) : Prop :=
  ∀ t, s = some t → IsPlain t

theorem isPlain_some {s : String} (h : IsPlain s) : IsPlainOption (some s) := by
  intro t ht
  cases ht
  exact h

theorem isPlain_none : IsPlainOption none := by
  intro t ht
  cases ht

end Text

namespace Value

theorem isPlain_of_escaped {v : Value} {s : String} (h : v.escaped = .ok s) : Text.IsPlain s := by
  unfold escaped at h
  split_ifs at h
  · cases v with
    | text t =>
      rw [← Except.ok.inj h]
      exact Text.isPlain_escape t
    | _ => cases h
  · rw [← Except.ok.inj h]
    decide

theorem isPlain_some_of_escaped {v : Value} {s : String} (h : v.escaped = .ok s) :
    Text.IsPlainOption (some s) :=
  Text.isPlain_some (isPlain_of_escaped h)

/-- What a table and its default give is in the table, if the default is. -/
theorem mem_of_keyIn {table : List (String × String)} {default s : String} {v : Value}
    (h : v.keyIn table default = .ok s) (hdefault : default ∈ table.map (·.2)) :
    s ∈ table.map (·.2) := by
  unfold keyIn at h
  split at h
  · rename_i key
    cases h
    cases hl : table.lookup key with
    | none => exact hdefault
    | some t =>
      obtain ⟨before, after, ht, -⟩ := List.lookup_eq_some_iff.1 hl
      exact List.mem_map.2 ⟨(key, t), by rw [ht]; simp, rfl⟩
  · cases h
  · cases h
  · cases h
    exact hdefault

theorem isPlain_of_padding {v : Value} {s : String} (h : v.padding = .ok s) : Text.IsPlain s := by
  have plain : ∀ length ∈ Catalog.paddings.map (·.2), Text.IsPlain length := by decide
  exact plain s (mem_of_keyIn h (by decide))

theorem isPlain_of_buttonPadding {v : Value} {s : String} (h : v.buttonPadding = .ok s) :
    Text.IsPlain s := by
  have plain : ∀ lengths ∈ Catalog.buttonPaddings.map (·.2), Text.IsPlain lengths := by decide
  exact plain s (mem_of_keyIn h (by decide))

theorem plain_mem {options : List String} {v : Value} (h : Rule.isOneOf options v = true) :
    v.plain ∈ options := by
  cases v with
  | text s => exact List.contains_iff_mem.1 h
  | _ => cases h

theorem isPlain_of_isOneOf {options : List String} {v : Value}
    (h : Rule.isOneOf options v = true) (ho : ∀ option ∈ options, Text.IsPlain option) :
    Text.IsPlain v.plain :=
  ho v.plain (plain_mem h)

/-- An option is always written. -/
theorem attributeText_of_isOneOf {options : List String} {v : Value}
    (h : Rule.isOneOf options v = true) : v.attributeText = some v.plain := by
  cases v with
  | text s => rfl
  | _ => cases h

theorem isPlain_attributeText {options : List String} {v : Value}
    (h : Rule.isOneOf options v = true) (ho : ∀ option ∈ options, Text.IsPlain option) :
    Text.IsPlainOption v.attributeText := by
  rw [attributeText_of_isOneOf h]
  exact Text.isPlain_some (isPlain_of_isOneOf h ho)

theorem isPlain_pixels {v : Value} (h : v.isNumber = true) : Text.IsPlain v.pixels := by
  unfold pixels
  refine Text.isPlain_append ?_ (by decide)
  cases v with
  | int n =>
    simp only [measure, plain, quoted]
    exact Text.isPlain_int n
  | float x =>
    simp only [measure, plain, quoted]
    split
    · exact Text.isPlain_int _
    · exact Text.isPlain_write x
  | _ => cases h

theorem isNumber_of_isNumberOf {options : List Int} {v : Value}
    (h : Rule.isNumberOf options v = true) : v.isNumber = true := by
  obtain ⟨n, -, hn⟩ := List.any_eq_true.1 h
  cases v <;> first | rfl | cases hn

theorem isPlain_pixels_of_isNumberOf {options : List Int} {v : Value}
    (h : Rule.isNumberOf options v = true) : Text.IsPlain v.pixels :=
  isPlain_pixels (isNumber_of_isNumberOf h)

end Value

/-! ## Content of any writer -/

section Mono

variable {written written' : String → Prop} (h : ∀ s, written s → written' s)
include h

theorem Element.IsContent.mono {e : Element} (he : e.IsContent written) : e.IsContent written' := by
  cases he with
  | leaf mem plain => exact .leaf mem plain
  | text plain isWritten => exact .text plain (h _ isWritten)
  | note plain inlines spelling => exact .note plain inlines spelling
  | button plain plain_text => exact .button plain plain_text
  | social plain_align plain_mode icons_ne plain_icons =>
    exact .social plain_align plain_mode icons_ne plain_icons

theorem Column.IsContent.mono {column : Column} (hc : column.IsContent written) :
    column.IsContent written' :=
  ⟨hc.plain, fun e he => (hc.elements e he).mono h⟩

theorem Section.IsContent.mono {part : Section} (hp : part.IsContent written) :
    part.IsContent written' :=
  ⟨hp.plain, hp.columns_ne, fun column hc => (hp.columns column hc).mono h⟩

end Mono

/-! ## Fragments -/

namespace Fragment

theorem isPlain_attributesOf_nil : (attributesOf []).IsPlain :=
  Attributes.isPlain_nil

theorem forall_mem_attributesOf_cons {P : String × String → Prop} {name : String}
    {value : Option String} {rest : List (String × Option String)} :
    (∀ pair ∈ attributesOf ((name, value) :: rest), P pair) ↔
      (∀ s, value = some s → P (name, s)) ∧ ∀ pair ∈ attributesOf rest, P pair := by
  cases value with
  | none => simp [attributesOf]
  | some s => simp [attributesOf]

theorem isPlain_attributesOf_cons {name : String} {value : Option String}
    {rest : List (String × Option String)} (hname : IsName name) (hvalue : Text.IsPlainOption value)
    (hrest : (attributesOf rest).IsPlain) : (attributesOf ((name, value) :: rest)).IsPlain :=
  forall_mem_attributesOf_cons.2 ⟨fun s hs => ⟨hname, hvalue s hs⟩, hrest⟩

/-- A fragment with an element that is content and with plain surroundings. -/
structure IsContent (written : String → Prop) (fragment : Fragment) : Prop where
  element : fragment.element.IsContent written
  background : Text.IsPlainOption fragment.background
  padding : Text.IsPlainOption fragment.padding

variable {written : String → Prop} {fragment : Fragment}

theorem IsContent.nested (h : fragment.IsContent written) : fragment.nested.IsContent written := by
  have surroundings := isPlain_attributesOf_cons
    (show IsName "container-background-color" by decide) h.background
    (isPlain_attributesOf_cons (show IsName "padding" by decide) h.padding
      isPlain_attributesOf_nil)
  have element := h.element
  obtain ⟨e, background, padding⟩ := fragment
  cases element with
  | leaf mem plain => exact .leaf mem (Attributes.isPlain_append plain surroundings)
  | text plain isWritten =>
    exact .text (Attributes.isPlain_append plain surroundings) isWritten
  | note plain inlines spelling =>
    exact .note (Attributes.isPlain_append plain surroundings) inlines spelling
  | button plain plain_text =>
    exact .button (Attributes.isPlain_append plain surroundings) plain_text
  | social plain_align plain_mode icons_ne plain_icons =>
    exact .social plain_align plain_mode icons_ne plain_icons

theorem IsContent.alone (h : fragment.IsContent written) : fragment.alone.IsContent written where
  plain := isPlain_attributesOf_cons (by decide) h.background
    (isPlain_attributesOf_cons (by decide) h.padding isPlain_attributesOf_nil)
  columns_ne := List.cons_ne_nil _ _
  columns := by
    intro column hc
    rw [Fragment.alone, List.mem_singleton] at hc
    rw [hc]
    refine ⟨Attributes.isPlain_nil, fun e he => ?_⟩
    rw [List.mem_singleton.1 he]
    exact h.element

end Fragment

/-! ### The fragment of each kind of block -/

section Kinds

open Fragment Text

variable {written : String → Prop} {fragment : Fragment}

theorem HeaderProps.Sound.isContent {props : HeaderProps} (h : props.Sound)
    (hf : props.fragment = .ok fragment) : fragment.IsContent written := by
  simp only [HeaderProps.fragment, Outcome.bind_eq_ok_iff, Outcome.pure_eq_ok_iff] at hf
  obtain ⟨padding, hpadding, background, hbackground, src, hsrc, alt, halt, rfl⟩ := hf
  have align := Value.isPlain_attributeText h.align (by decide)
  have width := Value.isPlain_pixels (Value.isNumber_of_isBetween h.logoWidth)
  refine ⟨.leaf (by decide) ?_, Value.isPlain_some_of_escaped hbackground,
    isPlain_some (Value.isPlain_of_padding hpadding)⟩
  refine isPlain_attributesOf_cons (by decide) (Value.isPlain_some_of_escaped hsrc) ?_
  refine isPlain_attributesOf_cons (by decide) (Value.isPlain_some_of_escaped halt) ?_
  refine isPlain_attributesOf_cons (by decide) (isPlain_some width) ?_
  exact isPlain_attributesOf_cons (by decide) align isPlain_attributesOf_nil

theorem TextProps.Sound.isContent {props : TextProps} (h : props.Sound) (hw : written props.body)
    (hf : props.fragment = .ok fragment) : fragment.IsContent written := by
  simp only [TextProps.fragment, Outcome.bind_eq_ok_iff, Outcome.pure_eq_ok_iff] at hf
  obtain ⟨padding, hpadding, font, hfont, color, hcolor, rfl⟩ := hf
  have size := Value.isPlain_pixels_of_isNumberOf h.fontSize
  have align := Value.isPlain_attributeText h.align (by decide)
  have height := Value.isPlain_attributeText h.lineHeight (by decide)
  refine ⟨.text ?_ hw, isPlain_none, isPlain_some (Value.isPlain_of_padding hpadding)⟩
  refine isPlain_attributesOf_cons (by decide) (isPlain_some size) ?_
  refine isPlain_attributesOf_cons (by decide) (Value.isPlain_some_of_escaped hfont) ?_
  refine isPlain_attributesOf_cons (by decide) (Value.isPlain_some_of_escaped hcolor) ?_
  refine isPlain_attributesOf_cons (by decide) align ?_
  exact isPlain_attributesOf_cons (by decide) height isPlain_attributesOf_nil

theorem ImageProps.Sound.isPlain_width {props : ImageProps} (h : props.Sound) :
    Text.IsPlain (if props.isFullWidth then "100%" else props.width.pixels) := by
  have hw := h.width
  unfold isFullWidth
  cases hv : props.width with
  | text s =>
    rw [hv] at hw
    rw [show s = "full" from of_decide_eq_true hw]
    decide
  | int n => split_ifs <;> first | decide | exact Value.isPlain_pixels rfl
  | float x => split_ifs <;> first | decide | exact Value.isPlain_pixels rfl
  | _ =>
    rw [hv] at hw
    cases hw

theorem ImageProps.Sound.isContent {props : ImageProps} (h : props.Sound)
    (hf : props.fragment = .ok fragment) : fragment.IsContent written := by
  have align := Value.isPlain_attributeText h.align (by decide)
  have content {padding src alt : String} {href : Option String}
      (hpadding : props.padding.padding = .ok padding) (hsrc : props.src.escaped = .ok src)
      (halt : props.alt.escaped = .ok alt) (hhref : IsPlainOption href) :
      IsContent written ⟨.plain "mj-image" (attributesOf [("src", some src), ("alt", some alt),
        ("width", some (if props.isFullWidth then "100%" else props.width.pixels)),
        ("align", props.align.attributeText), ("href", href)]) none, none, some padding⟩ := by
    refine ⟨.leaf (by decide) ?_, isPlain_none, isPlain_some (Value.isPlain_of_padding hpadding)⟩
    refine isPlain_attributesOf_cons (by decide) (Value.isPlain_some_of_escaped hsrc) ?_
    refine isPlain_attributesOf_cons (by decide) (Value.isPlain_some_of_escaped halt) ?_
    refine isPlain_attributesOf_cons (by decide) (isPlain_some h.isPlain_width) ?_
    refine isPlain_attributesOf_cons (by decide) align ?_
    exact isPlain_attributesOf_cons (by decide) hhref isPlain_attributesOf_nil
  unfold ImageProps.fragment at hf
  by_cases ht : props.href.truthy = true
  · simp only [if_pos ht, Outcome.bind_eq_ok_iff, Outcome.pure_eq_ok_iff,
      Outcome.map_eq_ok_iff] at hf
    obtain ⟨padding, hpadding, src, hsrc, alt, halt, _, ⟨href, hhref, rfl⟩, rfl⟩ := hf
    exact content hpadding hsrc halt (Value.isPlain_some_of_escaped hhref)
  · simp only [if_neg ht, Outcome.bind_eq_ok_iff, Outcome.pure_eq_ok_iff] at hf
    obtain ⟨padding, hpadding, src, hsrc, alt, halt, _, rfl, rfl⟩ := hf
    exact content hpadding hsrc halt isPlain_none

theorem ButtonProps.Sound.isContent {props : ButtonProps} (h : props.Sound)
    (hf : props.fragment = .ok fragment) : fragment.IsContent written := by
  simp only [ButtonProps.fragment, Outcome.bind_eq_ok_iff, Outcome.pure_eq_ok_iff] at hf
  obtain ⟨href, hhref, background, hbackground, color, hcolor, padding, hpadding, text, htext,
    rfl⟩ := hf
  have size := Value.isPlain_pixels_of_isNumberOf h.fontSize
  have radius := Value.isPlain_pixels_of_isNumberOf h.borderRadius
  have align := Value.isPlain_attributeText h.align (by decide)
  have width : IsPlainOption (if props.fullWidth.truthy then some "100%" else none) := by
    split_ifs
    · exact isPlain_some (by decide)
    · exact isPlain_none
  refine ⟨.button ?_ (Value.isPlain_of_escaped htext), isPlain_none, isPlain_none⟩
  refine isPlain_attributesOf_cons (by decide) (Value.isPlain_some_of_escaped hhref) ?_
  refine isPlain_attributesOf_cons (by decide)
    (Value.isPlain_some_of_escaped hbackground) ?_
  refine isPlain_attributesOf_cons (by decide) (Value.isPlain_some_of_escaped hcolor) ?_
  refine isPlain_attributesOf_cons (by decide) (isPlain_some size) ?_
  refine isPlain_attributesOf_cons (by decide) (isPlain_some radius) ?_
  refine isPlain_attributesOf_cons (by decide) align ?_
  refine isPlain_attributesOf_cons (by decide)
    (isPlain_some (Value.isPlain_of_buttonPadding hpadding)) ?_
  exact isPlain_attributesOf_cons (by decide) width isPlain_attributesOf_nil

theorem SpacerProps.Sound.isContent {props : SpacerProps} (h : props.Sound) :
    props.fragment.IsContent written := by
  have height := Value.isPlain_pixels_of_isNumberOf h.height
  refine ⟨.leaf (by decide) ?_, isPlain_none, isPlain_none⟩
  exact Attributes.isPlain_cons.2 ⟨⟨by decide, height⟩, Attributes.isPlain_nil⟩

theorem DividerProps.Sound.isContent {props : DividerProps} (h : props.Sound)
    (hf : props.fragment = .ok fragment) : fragment.IsContent written := by
  simp only [DividerProps.fragment, Outcome.bind_eq_ok_iff, Outcome.pure_eq_ok_iff] at hf
  obtain ⟨padding, hpadding, color, hcolor, rfl⟩ := hf
  have width := Value.isPlain_pixels_of_isNumberOf h.width
  have style := Value.isPlain_attributeText h.style (by decide)
  refine ⟨.leaf (by decide) ?_, isPlain_none, isPlain_some (Value.isPlain_of_padding hpadding)⟩
  refine isPlain_attributesOf_cons (by decide) (Value.isPlain_some_of_escaped hcolor) ?_
  refine isPlain_attributesOf_cons (by decide) (isPlain_some width) ?_
  exact isPlain_attributesOf_cons (by decide) style isPlain_attributesOf_nil

/-! ### Rows of icons -/

theorem SocialProps.isPlain_iconBackground {style : Value} {background : Option String}
    (h : iconBackground style = .ok background) : IsPlainOption background := by
  unfold iconBackground at h
  split at h
  · rw [← Except.ok.inj h]
    exact isPlain_some (by decide)
  · rw [← Except.ok.inj h]
    exact isPlain_some (by decide)
  · cases h
  · cases h
  · rw [← Except.ok.inj h]
    exact isPlain_none

theorem SocialProps.isPlain_icon {size : String} {background : Option String}
    {network : SocialNetwork} {symbol : SocialIcon} (hn : network.Sound) (hsize : IsPlain size)
    (hbackground : IsPlainOption background) (h : icon size background network = .ok symbol) :
    symbol.attributes.IsPlain := by
  simp only [icon, Outcome.bind_eq_ok_iff, Outcome.pure_eq_ok_iff] at h
  obtain ⟨href, hhref, rfl⟩ := h
  have name := Value.isPlain_of_isOneOf hn.type (by decide)
  have href := Value.isPlain_of_escaped hhref
  refine Attributes.isPlain_append ?_ ?_
  · rw [Attributes.isPlain_cons, Attributes.isPlain_cons, Attributes.isPlain_cons]
    exact ⟨⟨by decide, name⟩, ⟨by decide, href⟩, ⟨by decide, hsize⟩, Attributes.isPlain_nil⟩
  · cases background with
    | none => exact Attributes.isPlain_nil
    | some color =>
      exact Attributes.isPlain_cons.2 ⟨⟨by decide, hbackground color rfl⟩, Attributes.isPlain_nil⟩

theorem SocialProps.Sound.isContent {props : SocialProps} (h : props.Sound)
    (hf : props.fragment? = .ok (some fragment)) : fragment.IsContent written := by
  obtain ⟨background, icons, hbackground, hicons, hsome⟩ := fragment?_eq_ok hf
  split_ifs at hsome with hempty
  rw [Option.some.inj hsome]
  refine ⟨.social ?_ ?_ ?_ ?_, isPlain_none, isPlain_none⟩
  · exact Value.isPlain_of_isOneOf h.align (by decide)
  · split <;> decide
  · exact fun hnil => hempty (List.isEmpty_iff.2 hnil)
  · intro symbol hs
    obtain ⟨network, hn, hicon⟩ := Outcome.exists_of_mem_right hicons hs
    exact isPlain_icon (h.networks network (List.mem_of_mem_filter hn))
      (Value.isPlain_pixels_of_isNumberOf h.iconSize) (isPlain_iconBackground hbackground) hicon

/-! ### Footers -/


namespace FooterProps

/-- An address is written as texts with line breaks between them. -/
theorem exists_addressText (cs : List Char) (h : ∀ c ∈ cs, c ∉ delimiters) :
    ∃ (t s : String) (nodes : List Node), IsPlain t ∧ (∀ node ∈ nodes, node.IsInline) ∧
      Spelling nodes s ∧
      String.ofList (replaceChar '\n' "<br/>".toList cs) = t ++ s := by
  induction cs with
  | nil => exact ⟨"", "", [], by decide, by simp, .nil, rfl⟩
  | cons c cs ih =>
    obtain ⟨hc, hcs⟩ := List.forall_mem_cons.1 h
    obtain ⟨t, s, nodes, ht, hnodes, hs, htext⟩ := ih hcs
    have hcons : replaceChar '\n' "<br/>".toList (c :: cs) =
        (if c = '\n' then "<br/>".toList else [c]) ++ replaceChar '\n' "<br/>".toList cs := rfl
    rw [hcons, String.ofList_append, htext]
    by_cases hn : c = '\n'
    · refine ⟨"", "<br/>" ++ (t ++ s), .leaf "br" [] :: .text t :: nodes, by decide, ?_, ?_, ?_⟩
      · exact List.forall_mem_cons.2 ⟨.lineBreak, List.forall_mem_cons.2 ⟨.text t, hnodes⟩⟩
      · exact .leaf (a := "") (by decide) (.nil (by decide)) (.text ht hs)
      · rw [if_pos hn]
        rfl
    · refine ⟨String.ofList [c] ++ t, s, nodes, isPlain_append ?_ ht, hnodes, hs, ?_⟩
      · rw [isPlain_ofList, List.forall_mem_singleton]
        exact hc
      · rw [if_neg hn, String.append_assoc]

/-- Nodes that may stand in a note, as they are written. -/
def IsNote (s : String) : Prop :=
  ∃ nodes : List Node, (∀ node ∈ nodes, node.IsInline) ∧ Spelling nodes s

theorem IsNote.append {s t : String} (hs : IsNote s) (ht : IsNote t) : IsNote (s ++ t) := by
  obtain ⟨nodes, hnodes, hs⟩ := hs
  obtain ⟨others, hothers, ht⟩ := ht
  refine ⟨nodes ++ others, fun node hn => ?_, hs.append ht⟩
  exact (List.mem_append.1 hn).elim (hnodes node) (hothers node)

theorem isNote_blank {w : String} (h : IsBlank w) : IsNote w := by
  have hs := Spelling.blank h .nil
  rw [String.append_empty] at hs
  exact ⟨[], by simp, hs⟩

theorem isNote_lineBreak : IsNote "<br/>" :=
  ⟨[.leaf "br" []], by simp [Node.IsInline.lineBreak],
    Spelling.single_leaf (a := "") (by decide) (.nil (by decide))⟩

theorem isNote_strong {s : String} (h : IsPlain s) : IsNote ("<strong>" ++ s ++ "</strong>") := by
  have hs := Spelling.single_element (a := "") (show IsName "strong" by decide) (.nil (by decide))
    (Spelling.single_text h)
  refine ⟨_, List.forall_mem_singleton.2 (.strong s), ?_⟩
  rw [show "<strong>" = "<" ++ "strong" ++ "" ++ ">" from rfl,
    show "</strong>" = "</" ++ ("strong" ++ ">") from rfl]
  simpa only [String.append_assoc, -String.reduceAppend] using hs

theorem isNote_link {href style s : String} (hhref : IsPlain href) (hstyle : IsPlain style)
    (h : IsPlain s) :
    IsNote ("<a href=\"" ++ href ++ "\" style=\"" ++ style ++ "\">" ++ s ++ "</a>") := by
  have attrs : Attributes.Spelling [("href", href), ("style", style)]
      (" " ++ ("href" ++ "=\"" ++ href ++ "\"") ++
        (" " ++ ("style" ++ "=\"" ++ style ++ "\"") ++ "")) :=
    .cons (by decide) (by decide) (by decide) hhref
      (.cons (by decide) (by decide) (by decide) hstyle (.nil (by decide)))
  have hs := Spelling.single_element (show IsName "a" by decide) attrs (Spelling.single_text h)
  refine ⟨_, List.forall_mem_singleton.2 (.link href style s), ?_⟩
  rw [show "<a href=\"" = "<" ++ ("a" ++ (" " ++ ("href" ++ "=\""))) from rfl,
    show "\" style=\"" = "\"" ++ (" " ++ ("style" ++ "=\"")) from rfl,
    show "\">" = "\"" ++ ("" ++ ">") from rfl, show "</a>" = "</" ++ ("a" ++ ">") from rfl]
  simpa only [String.append_assoc, -String.reduceAppend] using hs

theorem isNote_addressText {s : String} (h : IsPlain s) : IsNote (addressText s) := by
  obtain ⟨t, rest, nodes, ht, hnodes, hs, htext⟩ := exists_addressText s.toList h
  refine ⟨.text t :: nodes, List.forall_mem_cons.2 ⟨.text t, hnodes⟩, ?_⟩
  rw [addressText, htext]
  exact .text ht hs

theorem isNote_unsubscribeLine {color text : String} (hcolor : IsPlain color)
    (htext : IsPlain text) : IsNote (unsubscribeLine color text) := by
  have style : IsPlain ("color: " ++ color ++ "; text-decoration: underline;") :=
    isPlain_append (isPlain_append (by decide) hcolor) (by decide)
  have link := isNote_link (show IsPlain Catalog.unsubscribePlaceholder by decide) style htext
  have hs := (isNote_blank (show IsBlank "          " by decide)).append
    (isNote_lineBreak.append link)
  unfold unsubscribeLine
  rw [show "          <br/><a href=\"" = "          " ++ ("<br/>" ++ "<a href=\"") from rfl,
    show "\" style=\"color: " = "\" style=\"" ++ "color: " from rfl,
    show "; text-decoration: underline;\">" = "; text-decoration: underline;" ++ "\">" from rfl]
  simpa only [String.append_assoc, -String.reduceAppend] using hs

theorem isNote_joinLines {lines : List String} (h : ∀ line ∈ lines, IsNote line) :
    IsNote (joinLines lines) := by
  induction lines with
  | nil => exact isNote_blank (by decide)
  | cons line lines ih =>
    obtain ⟨hline, hlines⟩ := List.forall_mem_cons.1 h
    by_cases hnil : lines = []
    · rw [hnil, joinLines_singleton]
      exact hline
    · rw [joinLines_cons hnil]
      exact hline.append ((isNote_blank (by decide)).append (ih hlines))

theorem isNote_lines {company address : String} {unsubscribe : List String}
    (hcompany : IsPlain company) (haddress : IsPlain address)
    (hunsubscribe : ∀ line ∈ unsubscribe, IsNote line) :
    IsNote (joinLines (["          <strong>" ++ company ++ "</strong><br/>",
      "          " ++ addressText address] ++ unsubscribe)) := by
  have indent := isNote_blank (show IsBlank "          " by decide)
  have first : IsNote ("          <strong>" ++ company ++ "</strong><br/>") := by
    have hs := indent.append ((isNote_strong hcompany).append isNote_lineBreak)
    rw [show "          <strong>" = "          " ++ "<strong>" from rfl,
      show "</strong><br/>" = "</strong>" ++ "<br/>" from rfl]
    simpa only [String.append_assoc, -String.reduceAppend] using hs
  refine isNote_joinLines (List.forall_mem_append.2 ⟨?_, hunsubscribe⟩)
  rw [List.forall_mem_cons, List.forall_mem_singleton]
  exact ⟨first, indent.append (isNote_addressText haddress)⟩

end FooterProps

theorem FooterProps.Sound.isContent {props : FooterProps} (hf : props.fragment = .ok fragment) :
    fragment.IsContent written := by
  have content {background color address company : String} {unsubscribe : List String}
      (hbackground : props.backgroundColor.escaped = .ok background)
      (hcolor : props.textColor.escaped = .ok color)
      (haddress : props.address.escaped = .ok address)
      (hcompany : props.companyName.escaped = .ok company)
      (hunsubscribe : ∀ line ∈ unsubscribe, IsNote line) :
      IsContent written ⟨.plain "mj-text" [("font-size", "12px"), ("color", color),
        ("align", "center"), ("line-height", "1.6")] (some ("\n" ++ joinLines
          (["          <strong>" ++ company ++ "</strong><br/>",
            "          " ++ addressText address] ++ unsubscribe) ++ "\n        ")),
        some background, none⟩ := by
    obtain ⟨nodes, hnodes, hs⟩ := ((isNote_blank (show IsBlank "\n" by decide)).append
      (isNote_lines (Value.isPlain_of_escaped hcompany) (Value.isPlain_of_escaped haddress)
        hunsubscribe)).append (isNote_blank (show IsBlank "\n        " by decide))
    refine ⟨.note ?_ hnodes hs, Value.isPlain_some_of_escaped hbackground, isPlain_none⟩
    simp only [Attributes.isPlain_cons]
    exact ⟨⟨by decide, by decide⟩, ⟨by decide, Value.isPlain_of_escaped hcolor⟩,
      ⟨by decide, by decide⟩, ⟨by decide, by decide⟩, Attributes.isPlain_nil⟩
  unfold FooterProps.fragment at hf
  by_cases ht : props.showUnsubscribe.truthy = true
  · simp only [if_pos ht, Outcome.bind_eq_ok_iff, Outcome.pure_eq_ok_iff] at hf
    obtain ⟨background, hbackground, color, hcolor, address, haddress, company, hcompany, text,
      htext, _, rfl, rfl⟩ := hf
    refine content hbackground hcolor haddress hcompany (List.forall_mem_singleton.2 ?_)
    exact isNote_unsubscribeLine (Value.isPlain_of_escaped hcolor) (Value.isPlain_of_escaped htext)
  · simp only [if_neg ht, Outcome.bind_eq_ok_iff, Outcome.pure_eq_ok_iff] at hf
    obtain ⟨background, hbackground, color, hcolor, address, haddress, company, hcompany, _, rfl,
      rfl⟩ := hf
    exact content hbackground hcolor haddress hcompany (by simp)

end Kinds

/-! ## Blocks -/

namespace Block

/-- The contents of the text blocks that a block is or holds, at any depth. -/
inductive Writes : Block → String → Prop
  | text (props : TextProps) : Writes (text props) props.body
  | child {b child : Block} {s : String} (mem : child ∈ b.children) (below : Writes child s) :
      Writes b s

/-- The number of columns in the section of a block. -/
def HasColumns (count : Nat) : Block → Prop
  | columns props _ => props.columns.isWhole count = true
  | _ => count = 1

theorem hasColumns_one {b : Block} (h : b.kind ≠ .columns) : b.HasColumns 1 := by
  cases b <;> first | rfl | exact absurd rfl h

theorem PropsSound.isContent {b : Block} {fragment : Fragment} (h : b.PropsSound)
    (hf : b.fragment? = .ok (some fragment)) : fragment.IsContent b.Writes := by
  cases b with
  | header props =>
    obtain ⟨_, hf, hsome⟩ := Outcome.map_eq_ok_iff.1 hf
    exact Option.some.inj hsome ▸ HeaderProps.Sound.isContent h hf
  | text props =>
    obtain ⟨_, hf, hsome⟩ := Outcome.map_eq_ok_iff.1 hf
    exact Option.some.inj hsome ▸ TextProps.Sound.isContent h (.text props) hf
  | image props =>
    obtain ⟨_, hf, hsome⟩ := Outcome.map_eq_ok_iff.1 hf
    exact Option.some.inj hsome ▸ ImageProps.Sound.isContent h hf
  | button props =>
    obtain ⟨_, hf, hsome⟩ := Outcome.map_eq_ok_iff.1 hf
    exact Option.some.inj hsome ▸ ButtonProps.Sound.isContent h hf
  | columns props children => cases hf
  | spacer props =>
    cases hf
    exact SpacerProps.Sound.isContent h
  | divider props =>
    obtain ⟨_, hf, hsome⟩ := Outcome.map_eq_ok_iff.1 hf
    exact Option.some.inj hsome ▸ DividerProps.Sound.isContent h hf
  | social props => exact SocialProps.Sound.isContent h hf
  | footer props =>
    obtain ⟨_, hf, hsome⟩ := Outcome.map_eq_ok_iff.1 hf
    exact Option.some.inj hsome ▸ FooterProps.Sound.isContent hf

/-! ### Elements and sections -/

theorem Sound.isContent_elements {depth : Int} {b : Block} {es : List Element} (h : Sound depth b)
    (he : b.elements = .ok es) : ∀ e ∈ es, e.IsContent b.Writes := by
  induction b using inductionOnChildren generalizing depth es with
  | step b ih =>
    rcases b.eq_columns_or_kind_ne with ⟨props, children, rfl⟩ | hk
    · rw [elements, elementsOfAll_eq] at he
      obtain ⟨parts, hparts, rfl⟩ := Outcome.map_eq_ok_iff.1 he
      intro e hmem
      obtain ⟨part, hpart, hmem⟩ := List.mem_flatten.1 hmem
      obtain ⟨child, hc, hread⟩ :=
        Outcome.exists_of_mem_right (Outcome.mapM_eq_ok_iff.1 hparts) hpart
      exact (ih child hc (h.child hc) hread e hmem).mono fun s hs => .child hc hs
    · rw [elements_of_kind_ne hk] at he
      obtain ⟨fragment, hf, hes⟩ := Outcome.bind_eq_ok_iff.1 he
      rw [← Outcome.pure_eq_ok_iff.1 hes]
      intro e hmem
      obtain ⟨f, hsome, rfl⟩ := List.mem_map.1 hmem
      rw [Option.mem_toList.1 hsome] at hf
      exact (h.props.isContent hf).nested

theorem isContent_elementsOfAll {depth : Int} {bs : List Block} {es : List Element}
    (h : ∀ b ∈ bs, Sound depth b) (he : elementsOfAll bs = .ok es) :
    ∀ e ∈ es, e.IsContent fun s => ∃ b ∈ bs, b.Writes s := by
  rw [elementsOfAll_eq] at he
  obtain ⟨parts, hparts, rfl⟩ := Outcome.map_eq_ok_iff.1 he
  intro e hmem
  obtain ⟨part, hpart, hmem⟩ := List.mem_flatten.1 hmem
  obtain ⟨b, hb, hread⟩ := Outcome.exists_of_mem_right (Outcome.mapM_eq_ok_iff.1 hparts) hpart
  exact ((h b hb).isContent_elements hread e hmem).mono fun s hs => ⟨b, hb, hs⟩

theorem isContent_column {depth : Int} {props : ColumnsProps} {run : List Block} {column : Column}
    (hp : props.Sound) (h : ∀ b ∈ run, Sound depth b) (hc : Block.column props run = .ok column) :
    column.IsContent fun s => ∃ b ∈ run, b.Writes s := by
  simp only [Block.column, Outcome.bind_eq_ok_iff, Outcome.pure_eq_ok_iff] at hc
  obtain ⟨es, hes, rfl⟩ := hc
  have align := Value.isPlain_of_isOneOf hp.verticalAlign (by decide)
  exact {
    plain := Attributes.isPlain_cons.2 ⟨⟨by decide, align⟩, Attributes.isPlain_nil⟩
    elements := isContent_elementsOfAll h hes }

theorem Sound.isContent_columns {depth : Int} {props : ColumnsProps} {children : List Block}
    {part : Section} (h : Sound depth (columns props children))
    (hs : columnsSection props children = .ok part) :
    part.IsContent (columns props children).Writes ∧
      (columns props children).HasColumns part.columns.length := by
  obtain ⟨count, parts, hmem, hwhole, hcount, hparts, hlength, hflat⟩ := h.spread
  have positive : ∀ count ∈ Catalog.columnCounts, 0 < count := by decide
  have hpos := positive count hmem
  rw [columnsSection_eq hcount hparts] at hs
  obtain ⟨cols, hcols, rfl⟩ := Outcome.map_eq_ok_iff.1 hs
  have hcols := Outcome.mapM_eq_ok_iff.1 hcols
  have hlen : cols.length = count.toNat := by rw [← hcols.length_eq, hlength]
  refine ⟨⟨?_, ?_, ?_⟩, ?_⟩
  · split_ifs
    · exact Attributes.isPlain_nil
    · exact Attributes.isPlain_cons.2 ⟨⟨by decide, by decide⟩, Attributes.isPlain_nil⟩
  · apply List.ne_nil_of_length_pos
    rw [hlen]
    omega
  · intro column hc
    obtain ⟨run, hrun, hread⟩ := Outcome.exists_of_mem_right hcols hc
    have hin : ∀ b ∈ run, b ∈ (columns props children).children := fun b hb => by
      rw [Block.children, ← hflat]
      exact List.mem_flatten_of_mem hrun hb
    refine (isContent_column h.props (fun b hb => h.child (hin b hb)) hread).mono fun s hs => ?_
    obtain ⟨b, hb, hs⟩ := hs
    exact .child (hin b hb) hs
  · rw [hlen, HasColumns, Int.toNat_of_nonneg (Int.le_of_lt hpos)]
    exact hwhole

theorem Sound.isContent_section {depth : Int} {b : Block} {part : Section} (h : Sound depth b)
    (hs : b.section? = .ok (some part)) :
    part.IsContent b.Writes ∧ b.HasColumns part.columns.length := by
  rcases b.eq_columns_or_kind_ne with ⟨props, children, rfl⟩ | hk
  · obtain ⟨_, hs, hsome⟩ := Outcome.map_eq_ok_iff.1 hs
    exact Option.some.inj hsome ▸ h.isContent_columns hs
  · rw [section?_of_kind_ne hk] at hs
    obtain ⟨fragment, hf, hpart⟩ := Outcome.bind_eq_ok_iff.1 hs
    have hpart := Outcome.pure_eq_ok_iff.1 hpart
    cases fragment with
    | none => cases hpart
    | some fragment =>
      rw [← Option.some.inj hpart]
      exact ⟨(h.props.isContent hf).alone, hasColumns_one hk⟩

end Block

/-! ## Templates -/

namespace Template

/-- The contents of the text blocks of a template, at any depth. -/
def Writes (t : Template) (s : String) : Prop :=
  ∃ b ∈ t.content, b.Writes s

theorem Sound.isContent_markup {t : Template} {markup : Markup} (h : t.Sound)
    (hm : t.markup = .ok markup) :
    markup.IsContent t.Writes ∧
      List.Forall₂ (fun b part => b.HasColumns part.columns.length)
        (t.content.filter Block.gives) markup.sections := by
  simp only [Template.markup, Outcome.bind_eq_ok_iff, Outcome.pure_eq_ok_iff] at hm
  obtain ⟨parts, hparts, title, htitle, preview, hpreview, font, hfont, background, hbackground,
    rfl⟩ := hm
  have hsections := (List.forall₂_and_left _ _).2 ⟨fun b hb => List.mem_of_mem_filter hb,
    Block.forall₂_sections (Outcome.mapM_eq_ok_iff.1 hparts)⟩
  have hnumber := Value.isNumber_of_isBetween (widthIssues_eq_nil_iff.1 h.contentWidth)
  refine ⟨?_, hsections.imp fun b part hb => ((h.content b hb.1).isContent_section hb.2).2⟩
  exact {
    title := Value.isPlain_of_escaped htitle
    preview := Value.isPlain_of_escaped hpreview
    font := Value.isPlain_of_escaped hfont
    background := Value.isPlain_of_escaped hbackground
    width := Value.isPlain_pixels hnumber
    sections := by
      intro part hp
      obtain ⟨b, -, hb, hread⟩ := Outcome.exists_of_mem_right hsections hp
      exact ((h.content b hb).isContent_section hread).1.mono fun s hs => ⟨b, hb, hs⟩ }

/-- The markup of a candidate without issues is the spelling of a document: a head with the title,
the preview and the defaults, and a body with a section for each block of the content that gives
anything. A section has the columns that its block asks for, and no column lies in another one. -/
theorem compile_spells_document {candidate : Value} {t : Template} {mjml : String}
    (h : isValid candidate = true) (ht : ofValue candidate = .ok t) (hm : t.compile = .ok mjml) :
    ∃ sections document, document.IsDocument sections ∧ Spelling [document] mjml ∧
      document.ColumnsApart ∧
      List.Forall₂ (fun b part => ∃ count, b.HasColumns count ∧ part.IsSection t.Writes count)
        (t.content.filter Block.gives) sections := by
  have hs := sound_of_ofValue h ht
  obtain ⟨markup, hmarkup, htext⟩ := Outcome.bind_eq_ok_iff.1 hm
  rw [← Outcome.pure_eq_ok_iff.1 htext]
  obtain ⟨hcontent, hcolumns⟩ := hs.isContent_markup hmarkup
  obtain ⟨sections, document, hdocument, hspelling, hsections⟩ := hcontent.exists_document
  have hpair : List.Forall₂ (fun b part => ∃ count, b.HasColumns count ∧
      part.IsSection t.Writes count) (t.content.filter Block.gives) sections :=
    Outcome.forall₂_trans (fun _ (part : Section) _ hb hn => ⟨part.columns.length, hb, hn⟩)
      hcolumns hsections
  refine ⟨sections, document, hdocument, hspelling, hdocument.columnsApart ?_, hpair⟩
  intro part hp
  obtain ⟨b, -, count, -, hpart⟩ := Outcome.exists_of_mem_right hpair hp
  exact hpart.columnsApart

/-- A candidate with columns in columns. -/
def nestedColumns : Value :=
  candidate [.object [
    ("type", .text "EmailColumns"), ("props", .object [("columns", .int 3)]),
    ("children", .list [
      .object [("type", .text "EmailText"), ("props", .object [("content", .text "<p>1</p>")])],
      .object [("type", .text "EmailColumns"), ("props", .object []),
        ("children", .list [.object [("type", .text "EmailSpacer"), ("props", .object [])]])]])]]

theorem compile_spells_document_nestedColumns :
    isValid nestedColumns = true ∧ ∃ t mjml, ofValue nestedColumns = .ok t ∧ t.compile = .ok mjml ∧
      ∃ sections document, document.IsDocument sections ∧ Spelling [document] mjml ∧
        document.ColumnsApart ∧
        List.Forall₂ (fun b part => ∃ count, b.HasColumns count ∧ part.IsSection t.Writes count)
          (t.content.filter Block.gives) sections :=
  ⟨rfl, _, _, rfl, rfl,
    compile_spells_document (show isValid nestedColumns = true from rfl) rfl rfl⟩

end Template

end EmailStudio
