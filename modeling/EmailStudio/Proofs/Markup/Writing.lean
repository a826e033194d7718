import EmailStudio.Proofs.Markup.Grammar

/-!
# Written markup

The markup tree of the compiler is written line by line. Here every part of it whose texts are plain
is shown to be written as a node of the grammar: elements as content, columns as columns, sections
as sections. The main result is `Markup.IsContent.exists_document`, for a whole document.
-/

namespace EmailStudio

/-! ## Attributes -/

namespace Attributes

/-- Attributes whose values can stand in quotes. -/
def IsPlain (attributes : Attributes) : Prop :=
  ∀ pair ∈ attributes, IsName pair.1 ∧ Text.IsPlain pair.2

theorem isPlain_nil : IsPlain [] := by
  intro pair hp
  cases hp

theorem isPlain_cons {name value : String} {rest : Attributes} :
    IsPlain ((name, value) :: rest) ↔ (IsName name ∧ Text.IsPlain value) ∧ IsPlain rest :=
  List.forall_mem_cons

theorem isPlain_append {first second : Attributes} (hf : IsPlain first) (hs : IsPlain second) :
    IsPlain (first ++ second) := by
  intro pair hp
  exact (List.mem_append.1 hp).elim (hf pair) (hs pair)

theorem spelling_inline {attributes : Attributes} (h : IsPlain attributes) :
    attributes.Spelling (inlineAttributes attributes) := by
  induction attributes with
  | nil => exact .nil (by decide)
  | cons pair rest ih =>
    obtain ⟨name, value⟩ := pair
    obtain ⟨⟨hname, hvalue⟩, hrest⟩ := isPlain_cons.1 h
    have hs := Spelling.cons (w := " ") (by decide) (by decide) hname hvalue (ih hrest)
    simpa only [inlineAttributes, List.map_cons, String.join_cons, attributeText] using hs

/-- Attributes on a line each, between the line that begins an element and the one that ends its
tag. -/
theorem exists_spelling_lines {attributes : Attributes} (h : IsPlain attributes)
    (first last : String) :
    ∃ a, attributes.Spelling a ∧
      joinLines ([first] ++ attributes.map (fun pair => "          " ++ attributeText pair) ++
        ["        " ++ last]) = first ++ a ++ last := by
  induction attributes generalizing first with
  | nil =>
    refine ⟨"\n" ++ "        ", .nil (by decide), ?_⟩
    rw [List.map_nil, List.append_nil, joinLines_append (by simp) (by simp), joinLines_singleton,
      joinLines_singleton]
    simp only [String.append_assoc, -String.reduceAppend]
  | cons pair rest ih =>
    obtain ⟨name, value⟩ := pair
    obtain ⟨⟨hname, hvalue⟩, hrest⟩ := isPlain_cons.1 h
    obtain ⟨a, ha, hlines⟩ := ih hrest ("          " ++ attributeText (name, value))
    refine ⟨_, .cons (w := "\n" ++ "          ") (by decide) (by decide) hname hvalue ha, ?_⟩
    rw [List.append_assoc, joinLines_append (by simp) (by simp), joinLines_singleton]
    refine (congrArg (fun s => first ++ ("\n" ++ s)) hlines).trans ?_
    simp only [attributeText, String.append_assoc, -String.reduceAppend]

end Attributes

/-! ## Elements on several lines -/

/-- An element with a line for its tag, the lines of its nodes, and a line that ends it. -/
theorem Spelling.onLines {indent tag a : String} {attributes : Attributes} {nodes : List Node}
    {lines : List String} (blank : IsBlank indent) (isName : IsName tag)
    (attrs : attributes.Spelling a)
    (h : List.Forall₂ (fun node line => Spelling [node] line) nodes lines) :
    Spelling [.element tag attributes nodes]
      (joinLines ([indent ++ "<" ++ tag ++ a ++ ">"] ++ lines ++
        [indent ++ "</" ++ tag ++ ">"])) := by
  have line_blank : IsBlank ("\n" ++ indent) := isBlank_append (by decide) blank
  have hs (inner : String) (body : Spelling nodes inner) :=
    Spelling.blank blank (Spelling.single_element isName attrs body)
  cases lines with
  | nil =>
    cases h
    have hs := hs _ (Spelling.blank line_blank .nil)
    rw [String.append_empty] at hs
    rw [List.append_nil, joinLines_append (by simp) (by simp), joinLines_singleton,
      joinLines_singleton]
    simpa only [String.append_assoc, -String.reduceAppend] using hs
  | cons line lines =>
    have hlines := Spelling.blank (w := "\n") (by decide) (Spelling.lines h)
    have hs := hs _ (hlines.append_blank line_blank)
    rw [joinLines_append (by simp) (by simp), joinLines_append (by simp) (by simp),
      joinLines_singleton, joinLines_singleton]
    simpa only [String.append_assoc, -String.reduceAppend] using hs

/-! ## Elements -/

/-- The attributes of the icon of a network. -/
def SocialIcon.attributes (icon : SocialIcon) : Attributes :=
  [("name", icon.name), ("href", icon.href), ("icon-size", icon.size)]
    ++ icon.background.toList.map fun color => ("background-color", color)

theorem SocialIcon.spelling {icon : SocialIcon} (h : icon.attributes.IsPlain) :
    Spelling [.leaf "mj-social-element" icon.attributes] icon.text := by
  have hattrs := (Attributes.spelling_inline h).append_blank (w := " ") (by decide)
  have hname : IsName "mj-social-element" := by decide
  have hs := Spelling.blank (w := "          ") (by decide) (Spelling.single_leaf hname hattrs)
  have htext : icon.text =
      "          " ++ ("<" ++ "mj-social-element" ++ (inlineAttributes icon.attributes ++ " ") ++
        "/>") := by
    unfold SocialIcon.text
    rw [show "          <mj-social-element" = "          " ++ ("<" ++ "mj-social-element") from rfl,
      show " />" = " " ++ "/>" from rfl]
    simp only [attributes, String.append_assoc]
  rw [htext]
  exact hs

namespace Element

/-- An element that is content of a column. The argument says which texts a user wrote. -/
inductive IsContent (written : String → Prop) : Element → Prop
  | leaf {tag : String} {attributes : Attributes}
      (mem : tag ∈ ["mj-image", "mj-spacer", "mj-divider"]) (plain : attributes.IsPlain) :
      IsContent written (.plain tag attributes none)
  | text {attributes : Attributes} {s : String} (plain : attributes.IsPlain)
      (isWritten : written s) : IsContent written (.plain "mj-text" attributes (some s))
  | note {attributes : Attributes} {nodes : List Node} {s : String} (plain : attributes.IsPlain)
      (inlines : ∀ node ∈ nodes, node.IsInline) (spelling : Spelling nodes s) :
      IsContent written (.plain "mj-text" attributes (some s))
  | button {attributes : Attributes} {s : String} (plain : attributes.IsPlain)
      (plain_text : Text.IsPlain s) : IsContent written (.plain "mj-button" attributes (some s))
  | social {align mode : String} {icons : List SocialIcon} (plain_align : Text.IsPlain align)
      (plain_mode : Text.IsPlain mode) (icons_ne : icons ≠ [])
      (plain_icons : ∀ icon ∈ icons, icon.attributes.IsPlain) :
      IsContent written (.social align mode icons)

theorem spelling_leaf {tag : String} {attributes : Attributes} (isName : IsName tag)
    (h : attributes.IsPlain) :
    Spelling [.leaf tag attributes] (plain tag attributes none).text := by
  obtain ⟨a, ha, hlines⟩ := attributes.exists_spelling_lines h ("        <" ++ tag) "/>"
  have hs := Spelling.blank (w := "        ") (by decide) (Spelling.single_leaf isName ha)
  have htext : (plain tag attributes none).text = "        " ++ ("<" ++ tag ++ a ++ "/>") := by
    refine hlines.trans ?_
    rw [show "        <" = "        " ++ "<" from rfl]
    simp only [String.append_assoc, -String.reduceAppend]
  rw [htext]
  exact hs

theorem spelling_body {tag s : String} {attributes : Attributes} {nodes : List Node}
    (isName : IsName tag) (h : attributes.IsPlain) (body : Spelling nodes s) :
    Spelling [.element tag attributes nodes] (plain tag attributes (some s)).text := by
  obtain ⟨a, ha, hlines⟩ :=
    attributes.exists_spelling_lines h ("        <" ++ tag) (">" ++ s ++ "</" ++ tag ++ ">")
  have hs := Spelling.blank (w := "        ") (by decide) (Spelling.single_element isName ha body)
  have htext : (plain tag attributes (some s)).text =
      "        " ++ ("<" ++ tag ++ a ++ ">" ++ s ++ "</" ++ tag ++ ">") := by
    have hlast : "        >" ++ s ++ "</" ++ tag ++ ">" =
        "        " ++ (">" ++ s ++ "</" ++ tag ++ ">") := by
      rw [show "        >" = "        " ++ ">" from rfl]
      simp only [String.append_assoc, -String.reduceAppend]
    simp only [Element.text, hlast]
    refine hlines.trans ?_
    rw [show "        <" = "        " ++ "<" from rfl]
    simp only [String.append_assoc, -String.reduceAppend]
  rw [htext]
  exact hs

theorem spelling_social {align mode : String} {icons : List SocialIcon}
    (h : Attributes.IsPlain [("align", align), ("mode", mode)])
    (hicons : ∀ icon ∈ icons, icon.attributes.IsPlain) :
    Spelling [.element "mj-social" [("align", align), ("mode", mode)]
      ((icons.map (·.attributes)).map (.leaf "mj-social-element"))]
      (social align mode icons).text := by
  have lines : List.Forall₂ (fun node line => Spelling [node] line)
      ((icons.map (·.attributes)).map (.leaf "mj-social-element")) (icons.map (·.text)) := by
    rw [List.map_map, List.forall₂_map_left_iff, List.forall₂_map_right_iff, List.forall₂_same]
    exact fun icon hi => SocialIcon.spelling (hicons icon hi)
  have hs := Spelling.onLines (show IsBlank "        " by decide)
    (show IsName "mj-social" by decide) (Attributes.spelling_inline h) lines
  exact hs

/-- Content is written as a node of content. -/
theorem IsContent.exists_node {written : String → Prop} {e : Element} (h : e.IsContent written) :
    ∃ node, node.IsContent written ∧ Spelling [node] e.text := by
  cases h with
  | leaf mem plain =>
    have isName : ∀ tag ∈ ["mj-image", "mj-spacer", "mj-divider"], IsName tag := by decide
    exact ⟨_, .leaf mem, spelling_leaf (isName _ mem) plain⟩
  | text plain isWritten =>
    exact ⟨_, .text isWritten, spelling_body (by decide) plain (Spelling.single_verbatim _)⟩
  | note plain inlines spelling =>
    exact ⟨_, .note inlines, spelling_body (by decide) plain spelling⟩
  | button plain plain_text =>
    exact ⟨_, .button, spelling_body (by decide) plain (Spelling.single_text plain_text)⟩
  | social plain_align plain_mode icons_ne plain_icons =>
    refine ⟨_, .social ?_, spelling_social ?_ plain_icons⟩
    · rw [Ne, List.map_eq_nil_iff]
      exact icons_ne
    · rw [Attributes.isPlain_cons, Attributes.isPlain_cons]
      exact ⟨⟨by decide, plain_align⟩, ⟨by decide, plain_mode⟩, Attributes.isPlain_nil⟩

end Element

/-! ## Columns and sections -/

/-- Parts that are written as nodes of a kind, one after the other. -/
theorem exists_nodes {α : Type} {P : Node → Prop} {text : α → String} {parts : List α}
    (h : ∀ part ∈ parts, ∃ node, P node ∧ Spelling [node] (text part)) :
    ∃ nodes, (∀ node ∈ nodes, P node) ∧ nodes.length = parts.length ∧
      List.Forall₂ (fun node line => Spelling [node] line) nodes (parts.map text) := by
  induction parts with
  | nil => exact ⟨[], by simp, rfl, .nil⟩
  | cons part parts ih =>
    obtain ⟨node, hnode, hs⟩ := h part List.mem_cons_self
    obtain ⟨nodes, hnodes, hlength, hlines⟩ := ih fun part hp => h part (List.mem_cons_of_mem _ hp)
    refine ⟨node :: nodes, List.forall_mem_cons.2 ⟨hnode, hnodes⟩, ?_, .cons hs hlines⟩
    rw [List.length_cons, List.length_cons, hlength]

/-- A column whose elements are all content. -/
structure Column.IsContent (written : String → Prop) (column : Column) : Prop where
  plain : column.attributes.IsPlain
  elements : ∀ e ∈ column.elements, e.IsContent written

theorem spelling_emptyColumn : Spelling [.comment " Empty column "] emptyColumn := by
  have hs := Spelling.blank (w := "        ") (by decide)
    (Spelling.comment (t := " Empty column ") (by decide) .nil)
  exact hs

theorem Column.IsContent.exists_node {written : String → Prop} {column : Column}
    (h : column.IsContent written) :
    ∃ node, node.IsColumn written ∧ Spelling [node] column.text := by
  obtain ⟨attributes, elements⟩ := column
  have attrs := Attributes.spelling_inline h.plain
  obtain ⟨nodes, hnodes, hlength, hlines⟩ :=
    exists_nodes fun e he => (h.elements e he).exists_node
  cases elements with
  | nil =>
    refine ⟨.element "mj-column" attributes [.comment " Empty column "], .empty, ?_⟩
    have hs := Spelling.onLines (show IsBlank "      " by decide)
      (show IsName "mj-column" by decide) attrs (.cons spelling_emptyColumn .nil)
    exact hs
  | cons e elements =>
    have hne : nodes ≠ [] := by
      apply List.ne_nil_of_length_pos
      rw [hlength]
      exact Nat.zero_lt_succ _
    refine ⟨.element "mj-column" attributes nodes, .filled hne hnodes, ?_⟩
    have hs := Spelling.onLines (show IsBlank "      " by decide)
      (show IsName "mj-column" by decide) attrs hlines
    exact hs

/-- A section with columns that all hold content. -/
structure Section.IsContent (written : String → Prop) (part : Section) : Prop where
  plain : part.attributes.IsPlain
  columns_ne : part.columns ≠ []
  columns : ∀ column ∈ part.columns, column.IsContent written

theorem Section.text_eq {part : Section} (h : part.columns ≠ []) :
    part.text = joinLines (["    <mj-section" ++ inlineAttributes part.attributes ++ ">"] ++
      part.columns.map (·.text) ++ ["    </mj-section>"]) := by
  have hlines : part.columns.map (·.text) ≠ [] := by
    rw [Ne, List.map_eq_nil_iff]
    exact h
  have hopen : ">\n" = ">" ++ "\n" := rfl
  have hclose : "\n    </mj-section>" = "\n" ++ "    </mj-section>" := rfl
  rw [joinLines_append (by simp) (by simp), joinLines_append (by simp) hlines,
    joinLines_singleton, joinLines_singleton]
  unfold Section.text
  rw [hopen, hclose]
  simp only [String.append_assoc, -String.reduceAppend]

theorem Section.IsContent.exists_node {written : String → Prop} {part : Section}
    (h : part.IsContent written) :
    ∃ node, node.IsSection written part.columns.length ∧ Spelling [node] part.text := by
  have attrs := Attributes.spelling_inline h.plain
  obtain ⟨nodes, hnodes, hlength, hlines⟩ :=
    exists_nodes fun column hc => (h.columns column hc).exists_node
  have hne : nodes ≠ [] := by
    apply List.ne_nil_of_length_pos
    rw [hlength]
    exact List.length_pos_iff.2 h.columns_ne
  rw [← hlength, Section.text_eq h.columns_ne]
  refine ⟨.element "mj-section" part.attributes nodes, .intro hne hnodes, ?_⟩
  have hs := Spelling.onLines (show IsBlank "    " by decide)
    (show IsName "mj-section" by decide) attrs hlines
  exact hs

/-! ## Documents -/

/-- A document whose texts are plain and whose sections hold content. -/
structure Markup.IsContent (written : String → Prop) (markup : Markup) : Prop where
  title : Text.IsPlain markup.title
  preview : Text.IsPlain markup.preview
  font : Text.IsPlain markup.font
  background : Text.IsPlain markup.background
  width : Text.IsPlain markup.width
  sections : ∀ part ∈ markup.sections, part.IsContent written

/-- An element with one text as its body, on a line. -/
theorem spelling_line {tag s opening closing : String} (isName : IsName tag)
    (plain : Text.IsPlain s) (hopening : opening = "    " ++ ("<" ++ tag ++ ">"))
    (hclosing : closing = "</" ++ tag ++ ">") :
    Spelling [.element tag [] [.text s]] (opening ++ s ++ closing) := by
  have hs := Spelling.blank (w := "    ") (by decide) (Spelling.single_element isName
    (.nil (w := "") (by decide)) (Spelling.single_text plain))
  rw [hopening, hclosing]
  simpa only [String.append_empty, String.append_assoc, -String.reduceAppend] using hs

/-- An element with one attribute and no body, on a line. -/
theorem spelling_default {tag name value opening : String} (isName : IsName tag)
    (isName' : IsName name) (plain : Text.IsPlain value)
    (hopening : opening = "      " ++ ("<" ++ tag ++ " " ++ name ++ "=\"")) :
    Spelling [.leaf tag [(name, value)]] (opening ++ value ++ "\" />") := by
  have attrs := Attributes.Spelling.cons (w := " ") (by decide) (by decide) isName' plain
    (.nil (w := " ") (by decide))
  have hs := Spelling.blank (w := "      ") (by decide) (Spelling.single_leaf isName attrs)
  rw [hopening, show "\" />" = "\"" ++ (" " ++ "/>") from rfl]
  simpa only [String.append_assoc, -String.reduceAppend] using hs

theorem joinLines_joinLines (before after : List String) {lines : List String} (h : lines ≠ []) :
    joinLines (before ++ [joinLines lines] ++ after) = joinLines (before ++ lines ++ after) := by
  have hbefore : joinLines (before ++ [joinLines lines]) = joinLines (before ++ lines) := by
    by_cases hb : before = []
    · rw [hb, List.nil_append, List.nil_append, joinLines_singleton]
    · rw [joinLines_append hb (by simp), joinLines_append hb h, joinLines_singleton]
  by_cases ha : after = []
  · rw [ha, List.append_nil, List.append_nil, hbefore]
  · rw [joinLines_append (by simp) ha, joinLines_append (by simp [h]) ha, hbefore]

namespace Markup

/-- The lines of the defaults in a head. -/
def defaultLines (markup : Markup) : List String :=
  ["    <mj-attributes>",
    "      <mj-all font-family=\"" ++ markup.font ++ "\" />",
    "      <mj-body background-color=\"" ++ markup.background ++ "\" />",
    "      <mj-section padding=\"0\" />",
    "    </mj-attributes>"]

/-- The lines of a head, with those of the defaults as one. -/
def headLines (markup : Markup) : List String :=
  ["  <mj-head>",
    "    <mj-title>" ++ markup.title ++ "</mj-title>",
    "    <mj-preview>" ++ markup.preview ++ "</mj-preview>",
    joinLines markup.defaultLines,
    "  </mj-head>"]

/-- The lines of a body, with those of a section as one. -/
def bodyLines (markup : Markup) : List String :=
  ["  <mj-body width=\"" ++ markup.width ++ "\">"] ++ markup.sections.map (·.text) ++
    ["  </mj-body>"]

/-- A document is a head and a body. -/
theorem text_eq (markup : Markup) :
    markup.text = joinLines ["<mjml>", joinLines markup.headLines, joinLines markup.bodyLines,
      "</mjml>"] := by
  have body := joinLines_joinLines ["<mjml>", joinLines markup.headLines] ["</mjml>"]
    (show markup.bodyLines ≠ [] by simp [bodyLines])
  have head := joinLines_joinLines ["<mjml>"] (markup.bodyLines ++ ["</mjml>"])
    (show markup.headLines ≠ [] by simp [headLines])
  have defaults := joinLines_joinLines ["<mjml>", "  <mj-head>",
    "    <mj-title>" ++ markup.title ++ "</mj-title>",
    "    <mj-preview>" ++ markup.preview ++ "</mj-preview>"]
    (["  </mj-head>"] ++ markup.bodyLines ++ ["</mjml>"])
    (show markup.defaultLines ≠ [] by simp [defaultLines])
  calc markup.text
      = joinLines (["<mjml>", "  <mj-head>",
          "    <mj-title>" ++ markup.title ++ "</mj-title>",
          "    <mj-preview>" ++ markup.preview ++ "</mj-preview>"] ++ markup.defaultLines ++
          (["  </mj-head>"] ++ markup.bodyLines ++ ["</mjml>"])) := by
        refine congrArg joinLines ?_
        simp only [defaultLines, bodyLines, List.append_assoc]
        rfl
    _ = joinLines (["<mjml>"] ++ markup.headLines ++ (markup.bodyLines ++ ["</mjml>"])) :=
        defaults.symm
    _ = joinLines (["<mjml>", joinLines markup.headLines] ++ markup.bodyLines ++ ["</mjml>"]) :=
        head.symm
    _ = _ := body.symm

namespace IsContent

variable {written : String → Prop} {markup : Markup}

theorem spelling_defaults (h : markup.IsContent written) :
    Spelling [.element "mj-attributes" [] [
      .leaf "mj-all" [("font-family", markup.font)],
      .leaf "mj-body" [("background-color", markup.background)],
      .leaf "mj-section" [("padding", "0")]]] (joinLines markup.defaultLines) := by
  have font := spelling_default (show IsName "mj-all" by decide)
    (show IsName "font-family" by decide) h.font rfl
  have background := spelling_default (show IsName "mj-body" by decide)
    (show IsName "background-color" by decide) h.background rfl
  have padding := spelling_default (show IsName "mj-section" by decide)
    (show IsName "padding" by decide) (show Text.IsPlain "0" by decide) rfl
  have hs := Spelling.onLines (show IsBlank "    " by decide)
    (show IsName "mj-attributes" by decide) (.nil (w := "") (by decide))
    (.cons font (.cons background (.cons padding .nil)))
  exact hs

theorem spelling_head (h : markup.IsContent written) :
    Spelling [.element "mj-head" [] [
      .element "mj-title" [] [.text markup.title],
      .element "mj-preview" [] [.text markup.preview],
      .element "mj-attributes" [] [
        .leaf "mj-all" [("font-family", markup.font)],
        .leaf "mj-body" [("background-color", markup.background)],
        .leaf "mj-section" [("padding", "0")]]]] (joinLines markup.headLines) := by
  have title := spelling_line (show IsName "mj-title" by decide) h.title rfl rfl
  have preview := spelling_line (show IsName "mj-preview" by decide) h.preview rfl rfl
  have hs := Spelling.onLines (show IsBlank "  " by decide) (show IsName "mj-head" by decide)
    (.nil (w := "") (by decide)) (.cons title (.cons preview (.cons h.spelling_defaults .nil)))
  exact hs

theorem exists_sections : ∀ {parts : List Section}, (∀ part ∈ parts, part.IsContent written) →
    ∃ sections,
      List.Forall₂ (fun part node => node.IsSection written part.columns.length) parts sections ∧
      List.Forall₂ (fun node line => Spelling [node] line) sections (parts.map (·.text))
  | [], _ => ⟨[], .nil, .nil⟩
  | part :: parts, h => by
    obtain ⟨node, hnode, hs⟩ := (h part List.mem_cons_self).exists_node
    obtain ⟨nodes, hnodes, hlines⟩ :=
      exists_sections fun part hp => h part (List.mem_cons_of_mem _ hp)
    exact ⟨node :: nodes, .cons hnode hnodes, .cons hs hlines⟩

theorem exists_body (h : markup.IsContent written) :
    ∃ sections, List.Forall₂ (fun part node => node.IsSection written part.columns.length)
        markup.sections sections ∧
      Spelling [.element "mj-body" [("width", markup.width)] sections]
        (joinLines markup.bodyLines) := by
  obtain ⟨sections, hsections, hlines⟩ := exists_sections h.sections
  refine ⟨sections, hsections, ?_⟩
  have attrs : Attributes.Spelling [("width", markup.width)]
      (" " ++ ("width" ++ "=\"" ++ markup.width ++ "\"") ++ "") :=
    .cons (by decide) (by decide) (by decide) h.width (.nil (by decide))
  have hs := Spelling.onLines (show IsBlank "  " by decide) (show IsName "mj-body" by decide)
    attrs hlines
  have hopening : "  <mj-body width=\"" =
      "  " ++ ("<" ++ ("mj-body" ++ (" " ++ ("width" ++ "=\"")))) := rfl
  have hclosing : "\">" = "\"" ++ ">" := rfl
  have hlines : markup.bodyLines = ["  " ++ "<" ++ "mj-body" ++
      (" " ++ ("width" ++ "=\"" ++ markup.width ++ "\"") ++ "") ++ ">"] ++
      markup.sections.map (·.text) ++ ["  " ++ "</" ++ "mj-body" ++ ">"] := by
    unfold bodyLines
    rw [hopening, hclosing]
    simp only [String.append_empty, String.append_assoc, -String.reduceAppend]
    rfl
  rw [hlines]
  exact hs

/-- A document is written as a document of the grammar, with one section for each of its own. -/
theorem exists_document (h : markup.IsContent written) :
    ∃ sections document, document.IsDocument sections ∧ Spelling [document] markup.text ∧
      List.Forall₂ (fun part node => node.IsSection written part.columns.length)
        markup.sections sections := by
  obtain ⟨sections, hsections, hbody⟩ := h.exists_body
  have hs := Spelling.onLines (show IsBlank "" by decide) (show IsName "mjml" by decide)
    (.nil (w := "") (by decide)) (.cons h.spelling_head (.cons hbody .nil))
  rw [Markup.text_eq]
  refine ⟨sections, _, ?_, hs, hsections⟩
  exact .intro

end IsContent

end Markup

end EmailStudio
