import EmailStudio.Proofs.Markup.Nesting

/-!
# Order of compiled blocks

Compilation writes the blocks that give anything one after the other, in the order of the document,
whatever columns they lie in. `Block.forall₂_elements` says so of what lies in columns. The main
result is `Template.compile_interleaves`: the body of the markup is made of a few fixed pieces and
of the fragments of these blocks, each once.
-/

namespace EmailStudio

/-! ## Leaves -/

namespace Block

mutual

/-- The blocks other than columns that a block is or holds, in the order of the document. -/
def leaves : Block → List Block
  | columns _ children => leavesOfAll children
  | block => [block]

def leavesOfAll : List Block → List Block
  | [] => []
  | block :: rest => leaves block ++ leavesOfAll rest

end

theorem leavesOfAll_eq : ∀ bs : List Block, leavesOfAll bs = bs.flatMap leaves
  | [] => by rw [leavesOfAll, List.flatMap_nil]
  | b :: rest => by rw [leavesOfAll, List.flatMap_cons, leavesOfAll_eq rest]

theorem leaves_of_kind_ne {b : Block} (h : b.kind ≠ .columns) : b.leaves = [b] := by
  cases b <;> first | rfl | exact absurd rfl h

theorem leavesOfAll_flatten (parts : List (List Block)) :
    leavesOfAll parts.flatten = parts.flatMap leavesOfAll := by
  induction parts with
  | nil => rfl
  | cons part parts ih =>
    rw [List.flatten_cons, List.flatMap_cons, ← ih]
    simp only [leavesOfAll_eq, List.flatMap_append]

/-- Blocks inside columns that give elements one after the other do so for their leaves. -/
theorem forall₂_elements_flatten {bs : List Block} {parts : List (List Element)}
    (h : List.Forall₂ (fun b part => List.Forall₂ (fun leaf e => leaf.elements = .ok [e])
      (b.leaves.filter gives) part) bs parts) :
    List.Forall₂ (fun leaf e => leaf.elements = .ok [e])
      ((leavesOfAll bs).filter gives) parts.flatten := by
  induction h with
  | nil => exact .nil
  | cons hb _ ih =>
    rw [leavesOfAll, List.filter_append, List.flatten_cons]
    exact List.rel_append hb ih

/-- Inside columns, each leaf that gives anything gives one element, in order. -/
theorem forall₂_elements {b : Block} {es : List Element} (h : b.elements = .ok es) :
    List.Forall₂ (fun leaf e => leaf.elements = .ok [e]) (b.leaves.filter gives) es := by
  induction b using inductionOnChildren generalizing es with
  | step b ih =>
    rcases b.eq_columns_or_kind_ne with ⟨props, children, rfl⟩ | hk
    · rw [elements, elementsOfAll_eq] at h
      obtain ⟨parts, hparts, rfl⟩ := Outcome.map_eq_ok_iff.1 h
      have hparts := (List.forall₂_and_left _ _).2
        ⟨fun child hc => hc, Outcome.mapM_eq_ok_iff.1 hparts⟩
      exact forall₂_elements_flatten (hparts.imp fun child part hc => ih child hc.1 hc.2)
    · have h' := h
      rw [elements_of_kind_ne hk] at h
      obtain ⟨fragment, hf, hes⟩ := Outcome.bind_eq_ok_iff.1 h
      have hgives := isSome_of_fragment? hk hf
      have hes := Outcome.pure_eq_ok_iff.1 hes
      rw [leaves_of_kind_ne hk]
      cases fragment with
      | none =>
        rw [List.filter_cons_of_neg (by rw [← hgives]; simp), ← hes]
        exact .nil
      | some fragment =>
        rw [List.filter_cons_of_pos (by rw [← hgives]; simp)]
        rw [← hes] at h' ⊢
        exact .cons h' .nil

theorem forall₂_elementsOfAll {bs : List Block} {es : List Element}
    (h : elementsOfAll bs = .ok es) :
    List.Forall₂ (fun leaf e => leaf.elements = .ok [e]) ((leavesOfAll bs).filter gives) es := by
  rw [elementsOfAll_eq] at h
  obtain ⟨parts, hparts, rfl⟩ := Outcome.map_eq_ok_iff.1 h
  exact forall₂_elements_flatten
    ((Outcome.mapM_eq_ok_iff.1 hparts).imp fun _ _ hb => forall₂_elements hb)

/-! ## Fragments of text -/

/-- The markup of a block of the content, empty if it gives nothing. -/
def textAlone (b : Block) : Except Fault String := do
  return ((← b.section?).map (·.text)).getD ""

/-- The markup of a block inside columns. -/
def textNested (b : Block) : Except Fault String := do
  return joinLines ((← b.elements).map (·.text))

/-- A block that is no columns, and whether it lies inside columns. -/
structure Leaf where
  block : Block
  nested : Bool

/-- The markup of a leaf where it stands. -/
def Leaf.rendered (leaf : Leaf) : Except Fault String :=
  if leaf.nested then leaf.block.textNested else leaf.block.textAlone

/-- The leaves of a block of the content. -/
def contentLeaves : Block → List Leaf
  | columns _ children => (leavesOfAll children).map fun b => ⟨b, true⟩
  | block => [⟨block, false⟩]

theorem contentLeaves_of_kind_ne {b : Block} (h : b.kind ≠ .columns) :
    b.contentLeaves = [⟨b, false⟩] := by
  cases b <;> first | rfl | exact absurd rfl h

end Block

/-! ## Interleaving -/

/-- A text is made of fixed pieces, any number of times, and of fragments, each once and in
order. -/
inductive Interleaves (pieces : List String) : List String → String → Prop
  | nil : Interleaves pieces [] ""
  | piece {p s : String} {fragments : List String} (mem : p ∈ pieces)
      (tail : Interleaves pieces fragments s) : Interleaves pieces fragments (p ++ s)
  | fragment {f s : String} {fragments : List String} (tail : Interleaves pieces fragments s) :
      Interleaves pieces (f :: fragments) (f ++ s)

namespace Interleaves

variable {pieces : List String}

theorem append {fragments others : List String} {s t : String} (hs : Interleaves pieces fragments s)
    (ht : Interleaves pieces others t) : Interleaves pieces (fragments ++ others) (s ++ t) := by
  induction hs with
  | nil =>
    rw [String.empty_append]
    exact ht
  | piece mem _ ih =>
    rw [String.append_assoc]
    exact .piece mem ih
  | fragment _ ih =>
    rw [String.append_assoc]
    exact .fragment ih

theorem of_piece {p : String} (mem : p ∈ pieces) : Interleaves pieces [] p := by
  have h := piece mem nil
  rwa [String.append_empty] at h

theorem of_fragment (f : String) : Interleaves pieces [f] f := by
  have h : Interleaves pieces [f] (f ++ "") := .fragment .nil
  rwa [String.append_empty] at h

theorem of_lines {groups : List (List String)} {lines : List String} (mem : "\n" ∈ pieces)
    (h : List.Forall₂ (Interleaves pieces) groups lines) :
    Interleaves pieces groups.flatten (joinLines lines) := by
  induction h with
  | nil => exact .nil
  | @cons group line groups lines hline hlines ih =>
    rw [List.flatten_cons]
    by_cases hnil : lines = []
    · rw [hnil] at hlines
      cases hlines
      rw [hnil, List.flatten_nil, List.append_nil, joinLines_singleton]
      exact hline
    · rw [joinLines_cons hnil]
      exact hline.append (.piece mem ih)

/-- Lines between two lines that are pieces. -/
theorem of_frame {opening closing : String} {groups : List (List String)} {lines : List String}
    (mem : "\n" ∈ pieces) (ho : opening ∈ pieces) (hc : closing ∈ pieces)
    (h : List.Forall₂ (Interleaves pieces) groups lines) :
    Interleaves pieces groups.flatten (joinLines ([opening] ++ lines ++ [closing])) := by
  have hlines := of_lines mem (.cons (of_piece ho) (List.rel_append h (.cons (of_piece hc) .nil)))
  rw [List.flatten_cons, List.flatten_append, List.nil_append, List.flatten_singleton,
    List.append_nil] at hlines
  exact hlines

/-- Fragments on a line each between two lines that are pieces. -/
theorem of_fragments {opening closing : String} (mem : "\n" ∈ pieces) (ho : opening ∈ pieces)
    (hc : closing ∈ pieces) (fragments : List String) :
    Interleaves pieces fragments (joinLines ([opening] ++ fragments ++ [closing])) := by
  have each : List.Forall₂ (Interleaves pieces) (fragments.map fun f => [f]) fragments := by
    rw [List.forall₂_map_left_iff, List.forall₂_same]
    exact fun f _ => of_fragment f
  have h := of_frame mem ho hc each
  rwa [← List.flatMap_def, List.flatMap_singleton'] at h

end Interleaves

/-! ## Sections -/

namespace Block

/-- The pieces of markup that are no fragments of blocks: line ends, the tags of sections and
columns, and what stands in an empty column. -/
def scaffolding : List String :=
  ["\n", "    <mj-section>", "    <mj-section mj-class=\"no-stack\">", "    </mj-section>",
    "      </mj-column>", emptyColumn] ++
    Catalog.verticalAligns.map fun align => "      <mj-column vertical-align=\"" ++ align ++ "\">"

theorem lineEnd_mem_scaffolding : "\n" ∈ scaffolding := List.mem_cons_self

theorem columnTag_mem_scaffolding {v : Value} (h : Rule.isOneOf Catalog.verticalAligns v = true) :
    "      <mj-column" ++ inlineAttributes [("vertical-align", v.plain)] ++ ">" ∈ scaffolding := by
  cases v with
  | text align =>
    have tags : ∀ align ∈ Catalog.verticalAligns,
        "      <mj-column" ++ inlineAttributes [("vertical-align", align)] ++ ">" ∈
          scaffolding := by
      decide
    exact tags align (List.contains_iff_mem.1 h)
  | _ => cases h

theorem sectionTag_mem_scaffolding (stacked : Bool) :
    "    <mj-section" ++
      inlineAttributes (if stacked then [] else [("mj-class", "no-stack")]) ++ ">" ∈
      scaffolding := by
  cases stacked <;> decide

/-- A leaf that gives one element is written as that element. -/
theorem textNested_of_elements {b : Block} {e : Element} (h : b.elements = .ok [e]) :
    b.textNested = .ok e.text := by
  rw [textNested, h]
  exact congrArg Except.ok (joinLines_singleton e.text)

theorem interleaves_column {props : ColumnsProps} {run : List Block} {column : Column}
    (hp : props.Sound) (hc : Block.column props run = .ok column) :
    ∃ fragments, List.Forall₂ (fun leaf f => textNested leaf = .ok f)
        ((leavesOfAll run).filter gives) fragments ∧
      Interleaves scaffolding fragments column.text := by
  simp only [Block.column, Outcome.bind_eq_ok_iff, Outcome.pure_eq_ok_iff] at hc
  obtain ⟨es, hes, rfl⟩ := hc
  refine ⟨es.map (·.text), ?_, ?_⟩
  · rw [List.forall₂_map_right_iff]
    exact (forall₂_elementsOfAll hes).imp fun _ _ he => textNested_of_elements he
  · have tag := columnTag_mem_scaffolding hp.verticalAlign
    have closing : "      </mj-column>" ∈ scaffolding := by decide
    cases es with
    | nil =>
      have empty : Interleaves scaffolding [] emptyColumn := .of_piece (by decide)
      exact Interleaves.of_frame lineEnd_mem_scaffolding tag closing (.cons empty .nil)
    | cons e es =>
      exact Interleaves.of_fragments lineEnd_mem_scaffolding tag closing ((e :: es).map (·.text))

/-- The columns of a section, each with the fragments of its run. -/
theorem exists_groups {props : ColumnsProps} (hp : props.Sound) {runs : List (List Block)}
    {columns : List Column}
    (h : List.Forall₂ (fun run column => Block.column props run = .ok column) runs columns) :
    ∃ groups, List.Forall₂ (Interleaves scaffolding) groups (columns.map (·.text)) ∧
      List.Forall₂ (fun leaf f => textNested leaf = .ok f)
        ((leavesOfAll runs.flatten).filter gives) groups.flatten := by
  induction h with
  | nil => exact ⟨[], .nil, .nil⟩
  | @cons run column runs columns hcolumn _ ih =>
    obtain ⟨fragments, hfragments, htext⟩ := interleaves_column hp hcolumn
    obtain ⟨groups, hgroups, hrest⟩ := ih
    refine ⟨fragments :: groups, .cons htext hgroups, ?_⟩
    rw [leavesOfAll_flatten, List.flatMap_cons, ← leavesOfAll_flatten, List.filter_append,
      List.flatten_cons]
    exact List.rel_append hfragments hrest

theorem Sound.interleaves_columns {depth : Int} {props : ColumnsProps} {children : List Block}
    {part : Section} (h : Sound depth (columns props children))
    (hs : columnsSection props children = .ok part) :
    ∃ fragments, List.Forall₂ (fun leaf f => textNested leaf = .ok f)
        ((leavesOfAll children).filter gives) fragments ∧
      Interleaves scaffolding fragments part.text := by
  have hne := (h.isContent_columns hs).1.columns_ne
  obtain ⟨count, runs, -, -, hcount, hruns, -, hflat⟩ := h.spread
  rw [columnsSection_eq hcount hruns] at hs
  obtain ⟨cols, hcols, rfl⟩ := Outcome.map_eq_ok_iff.1 hs
  obtain ⟨groups, hgroups, hleaves⟩ := exists_groups h.props (Outcome.mapM_eq_ok_iff.1 hcols)
  rw [hflat] at hleaves
  refine ⟨groups.flatten, hleaves, ?_⟩
  rw [Section.text_eq hne]
  exact Interleaves.of_frame lineEnd_mem_scaffolding
    (sectionTag_mem_scaffolding props.stackOnMobile.truthy) (by decide) hgroups

/-- The fragments of a block of the content, and the markup of its section if it has one. -/
theorem Sound.interleaves_section {depth : Int} {b : Block} {part : Option Section}
    (h : Sound depth b) (hs : b.section? = .ok part) :
    ∃ fragments, List.Forall₂ (fun leaf f => leaf.rendered = .ok f)
        (b.contentLeaves.filter (·.block.gives)) fragments ∧
      ((part = none ∧ fragments = []) ∨
        ∃ p, part = some p ∧ Interleaves scaffolding fragments p.text) := by
  rcases b.eq_columns_or_kind_ne with ⟨props, children, rfl⟩ | hk
  · obtain ⟨p, hp, rfl⟩ := Outcome.map_eq_ok_iff.1 hs
    obtain ⟨fragments, hfragments, htext⟩ := h.interleaves_columns hp
    refine ⟨fragments, ?_, .inr ⟨p, rfl, htext⟩⟩
    rw [contentLeaves, List.filter_map, List.forall₂_map_left_iff]
    exact hfragments
  · have hgives := isSome_of_section? hs
    rw [contentLeaves_of_kind_ne hk]
    cases part with
    | none =>
      refine ⟨[], ?_, .inl ⟨rfl, rfl⟩⟩
      rw [List.filter_cons_of_neg (by rw [← hgives]; simp)]
      exact .nil
    | some p =>
      refine ⟨[p.text], ?_, .inr ⟨p, rfl, .of_fragment p.text⟩⟩
      rw [List.filter_cons_of_pos (by rw [← hgives]; simp)]
      refine .cons ?_ .nil
      show b.textAlone = .ok p.text
      rw [textAlone, hs]
      rfl

end Block

/-! ## Templates -/

namespace Template

/-- The blocks of a template that are no columns, in the order of the document. -/
def leaves (t : Template) : List Block.Leaf :=
  t.content.flatMap Block.contentLeaves

/-- The sections of blocks, on a line each. -/
theorem exists_fragments {bs : List Block} {parts : List (Option Section)}
    (hb : ∀ b ∈ bs, b.Sound 1)
    (h : List.Forall₂ (fun b part => b.section? = .ok part) bs parts) :
    ∃ fragments, List.Forall₂ (fun leaf f => leaf.rendered = .ok f)
        ((bs.flatMap Block.contentLeaves).filter (·.block.gives)) fragments ∧
      Interleaves Block.scaffolding fragments
        (String.join ((parts.filterMap id).map fun part => "\n" ++ part.text)) := by
  induction h with
  | nil => exact ⟨[], .nil, .nil⟩
  | @cons b part bs parts hread _ ih =>
    obtain ⟨hb, hbs⟩ := List.forall_mem_cons.1 hb
    obtain ⟨rest, hrest, htext⟩ := ih hbs
    obtain ⟨fragments, hfragments, hpart⟩ := hb.interleaves_section hread
    refine ⟨fragments ++ rest, ?_, ?_⟩
    · rw [List.flatMap_cons, List.filter_append]
      exact List.rel_append hfragments hrest
    · rcases hpart with ⟨rfl, rfl⟩ | ⟨p, rfl, hp⟩
      · rw [List.filterMap_cons_none rfl, List.nil_append]
        exact htext
      · rw [List.filterMap_cons_some (f := id) rfl, List.map_cons, String.join_cons]
        exact Interleaves.append (.piece Block.lineEnd_mem_scaffolding hp) htext

theorem joinLines_append_join {lines : List String} (h : lines ≠ []) (others : List String) :
    joinLines (lines ++ others) =
      joinLines lines ++ String.join (others.map fun s => "\n" ++ s) := by
  induction others generalizing lines with
  | nil => rw [List.append_nil, List.map_nil, String.join_nil, String.append_empty]
  | cons s others ih =>
    have hs := ih (List.append_ne_nil_of_right_ne_nil lines (List.cons_ne_nil s []))
    rw [List.append_assoc, List.singleton_append] at hs
    rw [hs, joinLines_append h (by simp), joinLines_singleton, List.map_cons, String.join_cons,
      String.append_assoc]

/-- What a document begins with, up to its body. -/
def opening (markup : Markup) : String :=
  joinLines ["<mjml>", joinLines markup.headLines, "  <mj-body width=\"" ++ markup.width ++ "\">"]

/-- What a document ends with, from its body on. -/
def closing : String := "\n  </mj-body>\n</mjml>"

theorem markup_text (markup : Markup) :
    markup.text = opening markup ++
      String.join (markup.sections.map fun part => "\n" ++ part.text) ++ closing := by
  have body := joinLines_joinLines ["<mjml>", joinLines markup.headLines] ["</mjml>"]
    (show markup.bodyLines ≠ [] by simp [Markup.bodyLines])
  have ending : String.join (["  </mj-body>", "</mjml>"].map fun s => "\n" ++ s) = closing := rfl
  calc markup.text
      = joinLines (["<mjml>", joinLines markup.headLines] ++ [joinLines markup.bodyLines] ++
          ["</mjml>"]) := Markup.text_eq markup
    _ = joinLines (["<mjml>", joinLines markup.headLines,
          "  <mj-body width=\"" ++ markup.width ++ "\">"] ++
          (markup.sections.map (·.text) ++ ["  </mj-body>", "</mjml>"])) := by
        rw [body]
        simp [Markup.bodyLines]
    _ = _ := by
        rw [joinLines_append_join (by simp), List.map_append, String.join_append, ending,
          List.map_map, ← String.append_assoc]
        rfl

/-- The markup of a candidate without issues is what the same template without content gives, with a
body between its beginning and its end; and the body is made of line ends, the tags of sections and
columns, and the markup of every block that gives anything, each once and in the order of the
document. -/
theorem compile_interleaves {candidate : Value} {t : Template} {mjml : String}
    (h : isValid candidate = true) (ht : ofValue candidate = .ok t) (hm : t.compile = .ok mjml) :
    ∃ fragments opening body,
      List.Forall₂ (fun leaf f => leaf.rendered = .ok f)
        (t.leaves.filter (·.block.gives)) fragments ∧
      Interleaves Block.scaffolding fragments body ∧
      mjml = opening ++ body ++ closing ∧
      ({ t with content := [] } : Template).compile = .ok (opening ++ closing) := by
  have hs := sound_of_ofValue h ht
  obtain ⟨markup, hmarkup, htext⟩ := Outcome.bind_eq_ok_iff.1 hm
  have htext := Outcome.pure_eq_ok_iff.1 htext
  simp only [Template.markup, Outcome.bind_eq_ok_iff, Outcome.pure_eq_ok_iff] at hmarkup
  obtain ⟨parts, hparts, title, htitle, preview, hpreview, font, hfont, background, hbackground,
    rfl⟩ := hmarkup
  obtain ⟨fragments, hfragments, hbody⟩ :=
    exists_fragments hs.content (Outcome.mapM_eq_ok_iff.1 hparts)
  refine ⟨fragments, _, _, hfragments, hbody, htext.symm.trans (markup_text _), ?_⟩
  have empty := markup_text {
    title := title, preview := preview, font := font, background := background,
    width := t.settings.contentWidth.pixels, sections := [] }
  rw [List.map_nil, String.join_nil, String.append_empty] at empty
  simp only [compile, Template.markup, htitle, hpreview, hfont, hbackground, bind, Except.bind]
  exact congrArg Except.ok empty

theorem compile_interleaves_nestedColumns :
    isValid nestedColumns = true ∧ ∃ t mjml, ofValue nestedColumns = .ok t ∧ t.compile = .ok mjml ∧
      ∃ fragments opening body,
        List.Forall₂ (fun leaf f => leaf.rendered = .ok f)
          (t.leaves.filter (·.block.gives)) fragments ∧
        Interleaves Block.scaffolding fragments body ∧
        mjml = opening ++ body ++ closing ∧
        ({ t with content := [] } : Template).compile = .ok (opening ++ closing) :=
  ⟨rfl, _, _, rfl, rfl, compile_interleaves (show isValid nestedColumns = true from rfl) rfl rfl⟩

end Template

end EmailStudio
