import EmailStudio.Markup.Tree
import EmailStudio.Proofs.Text.Escape
import Mathlib.Data.List.Forall2

/-!
# The grammar of markup

Markup is read as a tree of elements. `Spelling` says which texts write a list of nodes out: the tag
that was opened last is closed first, attributes stand in double quotes, and there is no delimiter
in a text or in the value of an attribute. Blanks may stand between nodes. Below the spelling,
`Node.IsContent`, `Node.IsColumn`, `Node.IsSection` and `Node.IsDocument` are the rules for what may
stand where.
-/

namespace EmailStudio

/-- A node of a markup document. -/
inductive Node where
  | element (tag : String) (attributes : Attributes) (children : List Node)
  | leaf (tag : String) (attributes : Attributes)
  | comment (s : String)
  | text (s : String)
  /-- Markup that a user wrote, taken as one piece. -/
  | verbatim (s : String)

/-! ## Spelling -/

/-- A text of blanks and line ends. -/
def IsBlank (s : String) : Prop :=
  ∀ c ∈ s.toList, c = ' ' ∨ c = '\n'

instance (s : String) : Decidable (IsBlank s) :=
  decidable_of_iff (s.toList.all fun c => c = ' ' ∨ c = '\n') (by simp [IsBlank])

/-- A name of an element or of an attribute. -/
def IsName (s : String) : Prop :=
  s ≠ "" ∧ ∀ c ∈ s.toList, c.isLower = true ∨ c = '-'

instance (s : String) : Decidable (IsName s) :=
  decidable_of_iff (s ≠ "" ∧ s.toList.all fun c => c.isLower || c = '-') (by simp [IsName])

/-- The texts that write out attributes, each after a blank. -/
inductive Attributes.Spelling : Attributes → String → Prop
  | nil {w : String} (blank : IsBlank w) : Spelling [] w
  | cons {w name value s : String} {rest : Attributes} (blank : IsBlank w) (apart : w ≠ "")
      (isName : IsName name) (plain : Text.IsPlain value) (tail : Spelling rest s) :
      Spelling ((name, value) :: rest) (w ++ (name ++ "=\"" ++ value ++ "\"") ++ s)

/-- The texts that write out nodes, one after the other. -/
inductive Spelling : List Node → String → Prop
  | nil : Spelling [] ""
  | blank {w s : String} {nodes : List Node} (isBlank : IsBlank w) (tail : Spelling nodes s) :
      Spelling nodes (w ++ s)
  | element {tag a inner s : String} {attributes : Attributes} {children nodes : List Node}
      (isName : IsName tag) (attrs : attributes.Spelling a) (body : Spelling children inner)
      (tail : Spelling nodes s) :
      Spelling (.element tag attributes children :: nodes)
        ("<" ++ tag ++ a ++ ">" ++ inner ++ "</" ++ tag ++ ">" ++ s)
  | leaf {tag a s : String} {attributes : Attributes} {nodes : List Node}
      (isName : IsName tag) (attrs : attributes.Spelling a) (tail : Spelling nodes s) :
      Spelling (.leaf tag attributes :: nodes) ("<" ++ tag ++ a ++ "/>" ++ s)
  | comment {t s : String} {nodes : List Node} (plain : Text.IsPlain t)
      (tail : Spelling nodes s) : Spelling (.comment t :: nodes) ("<!--" ++ t ++ "-->" ++ s)
  | text {t s : String} {nodes : List Node} (plain : Text.IsPlain t) (tail : Spelling nodes s) :
      Spelling (.text t :: nodes) (t ++ s)
  | verbatim {t s : String} {nodes : List Node} (tail : Spelling nodes s) :
      Spelling (.verbatim t :: nodes) (t ++ s)

/-! ## Rules -/

namespace Node

mutual

/-- A node and all nodes below it. -/
def all : Node → List Node
  | element tag attributes children => element tag attributes children :: allOf children
  | node => [node]

def allOf : List Node → List Node
  | [] => []
  | node :: rest => all node ++ allOf rest

end

/-- The nodes below a node. -/
def inside : Node → List Node
  | element _ _ children => allOf children
  | _ => []

def tag? : Node → Option String
  | element tag _ _ | leaf tag _ => some tag
  | _ => none

/-- What may stand in a text that is made for the user: lines, words set off and links. -/
inductive IsInline : Node → Prop
  | text (s : String) : IsInline (.text s)
  | lineBreak : IsInline (.leaf "br" [])
  | strong (s : String) : IsInline (.element "strong" [] [.text s])
  | link (href style s : String) :
      IsInline (.element "a" [("href", href), ("style", style)] [.text s])

/-- What may stand in a column. The argument says which texts a user wrote. -/
inductive IsContent (written : String → Prop) : Node → Prop
  | leaf {tag : String} {attributes : Attributes}
      (mem : tag ∈ ["mj-image", "mj-spacer", "mj-divider"]) :
      IsContent written (.leaf tag attributes)
  | text {attributes : Attributes} {s : String} (isWritten : written s) :
      IsContent written (.element "mj-text" attributes [.verbatim s])
  | note {attributes : Attributes} {nodes : List Node} (inlines : ∀ node ∈ nodes, node.IsInline) :
      IsContent written (.element "mj-text" attributes nodes)
  | button {attributes : Attributes} {s : String} :
      IsContent written (.element "mj-button" attributes [.text s])
  | social {attributes : Attributes} {icons : List Attributes} (icons_ne : icons ≠ []) :
      IsContent written
        (.element "mj-social" attributes (icons.map (.leaf "mj-social-element")))

/-- A column holds content, or says that it is empty. -/
inductive IsColumn (written : String → Prop) : Node → Prop
  | filled {attributes : Attributes} {nodes : List Node} (nodes_ne : nodes ≠ [])
      (content : ∀ node ∈ nodes, node.IsContent written) :
      IsColumn written (.element "mj-column" attributes nodes)
  | empty {attributes : Attributes} :
      IsColumn written (.element "mj-column" attributes [.comment " Empty column "])

/-- A section holds a number of columns, at least one. -/
inductive IsSection (written : String → Prop) : Nat → Node → Prop
  | intro {attributes : Attributes} {columns : List Node} (columns_ne : columns ≠ [])
      (columns_are : ∀ column ∈ columns, column.IsColumn written) :
      IsSection written columns.length (.element "mj-section" attributes columns)

/-- A document with the given sections in its body. -/
inductive IsDocument (sections : List Node) : Node → Prop
  | intro {title preview : String} {everywhere body block page : Attributes} :
      IsDocument sections (.element "mjml" [] [
        .element "mj-head" [] [
          .element "mj-title" [] [.text title],
          .element "mj-preview" [] [.text preview],
          .element "mj-attributes" [] [
            .leaf "mj-all" everywhere, .leaf "mj-body" body, .leaf "mj-section" block]],
        .element "mj-body" page sections])

end Node

/-! ## Sections and columns do not lie in columns -/

namespace Node

theorem mem_allOf_iff {node : Node} {nodes : List Node} :
    node ∈ allOf nodes ↔ ∃ top ∈ nodes, node ∈ top.all := by
  induction nodes with
  | nil => simp [allOf]
  | cons top nodes ih => simp [allOf, ih]

/-- A node that is neither a section nor a column. -/
def IsInner (node : Node) : Prop :=
  node.tag? ≠ some "mj-section" ∧ node.tag? ≠ some "mj-column"

theorem isInner_element {tag : String} {attributes : Attributes} {nodes : List Node}
    (ht : tag ≠ "mj-section" ∧ tag ≠ "mj-column")
    (hn : ∀ node ∈ nodes, ∀ inner ∈ node.all, inner.IsInner) :
    ∀ inner ∈ (element tag attributes nodes).all, inner.IsInner := by
  intro inner hinner
  rw [all] at hinner
  rcases List.mem_cons.1 hinner with rfl | hinner
  · simpa [IsInner, tag?] using ht
  · obtain ⟨top, htop, hinner⟩ := mem_allOf_iff.1 hinner
    exact hn top htop inner hinner

theorem isInner_leaf {tag : String} {attributes : Attributes}
    (ht : tag ≠ "mj-section" ∧ tag ≠ "mj-column") :
    ∀ inner ∈ (leaf tag attributes).all, inner.IsInner := by
  simpa [all, IsInner, tag?] using ht

theorem IsInline.isInner {node : Node} (h : node.IsInline) : ∀ inner ∈ node.all, inner.IsInner := by
  cases h <;> simp [all, allOf, IsInner, tag?]

theorem IsContent.isInner {written : String → Prop} {node : Node} (h : node.IsContent written) :
    ∀ inner ∈ node.all, inner.IsInner := by
  cases h with
  | @leaf tag attributes mem =>
    have apart : ∀ tag ∈ ["mj-image", "mj-spacer", "mj-divider"],
        tag ≠ "mj-section" ∧ tag ≠ "mj-column" := by decide
    exact isInner_leaf (apart tag mem)
  | text isWritten => simp [all, allOf, IsInner, tag?]
  | note inlines => exact isInner_element (by decide) fun node hn => (inlines node hn).isInner
  | button => simp [all, allOf, IsInner, tag?]
  | social icons_ne =>
    refine isInner_element (by decide) fun node hn => ?_
    obtain ⟨icon, -, rfl⟩ := List.mem_map.1 hn
    exact isInner_leaf (by decide)

theorem IsColumn.isInner {written : String → Prop} {column : Node} (h : column.IsColumn written) :
    ∀ inner ∈ column.inside, inner.IsInner := by
  cases h with
  | filled nodes_ne content =>
    intro inner hinner
    obtain ⟨top, htop, hinner⟩ := mem_allOf_iff.1 hinner
    exact (content top htop).isInner inner hinner
  | empty => simp [inside, allOf, all, IsInner, tag?]

/-- Whatever is a column, here or below, holds neither sections nor columns. -/
def ColumnsApart (node : Node) : Prop :=
  ∀ column ∈ node.all, column.tag? = some "mj-column" → ∀ inner ∈ column.inside, inner.IsInner

theorem columnsApart_element {tag : String} {attributes : Attributes} {nodes : List Node}
    (ht : tag ≠ "mj-column") (hn : ∀ node ∈ nodes, node.ColumnsApart) :
    (element tag attributes nodes).ColumnsApart := by
  intro column hcolumn htag
  rw [all] at hcolumn
  rcases List.mem_cons.1 hcolumn with rfl | hcolumn
  · exact absurd (Option.some.inj htag) ht
  · obtain ⟨top, htop, hcolumn⟩ := mem_allOf_iff.1 hcolumn
    exact hn top htop column hcolumn htag

theorem IsColumn.columnsApart {written : String → Prop} {column : Node}
    (h : column.IsColumn written) : column.ColumnsApart := by
  intro node hnode htag
  have hall : column.all = column :: column.inside := by cases h <;> rfl
  rw [hall] at hnode
  rcases List.mem_cons.1 hnode with rfl | hnode
  · exact h.isInner
  · exact absurd htag (h.isInner node hnode).2

theorem IsSection.columnsApart {written : String → Prop} {count : Nat} {part : Node}
    (h : part.IsSection written count) : part.ColumnsApart := by
  cases h with
  | intro columns_ne columns_are =>
    exact columnsApart_element (by decide) fun column hc => (columns_are column hc).columnsApart

theorem IsDocument.columnsApart {sections : List Node} {document : Node}
    (h : document.IsDocument sections) (hs : ∀ part ∈ sections, part.ColumnsApart) :
    document.ColumnsApart := by
  cases h with
  | intro =>
    refine columnsApart_element (by decide) (List.forall_mem_cons.2 ⟨?_, ?_⟩)
    · simp [ColumnsApart, all, allOf, tag?]
    · rw [List.forall_mem_singleton]
      exact columnsApart_element (by decide) hs

end Node

/-! ## Spelling in parts -/

theorem joinLines_singleton (line : String) : joinLines [line] = line :=
  String.intercalate_singleton

theorem joinLines_append {lines others : List String} (hl : lines ≠ []) (ho : others ≠ []) :
    joinLines (lines ++ others) = joinLines lines ++ ("\n" ++ joinLines others) := by
  unfold joinLines
  rw [String.intercalate_append_of_ne_nil hl ho, String.append_assoc]

theorem joinLines_cons {line : String} {lines : List String} (h : lines ≠ []) :
    joinLines (line :: lines) = line ++ ("\n" ++ joinLines lines) := by
  have htext := joinLines_append (List.cons_ne_nil line []) h
  rwa [List.singleton_append, joinLines_singleton] at htext

theorem joinLines_ne_empty {line : String} (h : line ≠ "") (lines : List String) :
    joinLines (line :: lines) ≠ "" := by
  cases lines with
  | nil =>
    rw [joinLines_singleton]
    exact h
  | cons other lines =>
    rw [joinLines_cons (List.cons_ne_nil other lines)]
    exact fun h' => h (String.append_eq_empty_iff.1 h').1

theorem isBlank_append {s t : String} (hs : IsBlank s) (ht : IsBlank t) : IsBlank (s ++ t) := by
  intro c hc
  rw [String.toList_append, List.mem_append] at hc
  exact hc.elim (hs c) (ht c)

theorem Attributes.Spelling.append_blank {attributes : Attributes} {s w : String}
    (h : attributes.Spelling s) (hw : IsBlank w) : attributes.Spelling (s ++ w) := by
  induction h with
  | nil blank => exact .nil (isBlank_append blank hw)
  | cons blank apart isName plain _ ih =>
    rw [String.append_assoc]
    exact .cons blank apart isName plain ih

namespace Spelling

theorem append {nodes others : List Node} {s t : String} (hs : Spelling nodes s)
    (ht : Spelling others t) : Spelling (nodes ++ others) (s ++ t) := by
  induction hs with
  | nil =>
    rw [String.empty_append]
    exact ht
  | blank isBlank _ ih =>
    rw [String.append_assoc]
    exact .blank isBlank ih
  | element isName attrs body _ _ ih =>
    rw [String.append_assoc]
    exact .element isName attrs body ih
  | leaf isName attrs _ ih =>
    rw [String.append_assoc]
    exact .leaf isName attrs ih
  | comment plain _ ih =>
    rw [String.append_assoc]
    exact .comment plain ih
  | text plain _ ih =>
    rw [String.append_assoc]
    exact .text plain ih
  | verbatim _ ih =>
    rw [String.append_assoc]
    exact .verbatim ih

theorem append_blank {nodes : List Node} {s w : String} (h : Spelling nodes s) (hw : IsBlank w) :
    Spelling nodes (s ++ w) := by
  have hblank := Spelling.blank hw .nil
  rw [String.append_empty] at hblank
  have happend := h.append hblank
  rwa [List.append_nil] at happend

theorem cons {node : Node} {nodes : List Node} {s t : String} (hs : Spelling [node] s)
    (ht : Spelling nodes t) : Spelling (node :: nodes) (s ++ t) :=
  hs.append ht

theorem single_text {s : String} (h : Text.IsPlain s) : Spelling [.text s] s := by
  have h := Spelling.text h .nil
  rwa [String.append_empty] at h

theorem single_verbatim (s : String) : Spelling [.verbatim s] s := by
  have h := Spelling.verbatim (t := s) .nil
  rwa [String.append_empty] at h

theorem single_leaf {tag a : String} {attributes : Attributes} (isName : IsName tag)
    (attrs : attributes.Spelling a) :
    Spelling [.leaf tag attributes] ("<" ++ tag ++ a ++ "/>") := by
  have h := Spelling.leaf isName attrs .nil
  rwa [String.append_empty] at h

theorem single_element {tag a inner : String} {attributes : Attributes} {children : List Node}
    (isName : IsName tag) (attrs : attributes.Spelling a) (body : Spelling children inner) :
    Spelling [.element tag attributes children]
      ("<" ++ tag ++ a ++ ">" ++ inner ++ "</" ++ tag ++ ">") := by
  have h := Spelling.element isName attrs body .nil
  rwa [String.append_empty] at h

/-- Nodes on a line each. -/
theorem lines {nodes : List Node} {lines : List String}
    (h : List.Forall₂ (fun node line => Spelling [node] line) nodes lines) :
    Spelling nodes (joinLines lines) := by
  induction h with
  | nil => exact .nil
  | @cons node line nodes lines hline hlines ih =>
    cases lines with
    | nil =>
      cases hlines
      rw [joinLines_singleton]
      exact hline
    | cons next lines =>
      rw [joinLines_cons (List.cons_ne_nil next lines)]
      exact hline.cons (.blank (by decide) ih)

end Spelling

end EmailStudio
