import EmailStudio.Proofs.Editor.Reopening
import EmailStudio.Proofs.Markup.Faults

/-!
# Saving what was opened

A template that was opened in the editor can be saved as it is: what comes back has no issues and
reads as the template with its networks in canonical form. Its markup is that of the template
before, if the addresses in every row of icons were in canonical form already
(`Template.compile_canonical`).
-/

namespace EmailStudio

/-! ## What comes back is sound -/

namespace SocialProps

theorem IsGiven.canonical {props : SocialProps} (h : props.IsGiven) : props.canonical.IsGiven :=
  { h with networks := fun network hn => h.networks network (mem_of_mem_canonicalNetworks hn) }

end SocialProps

namespace Block

/-- The order of props does not matter to a rule. -/
theorem rule_returnedProps (b : Block) : b.kind.rule b.returnedProps = b.kind.rule b.props := by
  cases b <;> rfl

/-- The order of props does not matter to reading. -/
theorem ofProps_returnedProps (b : Block) :
    ofProps b.kind b.returnedProps = ofProps b.kind b.props := by
  cases b <;> rfl

theorem PropsSound.canonical {b : Block} (h : b.PropsSound) : b.canonical.PropsSound := by
  cases b with
  | social props => exact SocialProps.Sound.canonical h
  | columns props children => exact h
  | _ => exact h

theorem Sound.canonical {depth : Int} {b : Block} (h : Sound depth b) :
    Sound depth b.canonical := by
  induction h with
  | intro depth_le props _ ih =>
    refine .intro depth_le props.canonical ?_
    rw [children_canonical, List.forall_mem_map]
    exact ih

/-- A sound block has no issues in the order in which the editor gives it back either. -/
theorem Sound.issues_returned {depth : Int} {b : Block} (h : Sound depth b) :
    issues depth b.returned = [] := by
  induction h with
  | @intro depth b depth_le props _ ih =>
    refine issues_eq_nil_iff.2 ⟨depth_le, _, b.kind, b.returnedProps, returned_eq b, ?_, ?_, ?_⟩
    · exact judgedProps_eq_ok_iff.2 ⟨Kind.ofName?_name b.kind, rfl⟩
    · rw [rule_returnedProps]
      exact rule_of_propsSound props
    · intro hcol
      refine issuesOfChildren_eq_nil_iff.2 (.inr ⟨b.children.map returned, ?_, ?_⟩)
      · rw [if_pos hcol]
        rfl
      · intro item hi
        obtain ⟨child, hc, rfl⟩ := List.mem_map.1 hi
        exact ih child hc

theorem Readable.props {b : Block} (h : b.Readable) :
    ofProps b.kind b.props = .ok (b.withChildren []) := by
  cases h
  assumption

theorem ofProps_canonical {b : Block} (h : ofProps b.kind b.props = .ok (b.withChildren [])) :
    ofProps b.canonical.kind b.canonical.props = .ok (b.canonical.withChildren []) := by
  cases b with
  | social props =>
    obtain ⟨_, hp, heq⟩ := Outcome.map_eq_ok_iff.1 h
    cases heq
    have hcanonical := (SocialProps.isGiven_of_ofFields hp).canonical.ofFields_toFields
    exact Outcome.map_eq_ok_iff.2 ⟨props.canonical, hcanonical, rfl⟩
  | columns props children => exact h
  | _ => exact h

theorem Readable.canonical {b : Block} (h : b.Readable) : b.canonical.Readable := by
  induction h with
  | intro props _ ih =>
    refine .intro (ofProps_canonical props) ?_
    rw [children_canonical, List.forall_mem_map]
    exact ih

/-- A readable block reads the same in the order in which the editor gives it back. -/
theorem Readable.ofValue_returned {b : Block} (h : b.Readable) : ofValue b.returned = .ok b := by
  induction h with
  | @intro b props _ ih =>
    rw [returned_eq]
    refine ofValue_object_of ((ofProps_returnedProps b).trans props) ?_
    rw [List.forall₂_map_left_iff, List.forall₂_same]
    exact ih

end Block

namespace Template

theorem Sound.canonical {t : Template} (h : t.Sound) : t.canonical.Sound :=
  { h with content := List.forall_mem_map.2 fun b hb => (h.content b hb).canonical }

/-- What comes back from the editor has no issues. -/
theorem Sound.isValid_returned {t : Template} (h : t.Sound) :
    Template.isValid t.returned = true := by
  refine isValid_iff.2 (issues_eq_nil_iff.2 ⟨_, rfl, versionIssues_eq_nil_iff.2 h.version,
    metadataIssues_eq_nil_iff.2 ⟨_, rfl, h.subject, h.preheader⟩,
    settingsIssues_eq_nil_iff.2 ⟨_, rfl, h.backgroundColor, h.contentWidth, h.fontFamily⟩,
    contentIssues_eq_nil_iff.2 ⟨_, rfl, ?_⟩⟩)
  exact List.forall_mem_map.2 fun b hb => (h.content b hb).issues_returned

/-- What comes back from the editor reads as what it was made of. -/
theorem ofValue_returned {t : Template} (h : ∀ b ∈ t.content, b.Readable) :
    ofValue t.returned = .ok t := by
  refine ofValue_object_of ?_
  rw [List.forall₂_map_left_iff, List.forall₂_same]
  exact fun b hb => (h b hb).ofValue_returned

theorem readable_canonical {t : Template} (h : ∀ b ∈ t.content, b.Readable) :
    ∀ b ∈ t.canonical.content, b.Readable :=
  List.forall_mem_map.2 fun b hb => (h b hb).canonical

end Template

/-! ## Its markup -/

namespace Block

theorem unjudged_canonical (b : Block) : b.canonical.unjudged = b.unjudged := by
  cases b <;> rfl

theorem Escapable.canonical {b : Block} (h : b.Escapable) : b.canonical.Escapable := by
  induction h with
  | @intro b props _ ih =>
    refine .intro ?_ ?_
    · rw [unjudged_canonical]
      exact props
    · rw [children_canonical, List.forall_mem_map]
      exact ih

/-- The addresses of the block itself, if it is a row of icons, are in canonical form. -/
def ShowsInOrder : Block → Prop
  | social props =>
    props.networks.filter (·.url.truthy) = SocialProps.canonicalNetworks props.networks
  | _ => True

/-- The addresses of every row of icons, here and below, are in canonical form. -/
inductive InOrder : Block → Prop
  | intro {b : Block} (own : b.ShowsInOrder) (children : ∀ child ∈ b.children, InOrder child) :
      InOrder b

theorem InOrder.own {b : Block} (h : b.InOrder) : b.ShowsInOrder := by
  cases h
  assumption

theorem InOrder.child {b child : Block} (h : b.InOrder) (hc : child ∈ b.children) :
    child.InOrder := by
  cases h with
  | intro _ children => exact children child hc

/-- Icons are made of the entries with an address alone. -/
theorem fragment?_canonical {b : Block} (h : b.ShowsInOrder) :
    b.canonical.fragment? = b.fragment? := by
  cases b with
  | social props =>
    have hfilter : props.canonical.networks.filter (·.url.truthy) =
        props.networks.filter (·.url.truthy) :=
      (SocialProps.filter_canonicalNetworks props.networks).trans h.symm
    simp only [canonical, fragment?, SocialProps.fragment?, hfilter]
    rfl
  | columns props children => rfl
  | _ => rfl

theorem elementsOfAll_canonical : ∀ {bs : List Block},
    (∀ b ∈ bs, b.canonical.elements = b.elements) →
      elementsOfAll (bs.map canonical) = elementsOfAll bs
  | [], _ => rfl
  | b :: rest, h => by
    obtain ⟨hb, h⟩ := List.forall_mem_cons.1 h
    rw [List.map_cons, elementsOfAll, elementsOfAll, hb, elementsOfAll_canonical h]

theorem elements_canonical {b : Block} (h : b.InOrder) : b.canonical.elements = b.elements := by
  induction h with
  | @intro b own _ ih =>
    rcases b.eq_columns_or_kind_ne with ⟨props, children, rfl⟩ | hk
    · rw [canonical, canonicalAll_eq, elements, elements]
      exact elementsOfAll_canonical ih
    · rw [elements_of_kind_ne hk, elements_of_kind_ne (by rwa [kind_canonical]),
        fragment?_canonical own]

theorem Sound.section?_canonical {depth : Int} {b : Block} (hs : Sound depth b) (h : b.InOrder) :
    b.canonical.section? = b.section? := by
  rcases b.eq_columns_or_kind_ne with ⟨props, children, rfl⟩ | hk
  · obtain ⟨count, parts, -, -, hcount, hparts, -, hflat⟩ := hs.spread
    have hcanonical : Columns.spread (children.map Block.canonical) count =
        .ok (parts.map (·.map Block.canonical)) := by
      rw [Columns.spread_map, hparts]
      rfl
    have hchild : ∀ part ∈ parts, ∀ child ∈ part, child.InOrder := fun part hpart child hc =>
      h.child (show child ∈ children from hflat ▸ List.mem_flatten_of_mem hpart hc)
    have hcolumns : (parts.map (·.map Block.canonical)).mapM (column props) =
        parts.mapM (column props) := by
      rw [List.mapM_map]
      refine Outcome.mapM_congr fun part hpart => ?_
      rw [Function.comp_apply, column, column, elementsOfAll_canonical]
      exact fun child hc => elements_canonical (hchild part hpart child hc)
    rw [Block.canonical, canonicalAll_eq, section?, section?, columnsSection_eq hcount hparts,
      columnsSection_eq hcount hcanonical, hcolumns]
  · rw [section?_of_kind_ne hk, section?_of_kind_ne (by rwa [kind_canonical]),
      fragment?_canonical h.own]

end Block

namespace Template

/-- The addresses of every row of icons are in canonical form. -/
def InOrder (t : Template) : Prop :=
  ∀ b ∈ t.content, b.InOrder

/-- The networks in canonical form have the same markup, if their addresses had it already. -/
theorem compile_canonical {t : Template} (hs : t.Sound) (h : t.InOrder) :
    t.canonical.compile = t.compile := by
  have sections : t.canonical.content.mapM (·.section?) = t.content.mapM (·.section?) := by
    rw [canonical, List.mapM_map]
    exact Outcome.mapM_congr fun b hb => (hs.content b hb).section?_canonical (h b hb)
  simp only [compile, markup, sections]
  rfl

theorem Escapable.canonical {t : Template} (h : t.Escapable) : t.canonical.Escapable :=
  List.forall_mem_map.2 fun b hb => (h b hb).canonical

theorem Sound.escapable_of_compile {t : Template} (h : t.Sound) {markup : String}
    (hm : t.compile = .ok markup) : t.Escapable := by
  by_contra hn
  rw [h.needsText_compile.faults hn] at hm
  cases hm

/-- What comes back from the editor compiles to the markup of the template with its networks in
canonical form. -/
theorem Sound.compile_returned {candidate : Value} {t : Template} {markup : String} (h : t.Sound)
    (ht : ofValue candidate = .ok t) (hm : t.compile = .ok markup) :
    ∃ later, t.canonical.compile = .ok later ∧
      Publisher.compile t.canonical.returned = .ok (t.canonical.toValue, later) ∧
      (t.InOrder → later = markup) := by
  have hread := ofValue_returned (readable_canonical (readable_of_ofValue ht))
  have hescapable := (h.escapable_of_compile hm).canonical
  obtain ⟨later, hlater⟩ := h.canonical.needsText_compile.returns hescapable
  refine ⟨later, hlater, ?_, fun hin => ?_⟩
  · rw [Publisher.compile_of_isValid h.canonical.isValid_returned hread, hlater]
    rfl
  · rw [compile_canonical h hin, hm] at hlater
    exact (Except.ok.inj hlater).symm

end Template

end EmailStudio
