import EmailStudio.Proofs.Editor.Zones
import EmailStudio.Proofs.Validation.Soundness

/-!
# Through the editor and back

A stored template that is opened in the editor and read back is the same but for its rows of social
icons, whose lists of networks come back in canonical form, and for the place of that list among the
props: `templateOf_ofTemplate`. Going back, every node finds the zone of its own children, because
zones are told apart by their names and there are as many of them as there are columns.
-/

namespace EmailStudio

/-! ## What comes back -/

namespace Block

mutual

/-- The block with the networks of every row at or below it in canonical form. -/
def canonical : Block → Block
  | social props => social props.canonical
  | columns props children => columns props (canonicalAll children)
  | block => block

def canonicalAll : List Block → List Block
  | [] => []
  | b :: rest => canonical b :: canonicalAll rest

end

/-- The props of a block in the order in which the editor gives them back. -/
def returnedProps : Block → Fields
  | social props => props.looks ++ [("networks", .list (props.networks.map (·.toValue)))]
  | block => block.props

mutual

/-- The stored form of a block in the order in which the editor gives it back. -/
def returned : Block → Value
  | columns props children =>
    .object [("type", .text Kind.columns.name), ("props", .object props.toFields),
      ("children", .list (returnedAll children))]
  | block => .object [("type", .text block.kind.name), ("props", .object block.returnedProps)]

def returnedAll : List Block → List Value
  | [] => []
  | b :: rest => returned b :: returnedAll rest

end

theorem canonicalAll_eq : ∀ bs : List Block, canonicalAll bs = bs.map canonical
  | [] => by rw [canonicalAll, List.map_nil]
  | b :: rest => by rw [canonicalAll, List.map_cons, canonicalAll_eq rest]

theorem returnedAll_eq : ∀ bs : List Block, returnedAll bs = bs.map returned
  | [] => by rw [returnedAll, List.map_nil]
  | b :: rest => by rw [returnedAll, List.map_cons, returnedAll_eq rest]

@[simp] theorem kind_canonical (b : Block) : b.canonical.kind = b.kind := by
  cases b <;> simp [canonical, kind]

theorem children_canonical (b : Block) : b.canonical.children = b.children.map canonical := by
  cases b <;> simp [canonical, children, canonicalAll_eq]

theorem returned_eq (b : Block) :
    b.returned = .object ([("type", .text b.kind.name), ("props", .object b.returnedProps)]
      ++ if b.kind = .columns then [("children", .list (b.children.map returned))] else []) := by
  cases b <;> simp [returned, kind, children, returnedProps, props, returnedAll_eq]

end Block

namespace Template

/-- The template with the networks of every row in canonical form. -/
def canonical (t : Template) : Template :=
  { t with content := t.content.map (·.canonical) }

/-- The stored form of a template in the order in which the editor gives it back. -/
def returned (t : Template) : Value :=
  .object [
    ("version", t.version),
    ("metadata", .object [("subject", t.metadata.subject), ("preheader", t.metadata.preheader)]),
    ("settings", .object [
      ("backgroundColor", t.settings.backgroundColor), ("contentWidth", t.settings.contentWidth),
      ("fontFamily", t.settings.fontFamily)]),
    ("content", .list (t.content.map (·.returned)))]

end Template

/-! ### It is the stored form but for the order of fields -/

namespace Value.Same

theorem of_forall₂ {fields others : Fields} (names : fields.map (·.1) = others.map (·.1))
    (values : List.Forall₂ Same (fields.map (·.2)) (others.map (·.2))) :
    Same (.object fields) (.object others) :=
  .object (.refl _) names values

theorem of_perm {fields others : Fields} (order : fields.Perm others) :
    Same (.object fields) (.object others) :=
  .object order rfl (List.forall₂_same.2 fun v _ => .refl v)

end Value.Same

theorem Block.same_returnedProps (b : Block) :
    Value.Same (.object b.returnedProps) (.object b.props) := by
  cases b with
  | social props => exact .of_perm (List.perm_append_singleton _ props.looks)
  | _ => exact .refl _

theorem Block.same_returned (b : Block) : b.returned.Same b.toValue := by
  induction b using Block.inductionOnChildren with
  | step b ih =>
    rw [returned_eq, toValue_eq]
    have children : Value.Same (.list (b.children.map returned))
        (.list (b.children.map toValue)) := by
      refine .list ?_
      rw [List.forall₂_map_left_iff, List.forall₂_map_right_iff, List.forall₂_same]
      exact ih
    refine .of_forall₂ (by split_ifs <;> rfl) (.cons (.refl _) (.cons b.same_returnedProps ?_))
    split_ifs
    · exact .cons children .nil
    · exact .nil

theorem Template.same_returned (t : Template) : t.returned.Same t.toValue := by
  have content : Value.Same (.list (t.content.map (·.returned)))
      (.list (Block.toItems t.content)) := by
    refine .list ?_
    rw [Block.toItems_eq_map, List.forall₂_map_left_iff, List.forall₂_map_right_iff,
      List.forall₂_same]
    exact fun b _ => b.same_returned
  exact .of_forall₂ rfl
    (.cons (.refl _) (.cons (.refl _) (.cons (.refl _) (.cons content .nil))))

namespace Editor

/-! ## Going back -/

/-- The fields of a node. -/
def Node.fields (node : Node) : Fields :=
  [("type", node.type), ("props", .object node.props)]

theorem filterMapM_eq_ok {α β : Type} {f : α → Except Fault (Option β)} {xs : List α}
    {ys : List β} (h : List.Forall₂ (fun x y => f x = .ok (some y)) xs ys) :
    xs.filterMapM f = .ok ys := by
  induction h with
  | nil => rfl
  | cons hx _ ih =>
    rw [List.filterMapM_cons, hx]
    simp only [bind, Except.bind, ih]
    rfl

/-- Nodes go back one after the other. -/
theorem filterMapM_nodes {back : Fields → Except Fault Value} {nodes : List Node}
    {vs : List Value} (h : List.Forall₂ (fun node v => back node.fields = .ok v) nodes vs) :
    (nodes.map (·.toValue)).filterMapM (fun item =>
      match item with
      | .object fields => some <$> back fields
      | _ => pure none) = .ok vs := by
  refine filterMapM_eq_ok ?_
  rw [List.forall₂_map_left_iff]
  refine h.imp fun node v hback => ?_
  show some <$> back node.fields = .ok (some v)
  rw [hback]
  rfl

theorem blockOfNode_leaf {node : Node} (h : isOfKind .columns node.type = false) (all : Fields)
    (fuel : Nat) : blockOfNode all fuel node.fields =
      .ok (.object [("type", node.type), ("props", .object (propsOfNode node.type node.props))]) := by
  have htype : Fields.get node.fields "type" = node.type := rfl
  rw [blockOfNode, htype, h]
  rfl

theorem blockOfNode_columns {node : Node} (h : isOfKind .columns node.type = true) {all : Fields}
    {fuel : Nat} {children : List Value}
    (hchildren : (zoneItems all (node.props.get "id")).filterMapM (fun item =>
      match item with
      | .object fields => some <$> blockOfNode all fuel fields
      | _ => pure none) = .ok children) :
    blockOfNode all (fuel + 1) node.fields = .ok (.object [("type", node.type),
      ("props", .object (propsOfNode node.type node.props)), ("children", .list children)]) := by
  have htype : Fields.get node.fields "type" = node.type := rfl
  rw [blockOfNode, htype, h]
  exact Outcome.bind_eq_ok_iff.2 ⟨children, hchildren, rfl⟩

theorem id_notMem_flatProps (b : Block) : "id" ∉ (flatProps b).map (·.1) := by
  cases b with
  | image props =>
    simp only [flatProps, Block.props, ImageProps.toFields]
    split_ifs <;> simp
  | social props => exact (by decide : "id" ∉ ["iconSize", "align", "iconStyle", "facebookUrl",
      "twitterUrl", "linkedinUrl", "instagramUrl", "youtubeUrl"])
  | _ =>
    simp [flatProps, Block.props, HeaderProps.toFields, TextProps.toFields, ButtonProps.toFields,
      ColumnsProps.toFields, SpacerProps.toFields, DividerProps.toFields, FooterProps.toFields]

theorem get_id_nodeOf (id : String) (b : Block) :
    Fields.get (nodeOf id b).props "id" = .text id :=
  Fields.get_set_self _

/-- Without its id, and with its networks gathered, a node has the props of the block. -/
theorem propsOfNode_nodeOf (id : String) (b : Block) :
    propsOfNode (.text b.kind.name) (nodeOf id b).props = b.canonical.returnedProps := by
  rw [propsOfNode, isOfKind_name, nodeOf, Fields.erase_set (id_notMem_flatProps b)]
  cases b with
  | social props => exact gatherNetworks_flatFields props
  | _ => rfl

/-- The zones are among those of the editor. -/
def Held (all : Fields) (zones : List (String × List Node)) : Prop :=
  ∀ entry ∈ zones, all.get entry.1 = .list (entry.2.map (·.toValue))

theorem zoneItems_of_held {all : Fields} {id : String} (hid : id ≠ "") {nodes : List Node}
    (h : all.get (zoneName id) = .list (nodes.map (·.toValue))) :
    zoneItems all (.text id) = nodes.map (·.toValue) := by
  have htruthy : (Value.text id).truthy = true := by simpa [Value.truthy] using hid
  have hplain : (Value.text id).plain = id := rfl
  rw [zoneItems, if_pos htruthy, hplain, h]
  rfl

/-- Blocks that stand side by side come back, if each of them does. -/
theorem forall₂_nodesFrom {all : Fields} {depth : Nat} {id : String} {bs : List Block}
    (each : ∀ b ∈ bs, ∀ id, id ≠ "" → Held all (zonesOf id b) → (zonesOf id b).length ≤ depth →
      blockOfNode all depth (nodeOf id b).fields = .ok b.canonical.returned) (index : Nat)
    (held : Held all (zonesFrom id index bs)) (fuel : (zonesFrom id index bs).length ≤ depth) :
    List.Forall₂ (fun node v => blockOfNode all depth node.fields = .ok v)
      (nodesFrom id index bs) (bs.map (·.canonical.returned)) := by
  induction bs generalizing index with
  | nil => exact .nil
  | cons b rest ih =>
    obtain ⟨hb, each⟩ := List.forall_mem_cons.1 each
    rw [zonesFrom, List.length_append] at fuel
    rw [zonesFrom] at held
    obtain ⟨heldHere, heldLater⟩ := List.forall_mem_append.1 held
    exact .cons (hb _ (childId_ne_empty id index) heldHere (by omega))
      (ih each (index + 1) heldLater (by omega))

/-- A node goes back to its block if its zones are at hand and may all be opened. -/
theorem blockOfNode_nodeOf {all : Fields} {b : Block} {id : String} {depth : Nat} (hid : id ≠ "")
    (held : Held all (zonesOf id b)) (fuel : (zonesOf id b).length ≤ depth) :
    blockOfNode all depth (nodeOf id b).fields = .ok b.canonical.returned := by
  induction b using Block.inductionOnChildren generalizing id depth with
  | step b ih =>
    have htype : isOfKind .columns (nodeOf id b).type = decide (b.kind = .columns) :=
      isOfKind_name .columns b.kind
    have hprops : propsOfNode (nodeOf id b).type (nodeOf id b).props = b.canonical.returnedProps :=
      propsOfNode_nodeOf id b
    rw [Block.returned_eq, Block.kind_canonical, Block.children_canonical, List.map_map]
    by_cases hcol : b.kind = .columns
    · rw [zonesOf_eq, if_pos hcol] at held fuel
      obtain ⟨heldBelow, heldHere⟩ := List.forall_mem_append.1 held
      rw [List.length_append, List.length_singleton] at fuel
      obtain ⟨rest, rfl⟩ := Nat.exists_eq_add_of_le' (Nat.le_of_add_left_le fuel)
      have hnodes := filterMapM_nodes (forall₂_nodesFrom (fun child hc id => ih child hc) 0
        heldBelow (Nat.le_of_add_le_add_right fuel))
      rw [← zoneItems_of_held hid (heldHere _ (List.mem_singleton.2 rfl)), ← get_id_nodeOf id b]
        at hnodes
      rw [blockOfNode_columns (htype.trans (decide_eq_true hcol)) hnodes, hprops, if_pos hcol]
      rfl
    · rw [blockOfNode_leaf (htype.trans (decide_eq_false hcol)), hprops, if_neg hcol]
      rfl

/-! ## The whole template -/

/-- The editor data of a template. -/
def dataOf (t : Template) : Data where
  content := nodesFrom "block" 0 t.content
  root := [("backgroundColor", t.settings.backgroundColor),
    ("contentWidth", t.settings.contentWidth), ("fontFamily", t.settings.fontFamily),
    ("subject", t.metadata.subject), ("preheader", t.metadata.preheader)]
  zones := zonesFrom "block" 0 t.content

theorem ofTemplate_toValue {t : Template} (h : t.Sound) :
    Data.ofTemplate t.toValue = .ok (dataOf t) := by
  have hcontent := isStoredForm_toValue.forestOfList_content h
  rw [← Block.toItems_eq_map] at hcontent
  have hlist : Fields.get t.toValue.fields "content" = .list (Block.toItems t.content) := rfl
  rw [Data.ofTemplate, hlist, hcontent]
  rfl

/-- The settings among the props of the root are the template's own. -/
theorem settings_dataOf {t : Template} (h : t.Sound) :
    defaultSettings.update ((dataOf t).root.filter fun (key, v) =>
      !metadataNames.contains key && !v.isNull) =
      [("backgroundColor", t.settings.backgroundColor),
        ("contentWidth", t.settings.contentWidth), ("fontFamily", t.settings.fontFamily)] := by
  have background : t.settings.backgroundColor.isNull = false :=
    Bool.eq_false_iff.2 (mt Value.isNull_iff.1 (Value.ne_null_of_isText h.backgroundColor))
  have font : t.settings.fontFamily.isNull = false :=
    Bool.eq_false_iff.2 (mt Value.isNull_iff.1 (Value.ne_null_of_isText h.fontFamily))
  have width : t.settings.contentWidth.isNull = false := by
    refine Bool.eq_false_iff.2 fun hn => ?_
    have hwidth := h.contentWidth
    rw [Value.isNull_iff.1 hn] at hwidth
    cases hwidth
  have hroot : ((dataOf t).root.filter fun (key, v) =>
      !metadataNames.contains key && !v.isNull) =
      [("backgroundColor", t.settings.backgroundColor),
        ("contentWidth", t.settings.contentWidth), ("fontFamily", t.settings.fontFamily)] := by
    simp [dataOf, metadataNames, background, font, width]
  rw [hroot]
  rfl

/-- The zones as the fields of an object. -/
def zoneFields (zones : List (String × List Node)) : Fields :=
  zones.map fun entry => (entry.1, .list (entry.2.map (·.toValue)))

/-- Zones of different names are all at hand. -/
theorem held_zoneFields {zones : List (String × List Node)} (nodup : (zones.map (·.1)).Nodup) :
    Held (zoneFields zones) zones := fun _ hentry =>
  Fields.get_map_of_mem nodup hentry fun nodes => .list (nodes.map Node.toValue)

theorem held_zonesFrom (id : String) (index : Nat) (bs : List Block) :
    Held (zoneFields (zonesFrom id index bs)) (zonesFrom id index bs) :=
  held_zoneFields (nodup_zonesFrom id index bs)

theorem forall₂_content (bs : List Block) :
    List.Forall₂
      (fun node v => blockOfNode (zoneFields (zonesFrom "block" 0 bs))
        (zoneFields (zonesFrom "block" 0 bs)).length node.fields = .ok v)
      (nodesFrom "block" 0 bs) (bs.map (·.canonical.returned)) :=
  forall₂_nodesFrom (fun _ _ _ => blockOfNode_nodeOf) 0 (held_zonesFrom "block" 0 bs)
    (Nat.le_of_eq (List.length_map ..).symm)

/-- A sound template comes back with its networks in canonical form. -/
theorem templateOf_dataOf {t : Template} (h : t.Sound) :
    templateOf (dataOf t).toValue = .ok t.canonical.returned := by
  have subject : (Fields.get (dataOf t).root "subject").orElse (.text "") = t.metadata.subject :=
    Value.orElse_of_isText h.subject
  have preheader : (Fields.get (dataOf t).root "preheader").orElse (.text "") =
      t.metadata.preheader := Value.orElse_of_isText h.preheader
  refine Outcome.bind_eq_ok_iff.2 ⟨_, filterMapM_nodes (forall₂_content t.content), ?_⟩
  have root : (Fields.get (Fields.get (dataOf t).toValue.fields "root").fields "props").fields =
      (dataOf t).root := rfl
  rw [root, subject, preheader, settings_dataOf h, ← h.version, Template.returned,
    Template.canonical, List.map_map]
  rfl

/-- The stored form of a valid candidate, opened in the editor and read back, is the same template
with the networks of every row in canonical form. -/
theorem templateOf_ofTemplate {candidate : Value} {t : Template}
    (h : Template.isValid candidate = true) (ht : Template.ofValue candidate = .ok t) :
    ∃ data back, Data.ofTemplate t.toValue = .ok data ∧ templateOf data.toValue = .ok back ∧
      back.Same t.canonical.toValue :=
  have hs := Template.sound_of_ofValue h ht
  ⟨_, _, ofTemplate_toValue hs, templateOf_dataOf hs, t.canonical.same_returned⟩

/-- Rows of icons, one of them below columns, that list networks twice, without an address and out
of order. -/
def tangledNetworks : Value :=
  let row (networks : List (String × String)) : Value :=
    .object [("type", .text "EmailSocial"), ("props", .object [("networks", .list
      (networks.map fun (name, url) => .object [("type", .text name), ("url", .text url)]))])]
  Template.candidate [
    row [("twitter", "https://t"), ("facebook", "https://f"), ("twitter", "https://x")],
    .object [("type", .text "EmailColumns"), ("props", .object []), ("children", .list [
      row [("youtube", "https://y"), ("linkedin", ""), ("facebook", "https://f")],
      .object [("type", .text "EmailSpacer"), ("props", .object [])]])]]

theorem templateOf_ofTemplate_tangledNetworks :
    Template.isValid tangledNetworks = true ∧ ∃ t, Template.ofValue tangledNetworks = .ok t ∧
      ∃ data back, Data.ofTemplate t.toValue = .ok data ∧ templateOf data.toValue = .ok back ∧
        back.Same t.canonical.toValue :=
  ⟨rfl, _, rfl, templateOf_ofTemplate (show Template.isValid tangledNetworks = true from rfl) rfl⟩

end Editor

end EmailStudio
