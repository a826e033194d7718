import EmailStudio.Proofs.Editor.Addressing
import EmailStudio.Proofs.Editor.Merging
import EmailStudio.Proofs.Editor.Reopening
import EmailStudio.Proofs.Publishing.Inert

/-!
# Content without issues comes back without issues

Content can be opened as it was stored, without being read first. Its blocks may have props that no
rule knows of, an id of their own among them, leave out what has a default, and keep the networks of
a row of icons in a list, in fields or in both. None of that raises an issue on the way to the editor
and back (`exists_returned`).

The argument has one part for the props of a block (`exists_ofBlock`) and one for the tree: each node
of a forest goes back by itself, wherever its zones are at hand (`ReturnsSound`).
-/

namespace EmailStudio.Editor

/-! ## Props -/

theorem id_notMem_parts (kind : Kind) : "id" ∉ kind.parts.map (·.1) := by
  cases kind <;> decide

/-- No rule looks at an id. -/
theorem rule_set_id (kind : Kind) (props : Fields) (v : Value) :
    kind.rule (props.set "id" v) = kind.rule props := by
  have edits : Part.Edits (.props (some kind)) (.object props) (.object (props.set "id" v)) :=
    .set "id" v rfl (id_notMem_parts kind)
  exact edits.alike.issues_props.symm

theorem rule_erase_id (kind : Kind) (props : Fields) :
    kind.rule (props.erase "id") = kind.rule props := by
  have edits : Part.Edits (.props (some kind)) (.object props) (.object (props.erase "id")) :=
    .erase "id" rfl (id_notMem_parts kind)
  exact edits.alike.issues_props.symm

/-! ### Rows of icons -/

/-- The names of the props of a row apart from its networks. -/
def lookNames : List String := ["iconSize", "iconStyle", "align"]

theorem rule_social_eq_nil_iff {props : Fields} :
    Rule.social props = [] ↔
      (Rule.number props "iconSize" Catalog.socialIconSizes = [] ∧
        Rule.choice props "iconStyle" Catalog.socialIconStyles = [] ∧
        Rule.choice props "align" Catalog.alignments = []) ∧
      Rule.networks props = [] ∧
      ∀ name ∈ Catalog.socialNetworks, Rule.text props (Catalog.urlField name) = [] := by
  simp only [Rule.social, List.append_eq_nil_iff, List.flatMap_eq_nil_iff, and_assoc]

/-- A row without issues has none either when its networks are told in another way. -/
theorem rule_social_of {props others : Fields} (h : Rule.social props = [])
    (looks : ∀ key ∈ lookNames, others.get key = props.get key)
    (networks : Rule.networks others = [])
    (urls : ∀ name ∈ Catalog.socialNetworks, Rule.text others (Catalog.urlField name) = []) :
    Rule.social others = [] := by
  refine rule_social_eq_nil_iff.2 ⟨?_, networks, urls⟩
  have hlooks := (rule_social_eq_nil_iff.1 h).1
  simp only [Rule.number, Rule.choice, Rule.optional] at hlooks ⊢
  rwa [looks "iconSize" (by decide), looks "iconStyle" (by decide), looks "align" (by decide)]

theorem notMem_urlFields {key : String} (h : key ∈ lookNames) :
    key ≠ "networks" ∧ key ∉ Catalog.socialNetworks.map Catalog.urlField := by
  revert key
  decide

theorem isText_mergedUrl {props : Fields} (h : Rule.social props = []) {name : String}
    (hname : name ∈ Catalog.socialNetworks) :
    SocialProps.mergedUrl props name = .null ∨
      (SocialProps.mergedUrl props name).isText = true := by
  obtain ⟨-, networks, urls⟩ := rule_social_eq_nil_iff.1 h
  rw [SocialProps.mergedUrl_eq networks]
  cases hlast : SocialProps.lastOf (SocialProps.listed props) name with
  | none => exact Rule.optional_eq_nil_iff.1 (urls name hname)
  | some network =>
    have hmem := (SocialProps.mem_of_lastOf hlast).1
    exact .inr (SocialProps.sound_of_mem_listed networks hmem).url

/-- A row without issues has none when its networks are spread over the fields. -/
theorem rule_spreadNetworks {props : Fields} (h : Rule.social props = []) :
    ∃ flat, spreadNetworks props = .ok flat ∧ Rule.social flat = [] := by
  obtain ⟨-, networks, -⟩ := rule_social_eq_nil_iff.1 h
  obtain ⟨flat, hflat, hspread⟩ := exists_spreadNetworks networks
  refine ⟨flat, hflat, rule_social_of h (fun key hkey => ?_) ?_ fun name hname => ?_⟩
  · exact hspread.others key (notMem_urlFields hkey).1 (notMem_urlFields hkey).2
  · exact Rule.networks_eq_nil_iff.2 (.inl (Fields.get_eq_null_of_has hspread.networks))
  · refine Rule.optional_eq_nil_iff.2 ?_
    obtain heq | ⟨hempty, -⟩ := hspread.urls name hname
    · rw [heq]
      exact isText_mergedUrl h hname
    · rw [hempty]
      exact .inr rfl

/-- A row without issues has none when its networks are gathered. -/
theorem rule_gatherNetworks {flat : Fields} (h : Rule.social flat = []) :
    Rule.social (gatherNetworks flat) = [] := by
  obtain ⟨-, networks, urls⟩ := rule_social_eq_nil_iff.1 h
  cases hhas : flat.has "networks" with
  | true => rwa [gatherNetworks, if_pos hhas]
  | false =>
    have notField : "networks" ∉ Catalog.socialNetworks.map Catalog.urlField := by decide
    refine rule_social_of h (fun key hkey => ?_) ?_ fun name hname => ?_
    · rw [get_gatherNetworks_of_ne hhas (notMem_urlFields hkey).1,
        if_neg (notMem_urlFields hkey).2]
    · refine Rule.networks_eq_nil_iff.2 (.inr ⟨_, get_networks_gatherNetworks hhas, ?_⟩)
      intro index item hitem
      obtain ⟨name, hname, hn⟩ := List.mem_filterMap.1 (List.mem_of_getElem? hitem)
      dsimp only at hn
      split_ifs at hn with hurl
      cases hn
      have hgood := Rule.optional_eq_nil_iff.1 (urls name hname)
      exact Rule.network_eq_nil_iff.2 ⟨_, rfl, List.contains_iff_mem.2 hname, hgood⟩
    · refine Rule.optional_eq_nil_iff.2 (.inl ?_)
      rw [get_gatherNetworks_of_ne hhas (urlField_ne_of_mem notField hname),
        if_pos (List.mem_map_of_mem hname)]

/-! ### The node of a block -/

/-- A block whose props have no issues has a node, and they have none when they go back. -/
theorem exists_ofBlock {fields props : Fields} {kind : Kind}
    (hj : Block.judgedProps fields = .ok (kind, props)) (h : kind.rule props = []) (id : String) :
    ∃ node, Node.ofBlock id fields = .ok node ∧
      kind.rule (propsOfNode node.type node.props) = [] := by
  obtain ⟨htype, hprops⟩ := Block.judgedProps_eq_ok_iff.1 hj
  -- going back drops the id of the node, and with it an id that the block had before
  have back {flat : Fields} (hflat : kind.rule flat = []) :
      kind.rule ((flat.set "id" (.text id)).erase "id") = [] := by
    rwa [rule_erase_id, rule_set_id]
  by_cases hsocial : kind = .social
  · have htrue : isOfKind .social (fields.get "type") = true :=
      (isOfKind_of_ofValue? htype .social).trans (decide_eq_true hsocial)
    subst hsocial
    obtain ⟨flat, hflat, hrule⟩ := rule_spreadNetworks h
    refine ⟨⟨fields.get "type", flat.set "id" (.text id)⟩, ?_, ?_⟩
    · simp only [Node.ofBlock, hprops, Value.fields, htrue, if_true, hflat]
      rfl
    · rw [propsOfNode, if_pos htrue]
      exact rule_gatherNetworks (back hrule)
  · have hfalse : isOfKind .social (fields.get "type") = false :=
      (isOfKind_of_ofValue? htype .social).trans (decide_eq_false hsocial)
    refine ⟨⟨fields.get "type", props.set "id" (.text id)⟩, ?_, ?_⟩
    · simp only [Node.ofBlock, hprops, Value.fields, hfalse]
      rfl
    · rw [propsOfNode, hfalse]
      exact back h

/-! ## Trees of nodes -/

/-- A node that goes back to a block without issues wherever these zones are at hand and may all be
opened. -/
def ReturnsSound (depth : Int) (zones : List (String × List Node)) (node : Node) : Prop :=
  ∀ {all : Fields} {fuel : Nat}, Held all zones → zones.length ≤ fuel →
    ∃ v, blockOfNode all fuel node.fields = .ok v ∧ Block.issues depth v = []

theorem ReturnsSound.mono {depth : Int} {zones more : List (String × List Node)} {node : Node}
    (h : ReturnsSound depth zones node) (sub : zones.Sublist more) :
    ReturnsSound depth more node := fun held fuel =>
  h (fun entry hentry => held entry (sub.subset hentry)) (sub.length_le.trans fuel)

/-- Nodes that go back side by side. -/
theorem exists_filterMapM_nodes {depth : Int} {zones : List (String × List Node)}
    {nodes : List Node} (h : ∀ node ∈ nodes, ReturnsSound depth zones node) {all : Fields}
    {fuel : Nat} (held : Held all zones) (hfuel : zones.length ≤ fuel) :
    ∃ vs, (nodes.map (·.toValue)).filterMapM (fun item =>
        match item with
        | .object fields => some <$> blockOfNode all fuel fields
        | _ => pure none) = .ok vs ∧ ∀ v ∈ vs, Block.issues depth v = [] := by
  have each : ∀ node ∈ nodes, ∃ v, blockOfNode all fuel node.fields = .ok v ∧
      Block.issues depth v = [] := fun node hn => h node hn held hfuel
  obtain ⟨vs, hvs, hsound⟩ := Outcome.exists_forall₂ each
  exact ⟨vs, filterMapM_nodes hvs, hsound⟩

/-- The nodes of items go back, if the node of each item does. -/
theorem exists_forestOfItems {depth : Int} {items : List Value} {id : String}
    (each : ∀ item ∈ items, ∀ id, id ≠ "" → ∃ node zones,
      Data.forestOf id item = .ok ([node], zones) ∧ ReturnsSound depth zones node)
    (index : Nat) : ∃ nodes zones, Data.forestOfItems id index items = .ok (nodes, zones) ∧
      ∀ node ∈ nodes, ReturnsSound depth zones node := by
  induction items generalizing index with
  | nil => exact ⟨[], [], by rw [Data.forestOfItems], by simp⟩
  | cons item items ih =>
    obtain ⟨hitem, each⟩ := List.forall_mem_cons.1 each
    obtain ⟨node, zones, hforest, hnode⟩ := hitem _ (childId_ne_empty id index)
    obtain ⟨nodes, more, hrest, hnodes⟩ := ih each (index + 1)
    refine ⟨node :: nodes, zones ++ more, ?_, List.forall_mem_cons.2 ⟨?_, fun other ho => ?_⟩⟩
    · rw [Data.forestOfItems, hforest, hrest]
      rfl
    · exact hnode.mono (List.sublist_append_left zones more)
    · exact ReturnsSound.mono (hnodes other ho) (List.sublist_append_right zones more)

/-- The nodes of children without issues go back, if the node of each of them does. -/
theorem exists_forestOfList {depth : Int} {v : Value} {id : String}
    (h : Block.issuesOfChildren depth v = [])
    (each : ∀ item ∈ v.items, Block.issues (depth + 1) item = [] → ∀ id, id ≠ "" →
      ∃ node zones, Data.forestOf id item = .ok ([node], zones) ∧
        ReturnsSound (depth + 1) zones node) :
    ∃ nodes zones, Data.forestOfList id v = .ok (nodes, zones) ∧
      ∀ node ∈ nodes, ReturnsSound (depth + 1) zones node := by
  obtain rfl | ⟨items, rfl, hitems⟩ := Block.issuesOfChildren_eq_nil_iff.1 h
  · have hnone : Data.forestOfList id .null = .ok ([], []) := by
      rw [Data.forestOfList]
      intro items heq
      cases heq
    exact ⟨[], [], hnone, by simp⟩
  · rw [Data.forestOfList]
    exact exists_forestOfItems (fun item hi => each item hi (hitems item hi)) 0

/-- Columns whose zone is the last one go back with its nodes as children. -/
theorem returnsSound_columns {depth : Int} {node : Node} {nodes : List Node}
    {zones : List (String × List Node)} {id : String} (hid : id ≠ "") (hnode : node.id = .text id)
    (hdepth : depth ≤ Catalog.maxDepth) (hkind : Kind.ofValue? node.type = some .columns)
    (hrule : Kind.columns.rule (propsOfNode node.type node.props) = [])
    (below : ∀ child ∈ nodes, ReturnsSound (depth + 1) zones child) :
    ReturnsSound depth (zones ++ [(zoneName id, nodes)]) node := by
  intro all fuel held hfuel
  obtain ⟨heldBelow, heldHere⟩ := List.forall_mem_append.1 held
  rw [List.length_append, List.length_singleton] at hfuel
  obtain ⟨rest, rfl⟩ := Nat.exists_eq_add_of_le' (Nat.le_of_add_left_le hfuel)
  obtain ⟨children, hchildren, hsound⟩ :=
    exists_filterMapM_nodes below heldBelow (Nat.le_of_add_le_add_right hfuel)
  rw [← zoneItems_of_held hid (heldHere _ (List.mem_singleton.2 rfl)), ← hnode] at hchildren
  refine ⟨_, blockOfNode_columns (isOfKind_of_ofValue? hkind .columns) hchildren, ?_⟩
  refine Block.issues_eq_nil_iff.2 ⟨hdepth, _, .columns, _, rfl,
    Block.judgedProps_eq_ok_iff.2 ⟨hkind, rfl⟩, hrule, fun _ => ?_⟩
  exact Block.issuesOfChildren_eq_nil_iff.2 (.inr ⟨children, rfl, hsound⟩)

theorem returnsSound_leaf {depth : Int} {node : Node} {kind : Kind} (hkind : kind ≠ .columns)
    (hdepth : depth ≤ Catalog.maxDepth) (htype : Kind.ofValue? node.type = some kind)
    (hrule : kind.rule (propsOfNode node.type node.props) = []) : ReturnsSound depth [] node := by
  intro all fuel _ _
  have hleaf : isOfKind .columns node.type = false :=
    (isOfKind_of_ofValue? htype .columns).trans (decide_eq_false hkind)
  refine ⟨_, blockOfNode_leaf hleaf all fuel, Block.issues_eq_nil_iff.2 ⟨hdepth, _, kind, _, rfl,
    Block.judgedProps_eq_ok_iff.2 ⟨htype, rfl⟩, hrule, fun heq => absurd heq hkind⟩⟩

/-- A value without issues opens as one node, which goes back to a block without issues. -/
theorem exists_forestOf {depth : Int} {v : Value} (h : Block.issues depth v = []) {id : String}
    (hid : id ≠ "") :
    ∃ node zones, Data.forestOf id v = .ok ([node], zones) ∧ ReturnsSound depth zones node := by
  induction v using Value.inductionOnChildren generalizing depth id with
  | step v ih =>
    obtain ⟨hdepth, fields, kind, props, rfl, hj, hrule, hchildren⟩ := Block.issues_eq_nil_iff.1 h
    obtain ⟨node, hnode, hback⟩ := exists_ofBlock hj hrule id
    have hof := isNodeOf_of_ofBlock hnode
    have hkind : Kind.ofValue? node.type = some kind :=
      hof.type_eq ▸ (Block.judgedProps_eq_ok_iff.1 hj).1
    have hcolumns := isOfKind_of_ofValue? hkind .columns
    rw [Data.forestOf, forestOfChildrenIn_eq, hnode]
    simp only [bind, Except.bind, hcolumns, decide_eq_true_eq]
    split_ifs with hcol
    · subst hcol
      obtain ⟨nodes, zones, hforest, hnodes⟩ := exists_forestOfList (hchildren rfl)
        fun item hi hissues _ hid => ih item hi hissues hid
      refine ⟨node, zones ++ [(zoneName id, nodes)], by rw [hforest]; rfl, ?_⟩
      exact returnsSound_columns hid hof.id_eq hdepth hkind hback hnodes
    · exact ⟨node, [], rfl, returnsSound_leaf hcol hdepth hkind hback⟩

/-! ## Content -/

/-- Content without issues opens, and its nodes go back to blocks without issues. -/
theorem exists_returned {v : Value} (h : Template.contentIssues v = []) :
    ∃ nodes zones vs, Data.forestOfList "block" v = .ok (nodes, zones) ∧
      (nodes.map (·.toValue)).filterMapM (fun item =>
        match item with
        | .object node => some <$> blockOfNode (zoneFields zones) (zoneFields zones).length node
        | _ => pure none) = .ok vs ∧ Template.contentIssues (.list vs) = [] := by
  obtain ⟨items, rfl, hitems⟩ := Template.contentIssues_eq_nil_iff.1 h
  have each : ∀ item ∈ items, ∀ id, id ≠ "" → ∃ node zones,
      Data.forestOf id item = .ok ([node], zones) ∧ ReturnsSound 1 zones node :=
    fun item hi _ hid => exists_forestOf (hitems item hi) hid
  obtain ⟨nodes, zones, hforest, hnodes⟩ := exists_forestOfItems each 0
  have hopened : Data.forestOfList "block" (.list items) = .ok (nodes, zones) := by
    rwa [Data.forestOfList]
  have nodup : (zones.map (·.1)).Nodup :=
    (opened_forestOfList (fun _ _ _ _ => opened_forestOf) hopened).addresses.nodup_names
  obtain ⟨vs, hvs, hsound⟩ := exists_filterMapM_nodes hnodes (held_zoneFields nodup)
    (Nat.le_of_eq (List.length_map ..).symm)
  exact ⟨nodes, zones, vs, hopened, hvs, Template.contentIssues_eq_nil_iff.2 ⟨vs, rfl, hsound⟩⟩

end EmailStudio.Editor
