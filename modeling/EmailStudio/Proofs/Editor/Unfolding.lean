import EmailStudio.Editor.Data
import EmailStudio.Proofs.Document.Reading
import EmailStudio.Proofs.Value.Fields
import Mathlib.Data.Finset.Card
import Mathlib.Logic.Relation

/-!
# Unfolding zones

On the way back from the editor the children of a node are looked up by its id, and nothing keeps
the zones that a client sends from leading in a circle. Nodes and the nodes in their zones make a
graph. Its unfolding from a node is a block if there is one at all, and by `templateOf_unfolds`
there is one exactly if no zone is reached again from within itself.

The bound on the number of zones opened one within the other hides nothing: the zones that can be
reached become fewer from a node to its children (`card_zonesBelow_lt`), and there are no more of
them than the editor data has.
-/

namespace EmailStudio.Editor

open Relation

/-! ## The graph of nodes -/

/-- The nodes among some items, in order. What is no object is passed over. -/
def nodesIn (items : List Value) : List Fields :=
  items.filterMap fun
    | .object node => some node
    | _ => none

/-- The name of the zone of a node. Only columns have one, and only if they have an id. -/
def zoneOf? (node : Fields) : Option String :=
  let id := Fields.get (node.get "props").fields "id"
  if isOfKind .columns (node.get "type") && id.truthy then some (zoneName id.plain) else none

/-- The nodes in the zone of a node. -/
def nodesBelow (zones node : Fields) : List Fields :=
  match zoneOf? node with
  | some name => nodesIn (zones.get name).items
  | none => []

def IsParent (zones node child : Fields) : Prop :=
  child ∈ nodesBelow zones node

/-- A node is or leads to one whose zone is reached again from within. -/
def IsEndless (zones node : Fields) : Prop :=
  ∃ entry again name, ReflTransGen (IsParent zones) node entry ∧
    TransGen (IsParent zones) entry again ∧ zoneOf? entry = some name ∧ zoneOf? again = some name

/-- The block of a node that has the given blocks as its children. -/
def blockWith (node : Fields) (children : List Value) : Value :=
  let type := node.get "type"
  .object ([("type", type), ("props", .object (propsOfNode type (node.get "props").fields))]
    ++ if isOfKind .columns type then [("children", .list children)] else [])

/-- The unfolding of the graph from a node: the children of its block are the unfoldings from the
nodes in its zone. -/
inductive Unfolds (zones : Fields) : Fields → Value → Prop
  | intro {node : Fields} {blocks : List Value}
      (children : List.Forall₂ (Unfolds zones) (nodesBelow zones node) blocks) :
      Unfolds zones node (blockWith node blocks)

variable {zones node child : Fields} {block : Value} {depth : Nat}

theorem nodesBelow_of_not_columns (h : isOfKind .columns (node.get "type") = false) :
    nodesBelow zones node = [] := by
  rw [nodesBelow, zoneOf?, h, Bool.false_and, if_neg Bool.false_ne_true]

/-- The children of a block are those that its node was unfolded with. -/
theorem children_blockWith {blocks : List Value}
    (h : List.Forall₂ (Unfolds zones) (nodesBelow zones node) blocks) :
    (blockWith node blocks).children = blocks := by
  cases hcol : isOfKind .columns (node.get "type") with
  | true =>
    rw [blockWith, hcol, if_pos rfl]
    rfl
  | false =>
    rw [nodesBelow_of_not_columns hcol, List.forall₂_nil_left_iff] at h
    rw [blockWith, hcol, if_neg Bool.false_ne_true, h]
    rfl

theorem Unfolds.children (h : Unfolds zones node block) :
    List.Forall₂ (Unfolds zones) (nodesBelow zones node) block.children := by
  cases h with
  | intro children =>
    rw [children_blockWith children]
    exact children

/-! ## Circles -/

theorem IsParent.zoneOf? (h : IsParent zones node child) :
    ∃ name, zoneOf? node = some name ∧ name ∈ zones.map (·.1) := by
  unfold IsParent nodesBelow at h
  cases hzone : Editor.zoneOf? node with
  | none =>
    rw [hzone] at h
    cases h
  | some name =>
    rw [hzone] at h
    refine ⟨name, rfl, by_contra fun hn => ?_⟩
    have hnone : zones.get name = .null := by
      rw [Fields.get, Fields.get?_eq_none_iff.2 hn, Option.getD_none]
    dsimp only at h
    rw [hnone] at h
    cases h

/-- What lies in a zone does not depend on the node that it is opened from. -/
theorem IsParent.of_zoneOf? {other : Fields} (h : IsParent zones node child)
    (hzone : Editor.zoneOf? other = Editor.zoneOf? node) : IsParent zones other child := by
  unfold IsParent nodesBelow
  rw [hzone]
  exact h

theorem IsEndless.of_child (hp : IsParent zones node child) (h : IsEndless zones child) :
    IsEndless zones node := by
  obtain ⟨entry, again, name, hentry, hagain, hname, hsame⟩ := h
  exact ⟨entry, again, name, hentry.head hp, hagain, hname, hsame⟩

/-- An endless node has an endless child: the circle is as well entered one step further on. -/
theorem IsEndless.exists_child (h : IsEndless zones node) :
    ∃ child, IsParent zones node child ∧ IsEndless zones child := by
  obtain ⟨entry, again, name, hentry, hagain, hname, hsame⟩ := h
  rcases hentry.cases_head with rfl | ⟨child, hp, hentry⟩
  · obtain ⟨child, hp, hrest⟩ := TransGen.head'_iff.1 hagain
    have hback : IsParent zones again child := hp.of_zoneOf? (hsame.trans hname.symm)
    exact ⟨child, hp, again, again, name, hrest, .head' hback hrest, hsame, hsame⟩
  · exact ⟨child, hp, entry, again, name, hentry, hagain, hname, hsame⟩

/-- What has an unfolding is not endless. -/
theorem Unfolds.not_isEndless (h : Unfolds zones node block) : ¬IsEndless zones node := by
  induction block using Value.inductionOnChildren generalizing node with
  | step block ih =>
    intro hendless
    obtain ⟨child, hp, hchild⟩ := hendless.exists_child
    obtain ⟨part, hpart, hunfolds⟩ := Outcome.exists_of_mem_right h.children.flip hp
    exact ih part hpart hunfolds hchild

/-! ## Going down the zones -/

/-- No chain of nodes that starts here has more than the given number of steps. -/
def WithinDepth (zones : Fields) : Nat → Fields → Prop
  | 0, node => ∀ child, ¬IsParent zones node child
  | depth + 1, node => ∀ child ∈ nodesBelow zones node, WithinDepth zones depth child

/-- The block of a node in a zone that may still be opened or not. -/
def blockInZone (zones : Fields) : Nat → Fields → Except Fault Value
  | 0, _ => .error .endlessZones
  | depth + 1, node => blockOfNode zones depth node

/-- Steps that pass over what is no object go through the nodes among some items. -/
theorem filterMapM_eq_mapM {step : Value → Except Fault (Option Value)}
    {f : Fields → Except Fault Value} (object : ∀ fields, step (.object fields) = some <$> f fields)
    (other : ∀ item, item.isObject = false → step item = .ok none) (items : List Value) :
    items.filterMapM step = (nodesIn items).mapM f := by
  induction items with
  | nil => rfl
  | cons item rest ih =>
    rw [List.filterMapM_cons, ih]
    cases item with
    | object fields =>
      have hnodes : nodesIn (.object fields :: rest) = fields :: nodesIn rest := rfl
      rw [hnodes, List.mapM_cons, object]
      cases f fields <;> rfl
    | _ =>
      rw [other _ rfl]
      rfl

theorem nodesIn_zoneItems (h : isOfKind .columns (node.get "type") = true) :
    nodesIn (zoneItems zones (Fields.get (node.get "props").fields "id")) =
      nodesBelow zones node := by
  rw [nodesBelow, zoneOf?, zoneItems, h, Bool.true_and]
  split_ifs <;> rfl

/-- A node goes back to its block if the nodes in its zone do. -/
theorem blockOfNode_eq (zones : Fields) (depth : Nat) (node : Fields) :
    blockOfNode zones depth node =
      blockWith node <$> (nodesBelow zones node).mapM (blockInZone zones depth) := by
  cases hcol : isOfKind .columns (node.get "type") with
  | true =>
    rw [blockOfNode, hcol, if_pos rfl, filterMapM_eq_mapM (f := blockInZone zones depth),
      nodesIn_zoneItems hcol]
    · cases (nodesBelow zones node).mapM (blockInZone zones depth) with
      | error fault => rfl
      | ok blocks =>
        have hwith : Except.ok (blockWith node blocks) = (Except.ok _ : Except Fault Value) :=
          congrArg Except.ok (by rw [blockWith, hcol, if_pos rfl])
        exact hwith.symm
    · intro fields
      cases depth <;> rfl
    · intro item hitem
      cases item with
      | object fields => cases hitem
      | _ => rfl
  | false =>
    have hwith : blockWith node [] = .object [("type", node.get "type"),
        ("props", .object (propsOfNode (node.get "type") (node.get "props").fields))] := by
      rw [blockWith, hcol, if_neg Bool.false_ne_true, List.append_nil]
    rw [blockOfNode, hcol, if_neg Bool.false_ne_true, nodesBelow_of_not_columns hcol]
    exact (congrArg Except.ok hwith).symm

/-- Going back succeeds if it does not have to go deeper than it may. -/
theorem returnsIff_blockOfNode :
    Outcome.ReturnsIff (· = Fault.endlessZones) (WithinDepth zones depth node)
      (blockOfNode zones depth node) := by
  induction depth generalizing node with
  | zero =>
    have hzone : ∀ child ∈ nodesBelow zones node, Outcome.ReturnsIff (· = Fault.endlessZones) False
        (blockInZone zones 0 child) := fun child _ => .of_error rfl rfl
    rw [blockOfNode_eq]
    exact (Outcome.ReturnsIff.mapM hzone).bind_pure
  | succ depth ih =>
    rw [blockOfNode_eq]
    exact (Outcome.ReturnsIff.mapM fun child _ => ih).bind_pure

theorem unfolds_of_blockOfNode (h : blockOfNode zones depth node = .ok block) :
    Unfolds zones node block := by
  induction depth generalizing node block with
  | zero =>
    rw [blockOfNode_eq] at h
    obtain ⟨blocks, hblocks, rfl⟩ := Outcome.map_eq_ok_iff.1 h
    exact .intro ((Outcome.mapM_eq_ok_iff.1 hblocks).imp fun child block h => nomatch h)
  | succ depth ih =>
    rw [blockOfNode_eq] at h
    obtain ⟨blocks, hblocks, rfl⟩ := Outcome.map_eq_ok_iff.1 h
    exact .intro ((Outcome.mapM_eq_ok_iff.1 hblocks).imp fun child block => ih)

/-! ## How deep one has to go -/

section Classical

open scoped Classical

/-- The names of the zones that are opened at a node or further down. -/
noncomputable def zonesBelow (zones node : Fields) : Finset String :=
  (zones.map (·.1)).toFinset.filter fun name =>
    ∃ other, ReflTransGen (IsParent zones) node other ∧ zoneOf? other = some name

theorem mem_zonesBelow {name : String} : name ∈ zonesBelow zones node ↔
    name ∈ zones.map (·.1) ∧
      ∃ other, ReflTransGen (IsParent zones) node other ∧ zoneOf? other = some name := by
  rw [zonesBelow, Finset.mem_filter, List.mem_toFinset]

theorem card_zonesBelow_le (zones node : Fields) : (zonesBelow zones node).card ≤ zones.length :=
  calc (zonesBelow zones node).card
      ≤ (zones.map (·.1)).toFinset.card := Finset.card_filter_le _ _
    _ ≤ (zones.map (·.1)).length := List.toFinset_card_le _
    _ = zones.length := List.length_map ..

/-- The zone of a node that is not endless is not opened again further down. -/
theorem card_zonesBelow_lt (h : ¬IsEndless zones node) (hp : IsParent zones node child) :
    (zonesBelow zones child).card < (zonesBelow zones node).card := by
  refine Finset.card_lt_card ((Finset.ssubset_iff_of_subset fun name hname => ?_).2 ?_)
  · obtain ⟨hmem, other, hother, hzone⟩ := mem_zonesBelow.1 hname
    exact mem_zonesBelow.2 ⟨hmem, other, hother.head hp, hzone⟩
  · obtain ⟨name, hname, hmem⟩ := hp.zoneOf?
    refine ⟨name, mem_zonesBelow.2 ⟨hmem, node, .refl, hname⟩, fun hbelow => h ?_⟩
    obtain ⟨-, again, hagain, hsame⟩ := mem_zonesBelow.1 hbelow
    exact ⟨node, again, name, .refl, .head' hp hagain, hname, hsame⟩

theorem withinDepth_of_card_le (h : ¬IsEndless zones node)
    (hcard : (zonesBelow zones node).card ≤ depth) : WithinDepth zones depth node := by
  induction depth generalizing node with
  | zero =>
    intro child hp
    have := card_zonesBelow_lt h hp
    omega
  | succ depth ih =>
    intro child hp
    have := card_zonesBelow_lt h hp
    exact ih (fun hc => h (hc.of_child hp)) (by omega)

end Classical

theorem WithinDepth.not_isEndless (h : WithinDepth zones depth node) : ¬IsEndless zones node := by
  obtain ⟨block, hblock⟩ := returnsIff_blockOfNode.returns h
  exact (unfolds_of_blockOfNode hblock).not_isEndless

/-- As many steps as there are zones lead to the end of every chain, or there is no end. -/
theorem withinDepth_length_iff : WithinDepth zones zones.length node ↔ ¬IsEndless zones node :=
  ⟨WithinDepth.not_isEndless, fun h => withinDepth_of_card_le h (card_zonesBelow_le zones node)⟩

/-! ## The whole template -/

/-- The zones of editor data. -/
def zonesOfData (data : Value) : Fields :=
  (Fields.get data.fields "zones").fields

/-- The nodes of the content of editor data. -/
def contentOfData (data : Value) : List Fields :=
  nodesIn (Fields.get data.fields "content").items

/-- A node of the content is or leads to columns whose zone is reached again from within. -/
def IsCircular (data : Value) : Prop :=
  ∃ node ∈ contentOfData data, IsEndless (zonesOfData data) node

/-- What a path of positions leads to, through the zones, from nodes that stand side by side. -/
def nodeAt (zones : Fields) : List Fields → List Nat → Option Fields
  | _, [] => none
  | nodes, [i] => nodes[i]?
  | nodes, i :: path => nodes[i]?.bind fun node => nodeAt zones (nodesBelow zones node) path

/-- What a path of positions leads to from blocks that stand side by side. -/
def blockAt : List Value → List Nat → Option Value
  | _, [] => none
  | blocks, [i] => blocks[i]?
  | blocks, i :: path => blocks[i]?.bind fun block => blockAt block.children path

/-- A template in its stored form whose content is the unfolding from the nodes of the content of
editor data: one block for each path of positions that leads to a node. -/
structure IsUnfolding (data template : Value) : Prop where
  names : template.fields.map (·.1) = ["version", "metadata", "settings", "content"]
  version : Fields.get template.fields "version" = .text "1.0"
  content : ∃ blocks, Fields.get template.fields "content" = .list blocks ∧
    List.Forall₂ (Unfolds (zonesOfData data)) (contentOfData data) blocks ∧
    ∀ path, Option.Rel (Unfolds (zonesOfData data))
      (nodeAt (zonesOfData data) (contentOfData data) path) (blockAt blocks path)

theorem rel_getElem? {R : Fields → Value → Prop} {nodes : List Fields} {blocks : List Value}
    (h : List.Forall₂ R nodes blocks) (i : Nat) : Option.Rel R nodes[i]? blocks[i]? := by
  induction h generalizing i with
  | nil => exact .none
  | cons hr _ ih =>
    cases i with
    | zero => exact .some hr
    | succ i => exact ih i

/-- A path leads to the block of the node that it leads to. -/
theorem rel_blockAt {nodes : List Fields} {blocks : List Value}
    (h : List.Forall₂ (Unfolds zones) nodes blocks) (path : List Nat) :
    Option.Rel (Unfolds zones) (nodeAt zones nodes path) (blockAt blocks path) := by
  induction path generalizing nodes blocks with
  | nil =>
    rw [nodeAt, blockAt]
    exact .none
  | cons i path ih =>
    have hi := rel_getElem? h i
    cases path with
    | nil => exact hi
    | cons j path =>
      rw [nodeAt, blockAt]
      · generalize nodes[i]? = node, blocks[i]? = block at hi
        cases hi with
        | none => exact .none
        | some hu => exact ih hu.children
      · exact nofun
      · exact nofun

/-- A template is put together from the blocks of its content. -/
theorem exists_templateOf_eq (data : Value) : ∃ template : List Value → Value,
    templateOf data = template <$>
      (contentOfData data).mapM (blockOfNode (zonesOfData data) (zonesOfData data).length) ∧
    ∀ blocks,
      (template blocks).fields.map (·.1) = ["version", "metadata", "settings", "content"] ∧
      Fields.get (template blocks).fields "version" = .text "1.0" ∧
      Fields.get (template blocks).fields "content" = .list blocks := by
  rw [templateOf, filterMapM_eq_mapM (fun fields => rfl)]
  · exact ⟨_, rfl, fun blocks => ⟨rfl, rfl, rfl⟩⟩
  · intro item hitem
    cases item with
    | object fields => cases hitem
    | _ => rfl

theorem returnsIff_templateOf (data : Value) :
    Outcome.ReturnsIff (· = Fault.endlessZones) (¬IsCircular data) (templateOf data) := by
  have all : (∀ node ∈ contentOfData data, ¬IsEndless (zonesOfData data) node) ↔
      ¬IsCircular data := by
    simp only [IsCircular, not_exists, not_and]
  obtain ⟨template, heq, -⟩ := exists_templateOf_eq data
  rw [heq]
  exact (Outcome.ReturnsIff.mapM fun node _ =>
    returnsIff_blockOfNode.congr withinDepth_length_iff).bind_pure.congr all

theorem isUnfolding_of_templateOf {data template : Value} (h : templateOf data = .ok template) :
    IsUnfolding data template := by
  obtain ⟨make, heq, hmake⟩ := exists_templateOf_eq data
  rw [heq] at h
  obtain ⟨blocks, hblocks, rfl⟩ := Outcome.map_eq_ok_iff.1 h
  obtain ⟨names, version, content⟩ := hmake blocks
  have hunfolds : List.Forall₂ (Unfolds (zonesOfData data)) (contentOfData data) blocks :=
    (Outcome.mapM_eq_ok_iff.1 hblocks).imp fun _ _ => unfolds_of_blockOfNode
  exact ⟨names, version, blocks, content, hunfolds, rel_blockAt hunfolds⟩

/-- Editor data goes back to a template, the unfolding of its zones, exactly if they do not lead in
a circle. Otherwise there is no end: however many zones may be opened one within the other, they are
not enough. -/
theorem templateOf_unfolds (data : Value) :
    (templateOf data = .error .endlessZones ↔ IsCircular data) ∧
    ((∃ template, templateOf data = .ok template ∧ IsUnfolding data template) ↔
      ¬IsCircular data) ∧
    ((∃ depth, ∀ node ∈ contentOfData data, ∃ block,
      blockOfNode (zonesOfData data) depth node = .ok block) ↔ ¬IsCircular data) := by
  have houtcome := returnsIff_templateOf data
  refine ⟨⟨fun h => by_contra fun hn => ?_, fun h => ?_⟩, ⟨?_, fun hn => ?_⟩,
    ⟨?_, fun hn => ⟨(zonesOfData data).length, fun node hnode => ?_⟩⟩⟩
  · obtain ⟨template, ht⟩ := houtcome.returns hn
    rw [h] at ht
    cases ht
  · obtain ⟨fault, hfault, rfl⟩ := houtcome.fails (not_not.2 h)
    exact hfault
  · rintro ⟨template, ht, -⟩
    exact houtcome.exists_ok_iff.1 ⟨template, ht⟩
  · obtain ⟨template, ht⟩ := houtcome.returns hn
    exact ⟨template, ht, isUnfolding_of_templateOf ht⟩
  · rintro ⟨depth, hdepth⟩ ⟨node, hnode, hendless⟩
    obtain ⟨block, hblock⟩ := hdepth node hnode
    exact (unfolds_of_blockOfNode hblock).not_isEndless hendless
  · have hwithin : WithinDepth (zonesOfData data) (zonesOfData data).length node :=
      withinDepth_length_iff.2 fun h => hn ⟨node, hnode, h⟩
    exact returnsIff_blockOfNode.returns hwithin

/-- Columns that lie in their own zone. -/
example :
    let columns : Value := .object [("type", .text "EmailColumns"),
      ("props", .object [("id", .text "a")])]
    templateOf (.object [("content", .list [columns]),
      ("zones", .object [("a:children", .list [columns])])]) = .error .endlessZones := by
  cbv

end EmailStudio.Editor
