import EmailStudio.Proofs.Editor.Zones
import EmailStudio.Proofs.Value.Equality
import Mathlib.Data.Set.Card

/-!
# The addresses of blocks

Whatever a template holds, the nodes and zones that the editor is given are an addressing of its
blocks: `Data.isAddressing_ofTemplate`. A block is found along a path, the positions of the children
that lead to it, and its node has the id of that path. Positions count everything that stands in a
list, also what is no block and has no node.
-/

namespace EmailStudio.Editor

/-! ## Blocks and their nodes -/

/-- The block that a path leads to from a value, down the children of columns. -/
def blockAlong : Value → List Nat → Option Fields
  | .object block, [] => some block
  | .object block, i :: path =>
    if isOfKind .columns (Fields.get block "type") then
      (Fields.get block "children").items[i]?.bind (blockAlong · path)
    else none
  | _, _ => none

/-- The block that a path leads to from a template. -/
def blockOfPath (template : Value) : List Nat → Option Fields
  | [] => none
  | i :: path => (Fields.get template.fields "content").items[i]?.bind (blockAlong · path)

/-- The blocks among some items with their positions, which are counted from an index on. -/
def blocksAmong (items : List Value) (index : Nat) : List (Nat × Fields) :=
  (items.zipIdx index).filterMap fun
    | (.object block, i) => some (i, block)
    | _ => none

/-- The id of a node, as it stands among its props. -/
def Node.id (node : Node) : Value :=
  node.props.get "id"

/-- All nodes of the editor, those of the content and those in zones. -/
def Data.nodes (data : Data) : List Node :=
  data.content ++ data.zones.flatMap (·.2)

/-- What a block is shown as under an id. -/
structure IsNodeOf (id : String) (block : Fields) (node : Node) : Prop where
  made : Node.ofBlock id block = .ok node
  type_eq : node.type = block.get "type"
  id_eq : node.id = .text id

/-- Nodes show the blocks among some items, one for each and in their order, with their positions in
their ids. -/
def Lists (id : String) (blocks : List (Nat × Fields)) (nodes : List Node) : Prop :=
  List.Forall₂ (fun block node => IsNodeOf (childId id block.1) block.2 node) blocks nodes

theorem isNodeOf_of_ofBlock {id : String} {block : Fields} {node : Node}
    (h : Node.ofBlock id block = .ok node) : IsNodeOf id block node := by
  obtain ⟨props, rfl⟩ : ∃ props : Fields, node = ⟨block.get "type", props.set "id" (.text id)⟩ := by
    rw [Node.ofBlock] at h
    split_ifs at h
    · obtain ⟨props, -, heq⟩ := Outcome.bind_eq_ok_iff.1 h
      exact ⟨props, (Except.ok.inj heq).symm⟩
    · exact ⟨_, (Except.ok.inj h).symm⟩
  exact ⟨h, rfl, Fields.get_set_self _⟩

/-! ## Addressings -/

/-- Nodes and zones that address blocks, each by the path that leads to it from an id on. -/
structure Addresses (id : String) (stands : List Nat → Fields → Prop) (nodes : List Node)
    (zones : List (String × List Node)) : Prop where
  shown : ∀ {path block}, stands path block → ∃ node ∈ nodes, IsNodeOf (idBelow id path) block node
  placed : ∀ {node}, node ∈ nodes → ∃ path block, stands path block ∧
    IsNodeOf (idBelow id path) block node
  nodup : (nodes.map (·.id)).Nodup
  names : (zones.map (·.1)).Perm
    ((nodes.filter (isOfKind .columns ·.type)).map (zoneName ·.id.plain))
  zones : ∀ {path block}, stands path block → isOfKind .columns (block.get "type") = true →
    ∃ children, (zoneName (idBelow id path), children) ∈ zones ∧
      Lists (idBelow id path) (blocksAmong (block.get "children").items 0) children

namespace Addresses

variable {id : String} {stands others : List Nat → Fields → Prop} {nodes more : List Node}
  {zones moreZones : List (String × List Node)}

theorem nil : Addresses id (fun _ _ => False) [] [] where
  shown := False.elim
  placed h := nomatch h
  nodup := .nil
  names := .nil
  zones := False.elim

theorem congr (h : Addresses id stands nodes zones)
    (hiff : ∀ path block, others path block ↔ stands path block) :
    Addresses id others nodes zones := by
  have heq : others = stands := funext₂ fun path block => propext (hiff path block)
  exact heq ▸ h

theorem perm (h : Addresses id stands nodes zones) (hp : more.Perm nodes) :
    Addresses id stands more zones where
  shown hs := by
    obtain ⟨node, hn, hnode⟩ := h.shown hs
    exact ⟨node, hp.mem_iff.2 hn, hnode⟩
  placed hn := h.placed (hp.mem_iff.1 hn)
  nodup := (hp.map _).nodup_iff.2 h.nodup
  names := h.names.trans ((hp.symm.filter _).map _)
  zones := h.zones

/-- Blocks to which different paths lead are addressed side by side. -/
theorem append (h : Addresses id stands nodes zones) (hmore : Addresses id others more moreZones)
    (apart : ∀ {path other block child}, stands path block → others other child → path ≠ other) :
    Addresses id (fun path block => stands path block ∨ others path block) (nodes ++ more)
      (zones ++ moreZones) where
  shown hs := by
    rcases hs with hs | hs
    · obtain ⟨node, hn, hnode⟩ := h.shown hs
      exact ⟨node, List.mem_append_left _ hn, hnode⟩
    · obtain ⟨node, hn, hnode⟩ := hmore.shown hs
      exact ⟨node, List.mem_append_right _ hn, hnode⟩
  placed hn := by
    rcases List.mem_append.1 hn with hn | hn
    · obtain ⟨path, block, hs, hnode⟩ := h.placed hn
      exact ⟨path, block, .inl hs, hnode⟩
    · obtain ⟨path, block, hs, hnode⟩ := hmore.placed hn
      exact ⟨path, block, .inr hs, hnode⟩
  nodup := by
    rw [List.map_append, List.nodup_append]
    refine ⟨h.nodup, hmore.nodup, fun left hleft right hright heq => ?_⟩
    obtain ⟨node, hn, rfl⟩ := List.mem_map.1 hleft
    obtain ⟨other, ho, rfl⟩ := List.mem_map.1 hright
    obtain ⟨path, block, hs, hnode⟩ := h.placed hn
    obtain ⟨otherPath, child, hos, hother⟩ := hmore.placed ho
    have htext : Value.text (idBelow id path) = .text (idBelow id otherPath) :=
      hnode.id_eq.symm.trans (heq.trans hother.id_eq)
    exact apart hs hos (idBelow_injective id (Value.text.inj htext))
  names := by
    rw [List.map_append, List.filter_append, List.map_append]
    exact h.names.append hmore.names
  zones hs hcol := by
    rcases hs with hs | hs
    · obtain ⟨children, hmem, hlists⟩ := h.zones hs hcol
      exact ⟨children, List.mem_append_left _ hmem, hlists⟩
    · obtain ⟨children, hmem, hlists⟩ := hmore.zones hs hcol
      exact ⟨children, List.mem_append_right _ hmem, hlists⟩

/-- A block that holds no others. -/
theorem leaf {index : Nat} {block : Fields} {node : Node}
    (h : IsNodeOf (childId id index) block node)
    (hcol : isOfKind .columns (block.get "type") = false) :
    Addresses id (fun path other => path = [index] ∧ other = block) [node] [] where
  shown := by
    rintro _ _ ⟨rfl, rfl⟩
    exact ⟨node, List.mem_singleton_self node, h⟩
  placed hn := ⟨[index], block, ⟨rfl, rfl⟩, List.mem_singleton.1 hn ▸ h⟩
  nodup := List.nodup_singleton _
  names := by
    have hfilter : [node].filter (isOfKind .columns ·.type) = [] :=
      List.filter_cons_of_neg (by rw [h.type_eq, hcol]; exact Bool.false_ne_true)
    rw [hfilter]
    exact .nil
  zones := by
    rintro _ _ ⟨rfl, rfl⟩ hcolumns
    rw [hcol] at hcolumns
    cases hcolumns

/-- Columns by themselves, with the nodes of their children. -/
theorem columns {index : Nat} {block : Fields} {node : Node} {children : List Node}
    (h : IsNodeOf (childId id index) block node)
    (hcol : isOfKind .columns (block.get "type") = true)
    (hlists : Lists (childId id index) (blocksAmong (block.get "children").items 0) children) :
    Addresses id (fun path other => path = [index] ∧ other = block) [node]
      [(zoneName (childId id index), children)] where
  shown := by
    rintro _ _ ⟨rfl, rfl⟩
    exact ⟨node, List.mem_singleton_self node, h⟩
  placed hn := ⟨[index], block, ⟨rfl, rfl⟩, List.mem_singleton.1 hn ▸ h⟩
  nodup := List.nodup_singleton _
  names := by
    have hnode : isOfKind .columns node.type = true := h.type_eq ▸ hcol
    have hname : zoneName node.id.plain = zoneName (childId id index) := by
      rw [h.id_eq]
      rfl
    have hfilter : [node].filter (isOfKind .columns ·.type) = [node] :=
      List.filter_cons_of_pos hnode
    rw [hfilter, List.map_singleton, List.map_singleton, hname]
  zones := by
    rintro _ _ ⟨rfl, rfl⟩ -
    exact ⟨children, List.mem_singleton_self _, hlists⟩

/-- What is addressed from a child on is addressed one step further up as well. -/
theorem below {index : Nat} (h : Addresses (childId id index) stands nodes zones) :
    Addresses id (fun path block => ∃ rest, path = index :: rest ∧ stands rest block) nodes
      zones where
  shown := by
    rintro _ block ⟨rest, rfl, hs⟩
    exact h.shown hs
  placed hn := by
    obtain ⟨path, block, hs, hnode⟩ := h.placed hn
    exact ⟨index :: path, block, ⟨path, rfl, hs⟩, hnode⟩
  nodup := h.nodup
  names := h.names
  zones := by
    rintro _ block ⟨rest, rfl, hs⟩ hcol
    exact h.zones hs hcol

end Addresses

/-! ## Opening -/

/-- A path leads to a block from items whose positions are counted from an index on. -/
def StandsAmong (items : List Value) (index : Nat) (path : List Nat) (block : Fields) : Prop :=
  ∃ item i rest, (item, i) ∈ items.zipIdx index ∧ path = i :: rest ∧
    blockAlong item rest = some block

/-- The nodes of a forest and of all its zones. -/
def nodesOf (forest : Data.Forest) : List Node :=
  forest.1 ++ forest.2.flatMap (·.2)

theorem standsAmong_cons {v : Value} {rest : List Value} {index : Nat} {path : List Nat}
    {block : Fields} :
    StandsAmong (v :: rest) index path block ↔
      StandsAmong [v] index path block ∨ StandsAmong rest (index + 1) path block := by
  simp only [StandsAmong, List.zipIdx_cons, List.zipIdx_nil, List.mem_cons, List.not_mem_nil,
    or_false]
  constructor
  · rintro ⟨item, i, path', hmem | hmem, hpath, hblock⟩
    · exact .inl ⟨item, i, path', hmem, hpath, hblock⟩
    · exact .inr ⟨item, i, path', hmem, hpath, hblock⟩
  · rintro (⟨item, i, path', hmem, hpath, hblock⟩ | ⟨item, i, path', hmem, hpath, hblock⟩)
    · exact ⟨item, i, path', .inl hmem, hpath, hblock⟩
    · exact ⟨item, i, path', .inr hmem, hpath, hblock⟩

theorem standsAmong_singleton {v : Value} {index : Nat} {path : List Nat} {block : Fields} :
    StandsAmong [v] index path block ↔
      ∃ rest, path = index :: rest ∧ blockAlong v rest = some block := by
  simp [StandsAmong]

/-- A path leads to a block itself or, if it is columns, to what stands among its children. -/
theorem blockAlong_object {fields block : Fields} {path : List Nat} :
    blockAlong (.object fields) path = some block ↔ (path = [] ∧ block = fields) ∨
      (isOfKind .columns (fields.get "type") = true ∧
        StandsAmong (fields.get "children").items 0 path block) := by
  cases path with
  | nil =>
    have hnone : ¬StandsAmong (fields.get "children").items 0 [] block :=
      fun ⟨_, _, _, _, hpath, _⟩ => nomatch hpath
    rw [blockAlong, Option.some.injEq, eq_comm, iff_false_intro hnone]
    simp
  | cons i path =>
    simp only [StandsAmong, List.mk_mem_zipIdx_iff_getElem?, blockAlong, reduceCtorEq, false_and,
      false_or, List.cons.injEq, Option.ite_none_right_eq_some, Option.bind_eq_some_iff]
    refine and_congr_right fun _ => ⟨?_, ?_⟩
    · rintro ⟨item, hitem, hblock⟩
      exact ⟨item, i, path, hitem, ⟨rfl, rfl⟩, hblock⟩
    · rintro ⟨item, _, _, hitem, ⟨rfl, rfl⟩, hblock⟩
      exact ⟨item, hitem, hblock⟩

theorem standsAmong_object {fields block : Fields} {index : Nat} {path : List Nat} :
    StandsAmong [.object fields] index path block ↔
      (isOfKind .columns (fields.get "type") = true ∧
        ∃ rest, path = index :: rest ∧ StandsAmong (fields.get "children").items 0 rest block) ∨
      (path = [index] ∧ block = fields) := by
  rw [standsAmong_singleton]
  constructor
  · rintro ⟨rest, rfl, hblock⟩
    rcases blockAlong_object.1 hblock with ⟨rfl, rfl⟩ | ⟨hcol, hstands⟩
    · exact .inr ⟨rfl, rfl⟩
    · exact .inl ⟨hcol, rest, rfl, hstands⟩
  · rintro (⟨hcol, rest, rfl, hstands⟩ | ⟨rfl, rfl⟩)
    · exact ⟨rest, rfl, blockAlong_object.2 (.inr ⟨hcol, hstands⟩)⟩
    · exact ⟨[], rfl, blockAlong_object.2 (.inl ⟨rfl, rfl⟩)⟩

theorem lt_of_standsAmong {items : List Value} {index : Nat} {path : List Nat} {block : Fields}
    (h : StandsAmong items index path block) : ∃ i rest, path = i :: rest ∧ index ≤ i := by
  obtain ⟨item, i, rest, hmem, rfl, -⟩ := h
  exact ⟨i, rest, rfl, List.le_snd_of_mem_zipIdx hmem⟩

theorem blocksAmong_cons (v : Value) (rest : List Value) (index : Nat) :
    blocksAmong (v :: rest) index = blocksAmong [v] index ++ blocksAmong rest (index + 1) := by
  rw [blocksAmong, List.zipIdx_cons, ← List.singleton_append, List.filterMap_append]
  rfl

/-! ### Forests -/

/-- A forest has a node for each block among some items and addresses all that stand at and below
them. -/
structure Opened (id : String) (items : List Value) (index : Nat) (forest : Data.Forest) :
    Prop where
  lists : Lists id (blocksAmong items index) forest.1
  addresses : Addresses id (StandsAmong items index) (nodesOf forest) forest.2

theorem nodesOf_append (first more : Data.Forest) :
    (nodesOf (first.1 ++ more.1, first.2 ++ more.2)).Perm (nodesOf first ++ nodesOf more) := by
  simp only [nodesOf, List.flatMap_append, List.append_assoc]
  refine .append_left _ ?_
  rw [← List.append_assoc, ← List.append_assoc]
  exact List.perm_append_comm.append_right _

theorem nodesOf_columns (node : Node) (name : String) (below : Data.Forest) :
    (nodesOf ([node], below.2 ++ [(name, below.1)])).Perm (nodesOf below ++ [node]) := by
  simp only [nodesOf, List.flatMap_append, List.flatMap_singleton, List.singleton_append]
  exact (List.perm_append_comm.cons _).trans (List.perm_append_singleton node _).symm

theorem opened_forestOfItems {id : String} {items : List Value}
    (each : ∀ v ∈ items, ∀ index forest, Data.forestOf (childId id index) v = .ok forest →
      Opened id [v] index forest)
    {index : Nat} {forest : Data.Forest} (h : Data.forestOfItems id index items = .ok forest) :
    Opened id items index forest := by
  induction items generalizing index forest with
  | nil =>
    rw [Data.forestOfItems] at h
    cases h
    exact ⟨.nil, Addresses.nil.congr fun path block => by simp [StandsAmong]⟩
  | cons v rest ih =>
    obtain ⟨hv, each⟩ := List.forall_mem_cons.1 each
    rw [Data.forestOfItems] at h
    obtain ⟨first, hfirst, h⟩ := Outcome.bind_eq_ok_iff.1 h
    obtain ⟨more, hmore, h⟩ := Outcome.bind_eq_ok_iff.1 h
    cases h
    have hhead := hv index first hfirst
    have htail := ih each hmore
    refine ⟨?_, ((hhead.addresses.append htail.addresses ?_).perm (nodesOf_append first more)).congr
      fun path block => standsAmong_cons⟩
    · rw [blocksAmong_cons]
      exact List.rel_append hhead.lists htail.lists
    · -- positions in the rest are greater
      rintro path other block child hpath hother rfl
      obtain ⟨_, rfl, -⟩ := standsAmong_singleton.1 hpath
      obtain ⟨i, _, heq, hi⟩ := lt_of_standsAmong hother
      obtain ⟨rfl, -⟩ := List.cons.inj heq
      omega

theorem opened_forestOfList {id : String} {v : Value}
    (each : ∀ item ∈ v.items, ∀ index forest,
      Data.forestOf (childId id index) item = .ok forest → Opened id [item] index forest)
    {forest : Data.Forest} (h : Data.forestOfList id v = .ok forest) :
    Opened id v.items 0 forest := by
  cases v with
  | list items =>
    rw [Data.forestOfList] at h
    exact opened_forestOfItems each h
  | _ =>
    rw [Data.forestOfList] at h
    · cases h
      exact ⟨.nil, Addresses.nil.congr fun path block => by simp [StandsAmong, Value.items]⟩
    · intro items h
      cases h

/-- A block is opened as its node and all that lies below it, and anything else as nothing. -/
theorem opened_forestOf {v : Value} {id : String} {index : Nat} {forest : Data.Forest}
    (h : Data.forestOf (childId id index) v = .ok forest) : Opened id [v] index forest := by
  induction v using Value.inductionOnChildren generalizing id index forest with
  | step v ih =>
    cases v with
    | object fields =>
      rw [Data.forestOf, forestOfChildrenIn_eq] at h
      obtain ⟨node, hnode, h⟩ := Outcome.bind_eq_ok_iff.1 h
      have hof := isNodeOf_of_ofBlock hnode
      rw [hof.type_eq] at h
      split_ifs at h with hcol
      · obtain ⟨below, hbelow, h⟩ := Outcome.bind_eq_ok_iff.1 h
        cases h
        have hopened := opened_forestOfList (fun item hitem _ _ => ih item hitem) hbelow
        have hown := Addresses.columns hof hcol hopened.lists
        refine ⟨.cons hof .nil,
          ((hopened.addresses.below.append hown ?_).perm (nodesOf_columns node _ below)).congr
            fun path block => standsAmong_object.trans (or_congr_left (and_iff_right hcol))⟩
        rintro _ _ block child ⟨path, rfl, hpath⟩ ⟨rfl, -⟩ heq
        obtain ⟨_, _, rfl, -⟩ := lt_of_standsAmong hpath
        cases heq
      · cases h
        exact ⟨.cons hof .nil, (Addresses.leaf hof (Bool.eq_false_iff.2 hcol)).congr
          fun path block => standsAmong_object.trans (or_iff_right fun hc => hcol hc.1)⟩
    | _ =>
      rw [Data.forestOf] at h
      · cases h
        exact ⟨.nil, Addresses.nil.congr fun path block => by
          simp [standsAmong_singleton, blockAlong]⟩
      · intro fields h
        cases h

/-! ## The whole template -/

/-- Nodes and zones of the editor that are an addressing of the blocks of a template. -/
structure Data.IsAddressing (template : Value) (data : Data) : Prop where
  content : Lists "block" (blocksAmong (Fields.get template.fields "content").items 0) data.content
  ids : (data.nodes.map (·.id)).Nodup
  names : (data.zones.map (·.1)).Nodup ∧
    ∀ name, name ∈ data.zones.map (·.1) ↔ ∃ node ∈ data.nodes, ∃ id,
      isOfKind .columns node.type = true ∧ node.id = .text id ∧ name = zoneName id
  nodes : ∀ node ∈ data.nodes, ∃ path block,
    blockOfPath template path = some block ∧ IsNodeOf (idBelow "block" path) block node
  blocks : ∀ path block, blockOfPath template path = some block →
    (∃ node ∈ data.nodes, IsNodeOf (idBelow "block" path) block node) ∧
    (isOfKind .columns (block.get "type") = true → ∃ children,
      (zoneName (idBelow "block" path), children) ∈ data.zones ∧
        Lists (idBelow "block" path) (blocksAmong (block.get "children").items 0) children)
  count : data.nodes.length = {path | ∃ block, blockOfPath template path = some block}.ncard

theorem blockOfPath_eq_some_iff {template : Value} {path : List Nat} {block : Fields} :
    blockOfPath template path = some block ↔
      StandsAmong (Fields.get template.fields "content").items 0 path block := by
  cases path with
  | nil => exact ⟨nofun, fun ⟨_, _, _, _, hpath, _⟩ => nomatch hpath⟩
  | cons i path =>
    simp only [blockOfPath, StandsAmong, Option.bind_eq_some_iff, List.mk_mem_zipIdx_iff_getElem?,
      List.cons.injEq]
    constructor
    · rintro ⟨item, hitem, hblock⟩
      exact ⟨item, i, path, hitem, ⟨rfl, rfl⟩, hblock⟩
    · rintro ⟨item, _, _, hitem, ⟨rfl, rfl⟩, hblock⟩
      exact ⟨item, hitem, hblock⟩

namespace Addresses

variable {id : String} {stands : List Nat → Fields → Prop} {nodes : List Node}
  {zones : List (String × List Node)}

theorem mem_names_iff (h : Addresses id stands nodes zones) (name : String) :
    name ∈ zones.map (·.1) ↔ ∃ node ∈ nodes, ∃ id,
      isOfKind .columns node.type = true ∧ node.id = .text id ∧ name = zoneName id := by
  rw [h.names.mem_iff, List.mem_map]
  constructor
  · rintro ⟨node, hn, rfl⟩
    obtain ⟨hn, hcol⟩ := List.mem_filter.1 hn
    obtain ⟨path, block, -, hnode⟩ := h.placed hn
    refine ⟨node, hn, _, hcol, hnode.id_eq, ?_⟩
    rw [hnode.id_eq]
    rfl
  · rintro ⟨node, hn, id, hcol, hid, rfl⟩
    refine ⟨node, List.mem_filter.2 ⟨hn, hcol⟩, ?_⟩
    rw [hid]
    rfl

theorem nodup_names (h : Addresses id stands nodes zones) : (zones.map (·.1)).Nodup := by
  rw [h.names.nodup_iff]
  refine (h.nodup.of_map.filter _).map_on fun node hn other ho heq => ?_
  have hn := (List.mem_filter.1 hn).1
  have ho := (List.mem_filter.1 ho).1
  obtain ⟨_, _, -, hnode⟩ := h.placed hn
  obtain ⟨_, _, -, hother⟩ := h.placed ho
  have hplain := zoneName_injective heq
  rw [hnode.id_eq, hother.id_eq] at hplain
  have hid : node.id = other.id := by
    rw [hnode.id_eq, hother.id_eq]
    exact congrArg Value.text hplain
  exact List.inj_on_of_nodup_map h.nodup hn ho hid

/-- There are as many nodes as there are paths that lead to a block. -/
theorem length_eq (h : Addresses id stands nodes zones) :
    nodes.length = {path | ∃ block, stands path block}.ncard := by
  have hinj : Function.Injective fun path => Value.text (idBelow id path) := fun _ _ heq =>
    idBelow_injective id (Value.text.inj heq)
  have hids : (fun path => Value.text (idBelow id path)) '' {path | ∃ block, stands path block} =
      ((nodes.map (·.id)).toFinset : Set Value) := by
    ext v
    rw [Finset.mem_coe, List.mem_toFinset, List.mem_map]
    constructor
    · rintro ⟨path, ⟨block, hs⟩, rfl⟩
      obtain ⟨node, hn, hnode⟩ := h.shown hs
      exact ⟨node, hn, hnode.id_eq⟩
    · rintro ⟨node, hn, rfl⟩
      obtain ⟨path, block, hs, hnode⟩ := h.placed hn
      exact ⟨path, ⟨block, hs⟩, hnode.id_eq.symm⟩
  calc nodes.length
      = (nodes.map (·.id)).toFinset.card := by
        rw [List.toFinset_card_of_nodup h.nodup, List.length_map]
    _ = ((nodes.map (·.id)).toFinset : Set Value).ncard := (Set.ncard_coe_finset _).symm
    _ = {path | ∃ block, stands path block}.ncard := by
        rw [← hids, Set.ncard_image_of_injective _ hinj]

end Addresses

/-- Whatever a template holds, what the editor is given for it is an addressing of its blocks. -/
theorem Data.isAddressing_ofTemplate {template : Value} {data : Data}
    (h : Data.ofTemplate template = .ok data) : data.IsAddressing template := by
  rw [Data.ofTemplate] at h
  obtain ⟨⟨content, zones⟩, hforest, h⟩ := Outcome.bind_eq_ok_iff.1 h
  cases h
  have hopened := opened_forestOfList (fun item _ index forest => opened_forestOf) hforest
  have haddresses := hopened.addresses.congr fun path block => blockOfPath_eq_some_iff
  exact {
    content := hopened.lists
    ids := haddresses.nodup
    names := ⟨haddresses.nodup_names, haddresses.mem_names_iff⟩
    nodes := fun _ => haddresses.placed
    blocks := fun _ _ hblock => ⟨haddresses.shown hblock, haddresses.zones hblock⟩
    count := haddresses.length_eq }

/-- A draft in which blocks stand between all kinds of other values. One has props that are none,
and another has a list of children but is no columns. -/
def scatteredBlocks : Value :=
  let text : Value := .object [("type", .text "EmailText"), ("props", .null)]
  .object [("content", .list [.null, text, .object [("type", .text "EmailColumns"),
    ("children", .list [.int 3, .object [("type", .text "EmailColumns"), ("children", .null)],
      .object [("type", .null), ("children", .list [text])]])], .list [text], text])]

theorem isAddressing_ofTemplate_scatteredBlocks :
    ∃ data, Data.ofTemplate scatteredBlocks = .ok data ∧ data.IsAddressing scatteredBlocks ∧
      data.nodes.map (·.id.plain) = ["block-1", "block-2", "block-4", "block-2-1", "block-2-2"] ∧
      data.zones.map (·.1) = ["block-2-1:children", "block-2:children"] :=
  ⟨_, rfl, Data.isAddressing_ofTemplate rfl, rfl, rfl⟩

end EmailStudio.Editor
