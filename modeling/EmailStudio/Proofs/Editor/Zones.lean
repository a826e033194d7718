import EmailStudio.Proofs.Editor.Address
import EmailStudio.Proofs.Editor.Social

/-!
# The nodes and zones of blocks

What the editor is given for a sound block, in whatever form that is stored: one node, and the zones
of all columns at or below it (`IsStoredForm.forestOf_eq`). Every zone is named for the path that
leads to its columns, so that by `nodup_zonesFrom` no name stands for two zones.
-/

namespace EmailStudio.Editor

/-! ## Nodes and zones -/

/-- The props of the node of a block, its id apart. -/
def flatProps : Block → Fields
  | .social props => props.flatFields
  | block => block.props

def nodeOf (id : String) (b : Block) : Node :=
  ⟨.text b.kind.name, (flatProps b).set "id" (.text id)⟩

/-- The nodes of blocks that stand side by side, from an index on. -/
def nodesFrom (id : String) (index : Nat) : List Block → List Node
  | [] => []
  | b :: rest => nodeOf (childId id index) b :: nodesFrom id (index + 1) rest

mutual

/-- The zones at and below a block. -/
def zonesOf (id : String) : Block → List (String × List Node)
  | .columns _ children => zonesFrom id 0 children ++ [(zoneName id, nodesFrom id 0 children)]
  | _ => []

/-- The zones of blocks that stand side by side, from an index on. -/
def zonesFrom (id : String) (index : Nat) : List Block → List (String × List Node)
  | [] => []
  | b :: rest => zonesOf (childId id index) b ++ zonesFrom id (index + 1) rest

end

theorem zonesOf_eq (id : String) (b : Block) :
    zonesOf id b =
      if b.kind = .columns then
        zonesFrom id 0 b.children ++ [(zoneName id, nodesFrom id 0 b.children)]
      else [] := by
  cases b <;> simp [zonesOf, Block.kind, Block.children]

/-! ## Opening -/

theorem isOfKind_of_ofValue? {kind : Kind} {type : Value} (h : Kind.ofValue? type = some kind)
    (other : Kind) : isOfKind other type = decide (kind = other) := by
  simp only [isOfKind, h, Option.some.injEq]

theorem isOfKind_name (kind other : Kind) :
    isOfKind kind (.text other.name) = decide (other = kind) :=
  have htype : Kind.ofValue? (.text other.name) = some other := Kind.ofName?_name other
  isOfKind_of_ofValue? htype kind

theorem forestOfChildrenIn_eq (id : String) : ∀ fields : Fields,
    Data.forestOfChildrenIn id fields = Data.forestOfList id (fields.get "children")
  | [] => by simp [Data.forestOfChildrenIn, Fields.get, Fields.get?, Data.forestOfList]
  | (k, v) :: rest => by
    unfold Data.forestOfChildrenIn Fields.get Fields.get?
    split_ifs
    · rfl
    · exact forestOfChildrenIn_eq id rest

/-- Props that are those of the node of a block once its networks are spread. -/
def Flattens (b : Block) (props : Fields) : Prop :=
  if b.kind = .social then spreadNetworks props = .ok (flatProps b) else props = flatProps b

theorem ofBlock_eq {b : Block} {props : Fields} (h : Flattens b props) (id : String)
    (fields : Fields) (type : fields.get "type" = .text b.kind.name)
    (given : fields.get "props" = .object props) :
    Node.ofBlock id fields = .ok (nodeOf id b) := by
  simp only [Node.ofBlock, type, given, isOfKind_name, Value.fields, decide_eq_true_eq]
  unfold Flattens at h
  split_ifs at h ⊢
  · rw [h]
    rfl
  · rw [h]
    rfl

/-- A form in which blocks may be stored: it has their types, their children and props that flatten
to those of their nodes. -/
structure IsStoredForm (form : Block → Value) (props : Block → Fields) : Prop where
  eq : ∀ b, form b = .object ([("type", .text b.kind.name), ("props", .object (props b))]
    ++ if b.kind = .columns then [("children", .list (b.children.map form))] else [])
  flattens : ∀ b, b.PropsSound → Flattens b (props b)

theorem isStoredForm_toValue : IsStoredForm Block.toValue Block.props where
  eq := Block.toValue_eq
  flattens b h := by
    cases b with
    | social row => exact spreadNetworks_eq h rfl rfl
    | _ => rfl

variable {form : Block → Value} {props : Block → Fields}

theorem forestOfItems_map (id : String) (index : Nat) {bs : List Block}
    (each : ∀ b ∈ bs, ∀ id, Data.forestOf id (form b) = .ok ([nodeOf id b], zonesOf id b)) :
    Data.forestOfItems id index (bs.map form) =
      .ok (nodesFrom id index bs, zonesFrom id index bs) := by
  induction bs generalizing index with
  | nil => rw [List.map_nil, Data.forestOfItems, nodesFrom, zonesFrom]
  | cons b rest ih =>
    obtain ⟨hb, each⟩ := List.forall_mem_cons.1 each
    rw [List.map_cons, Data.forestOfItems, hb, ih _ each, nodesFrom, zonesFrom]
    rfl

/-- In whatever form it is stored, a sound block opens as its node and its zones. -/
theorem IsStoredForm.forestOf_eq (hform : IsStoredForm form props) {depth : Int} {b : Block}
    (h : b.Sound depth) (id : String) :
    Data.forestOf id (form b) = .ok ([nodeOf id b], zonesOf id b) := by
  induction b using Block.inductionOnChildren generalizing depth id with
  | step b ih =>
    have htype : isOfKind .columns (nodeOf id b).type = decide (b.kind = .columns) :=
      isOfKind_name _ _
    rw [hform.eq, Data.forestOf, ofBlock_eq (hform.flattens b h.props) id _ rfl rfl,
      forestOfChildrenIn_eq, zonesOf_eq]
    simp only [bind, Except.bind, htype]
    by_cases hcol : b.kind = .columns
    · have hchildren : Data.forestOfList id (.list (b.children.map form)) =
          .ok (nodesFrom id 0 b.children, zonesFrom id 0 b.children) :=
        forestOfItems_map id 0 fun child hc id => ih child hc (h.child hc) id
      rw [if_pos hcol, if_pos (decide_eq_true hcol), if_pos hcol]
      rw [show Fields.get _ "children" = .list (b.children.map form) from rfl, hchildren]
      rfl
    · rw [if_neg hcol, if_neg (by simp [hcol]), if_neg hcol]
      rfl

/-- The content of a sound template opens as the nodes and zones of its blocks. -/
theorem IsStoredForm.forestOfList_content (hform : IsStoredForm form props) {t : Template}
    (h : t.Sound) : Data.forestOfList "block" (.list (t.content.map form)) =
      .ok (nodesFrom "block" 0 t.content, zonesFrom "block" 0 t.content) :=
  forestOfItems_map "block" 0 fun b hb id => hform.forestOf_eq (h.content b hb) id

/-! ## Names of zones -/

theorem mem_zonesFrom {id name : String} : ∀ {index : Nat} {bs : List Block},
    name ∈ (zonesFrom id index bs).map (·.1) →
      ∃ i b, index ≤ i ∧ b ∈ bs ∧ name ∈ (zonesOf (childId id i) b).map (·.1)
  | _, [], h => by simp [zonesFrom] at h
  | index, b :: rest, h => by
    rw [zonesFrom, List.map_append, List.mem_append] at h
    rcases h with h | h
    · exact ⟨index, b, Nat.le_refl _, List.mem_cons_self, h⟩
    · obtain ⟨i, child, hi, hc, hname⟩ := mem_zonesFrom h
      exact ⟨i, child, Nat.le_of_succ_le hi, List.mem_cons_of_mem _ hc, hname⟩

/-- A zone at or below a block is named for the path that leads to it. -/
theorem exists_path_of_mem_zonesOf {id name : String} {b : Block}
    (h : name ∈ (zonesOf id b).map (·.1)) : ∃ path, name = zoneName (idBelow id path) := by
  induction b using Block.inductionOnChildren generalizing id with
  | step b ih =>
    rw [zonesOf_eq] at h
    split_ifs at h with hcol
    · rw [List.map_append, List.mem_append] at h
      rcases h with h | h
      · obtain ⟨i, child, -, hc, hname⟩ := mem_zonesFrom h
        obtain ⟨path, hpath⟩ := ih child hc hname
        exact ⟨i :: path, hpath⟩
      · exact ⟨[], List.mem_singleton.1 h⟩
    · cases h

theorem exists_path_of_mem_zonesFrom {id name : String} {index : Nat} {bs : List Block}
    (h : name ∈ (zonesFrom id index bs).map (·.1)) :
    ∃ i path, index ≤ i ∧ name = zoneName (idBelow id (i :: path)) := by
  obtain ⟨i, b, hi, -, hname⟩ := mem_zonesFrom h
  obtain ⟨path, hpath⟩ := exists_path_of_mem_zonesOf hname
  exact ⟨i, path, hi, hpath⟩

theorem nodup_zonesFrom_of {id : String} {bs : List Block}
    (each : ∀ b ∈ bs, ∀ id, ((zonesOf id b).map (·.1)).Nodup) (index : Nat) :
    ((zonesFrom id index bs).map (·.1)).Nodup := by
  induction bs generalizing index with
  | nil => exact List.nodup_nil
  | cons b rest ih =>
    obtain ⟨hb, each⟩ := List.forall_mem_cons.1 each
    rw [zonesFrom, List.map_append, List.nodup_append]
    refine ⟨hb _, ih each (index + 1), ?_⟩
    -- the paths part at the first step: at `index` on one side and later on the other
    rintro name hleft other hright rfl
    obtain ⟨path, hpath⟩ := exists_path_of_mem_zonesOf hleft
    obtain ⟨i, other, hi, hother⟩ := exists_path_of_mem_zonesFrom hright
    have hpath : name = zoneName (idBelow id (index :: path)) := hpath
    have heq := idBelow_injective id (zoneName_injective (hpath.symm.trans hother))
    have hstep : index = i := (List.cons.inj heq).1
    omega

/-- No two zones at or below a block have the same name. -/
theorem nodup_zonesOf (id : String) (b : Block) : ((zonesOf id b).map (·.1)).Nodup := by
  induction b using Block.inductionOnChildren generalizing id with
  | step b ih =>
    rw [zonesOf_eq]
    split_ifs with hcol
    · rw [List.map_append, List.nodup_append]
      refine ⟨nodup_zonesFrom_of ih 0, List.nodup_singleton _, ?_⟩
      rintro name hbelow own hown rfl
      obtain ⟨i, path, -, hpath⟩ := exists_path_of_mem_zonesFrom hbelow
      have hself : name = zoneName (idBelow id []) := List.mem_singleton.1 hown
      cases idBelow_injective id (zoneName_injective (hself.symm.trans hpath))
    · exact List.nodup_nil

/-- No two zones below an id have the same name. -/
theorem nodup_zonesFrom (id : String) (index : Nat) (bs : List Block) :
    ((zonesFrom id index bs).map (·.1)).Nodup :=
  nodup_zonesFrom_of (fun b _ id => nodup_zonesOf id b) index

end EmailStudio.Editor
