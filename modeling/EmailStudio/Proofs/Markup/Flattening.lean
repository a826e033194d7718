import EmailStudio.Proofs.Markup.Order
import Mathlib.Logic.Relation

/-!
# Columns inside columns

No section can begin inside a column, so columns in there only pass on what they hold. Their markup
is put together level by level, and a block that gives nothing leaves no line behind. By
`joinFilled_joinLines` it does not matter at which level lines are joined.

The main result is `Block.textNested_flattens`: the markup of columns inside columns is that of the
leaves below them, and any regrouping of the blocks between the two leaves it as it is.
-/

namespace EmailStudio

/-! ## Lines that are not empty -/

/-- The lines that are not empty, one below the other. -/
def joinFilled (lines : List String) : String :=
  joinLines (lines.filter (· ≠ ""))

theorem joinLines_eq_empty_iff {lines : List String} (h : "" ∉ lines) :
    joinLines lines = "" ↔ lines = [] := by
  cases lines with
  | nil => exact iff_of_true rfl rfl
  | cons line lines =>
    have hline : line ≠ "" := fun heq => h (heq ▸ List.mem_cons_self)
    exact iff_of_false (joinLines_ne_empty hline lines) (List.cons_ne_nil line lines)

theorem joinFilled_eq_empty_iff {lines : List String} :
    joinFilled lines = "" ↔ lines.filter (· ≠ "") = [] :=
  joinLines_eq_empty_iff (by simp)

/-- Lines that are joined in groups, where a group may be empty, are the same as if they are joined
at once. -/
theorem joinFilled_joinLines {groups : List (List String)} (h : ∀ group ∈ groups, "" ∉ group) :
    joinFilled (groups.map joinLines) = joinLines groups.flatten := by
  induction groups with
  | nil => rfl
  | cons group groups ih =>
    obtain ⟨hgroup, h⟩ := List.forall_mem_cons.1 h
    have ih := ih h
    have hflat : "" ∉ groups.flatten := fun hmem =>
      let ⟨other, hother, hmem⟩ := List.mem_flatten.1 hmem
      h other hother hmem
    have hrest : (groups.map joinLines).filter (· ≠ "") = [] ↔ groups.flatten = [] := by
      rw [← joinFilled_eq_empty_iff, ih, joinLines_eq_empty_iff hflat]
    rw [List.map_cons, List.flatten_cons]
    by_cases hnil : group = []
    · rw [hnil, List.nil_append, ← ih]
      exact congrArg joinLines (List.filter_cons_of_neg (by simp [joinLines]))
    · have hjoined : joinLines group ≠ "" := mt (joinLines_eq_empty_iff hgroup).1 hnil
      rw [joinFilled, List.filter_cons_of_pos (by simpa using hjoined)]
      by_cases hempty : groups.flatten = []
      · rw [hrest.2 hempty, hempty, List.append_nil, joinLines_singleton]
      · rw [joinLines_cons (mt hrest.1 hempty), joinLines_append hnil hempty, ← ih]
        rfl

theorem Element.text_ne_empty (e : Element) : e.text ≠ "" := by
  cases e with
  | plain tag attributes body =>
    exact joinLines_ne_empty (fun h => absurd (String.append_eq_empty_iff.1 h).1 (by decide)) _
  | social align mode icons =>
    refine joinLines_ne_empty (fun h => ?_) _
    rw [String.append_assoc, String.append_eq_empty_iff] at h
    exact absurd h.1 (by decide)

namespace Block

/-! ## Joining level by level -/

/-- The texts of blocks inside columns, joined, are those of all their elements. -/
theorem joinFilled_textNested (bs : List Block) :
    joinFilled <$> bs.mapM textNested =
      (fun es => joinLines (es.map (·.text))) <$> elementsOfAll bs := by
  have hmap : bs.mapM textNested =
      List.map (fun es => joinLines (es.map (·.text))) <$> bs.mapM elements := by
    induction bs with
    | nil => rfl
    | cons b bs ih =>
      rw [List.mapM_cons, List.mapM_cons, ih, textNested]
      cases b.elements with
      | error fault => rfl
      | ok es => cases bs.mapM elements <;> rfl
  rw [hmap, elementsOfAll_eq]
  cases bs.mapM elements with
  | error fault => rfl
  | ok parts =>
    have hfilled : ∀ texts ∈ parts.map (·.map Element.text), "" ∉ texts := by
      intro texts htexts hmem
      obtain ⟨es, -, rfl⟩ := List.mem_map.1 htexts
      obtain ⟨e, -, he⟩ := List.mem_map.1 hmem
      exact e.text_ne_empty he
    have hjoin := joinFilled_joinLines hfilled
    rw [List.map_map, ← List.map_flatten] at hjoin
    exact congrArg Except.ok hjoin

theorem elementsOfAll_append (bs cs : List Block) :
    elementsOfAll (bs ++ cs) = do return (← elementsOfAll bs) ++ (← elementsOfAll cs) := by
  induction bs with
  | nil => rw [List.nil_append, elementsOfAll]; cases elementsOfAll cs <;> rfl
  | cons b bs ih =>
    rw [List.cons_append, elementsOfAll, elementsOfAll, ih]
    cases b.elements with
    | error fault => rfl
    | ok first =>
      cases elementsOfAll bs with
      | error fault => rfl
      | ok second =>
        cases elementsOfAll cs with
        | error fault => rfl
        | ok third => exact congrArg Except.ok (List.append_assoc first second third).symm

theorem elementsOfAll_leavesOfAll_of {bs : List Block}
    (h : ∀ b ∈ bs, elementsOfAll b.leaves = b.elements) :
    elementsOfAll (leavesOfAll bs) = elementsOfAll bs := by
  induction bs with
  | nil => rfl
  | cons b bs ih =>
    obtain ⟨hb, h⟩ := List.forall_mem_cons.1 h
    rw [leavesOfAll, elementsOfAll_append, hb, ih h, elementsOfAll]

/-- A block gives the elements of its leaves, or fails as the first of them that fails. -/
theorem elementsOfAll_leaves (b : Block) : elementsOfAll b.leaves = b.elements := by
  induction b using inductionOnChildren with
  | step b ih =>
    rcases b.eq_columns_or_kind_ne with ⟨props, children, rfl⟩ | hk
    · exact elementsOfAll_leavesOfAll_of ih
    · rw [leaves_of_kind_ne hk, elementsOfAll, elementsOfAll]
      cases b.elements with
      | error fault => rfl
      | ok es => exact congrArg Except.ok (List.append_nil es)

theorem elementsOfAll_leavesOfAll (bs : List Block) :
    elementsOfAll (leavesOfAll bs) = elementsOfAll bs :=
  elementsOfAll_leavesOfAll_of fun b _ => elementsOfAll_leaves b

/-! ## Regrouping -/

/-- One step of regrouping blocks: some columns, at any depth, get other props, or their children
take their place. -/
inductive Regroups : List Block → List Block → Prop
  | props (old new : ColumnsProps) (children rest : List Block) :
      Regroups (columns old children :: rest) (columns new children :: rest)
  | unfold (props : ColumnsProps) (children rest : List Block) :
      Regroups (columns props children :: rest) (children ++ rest)
  | inside {children others : List Block} (props : ColumnsProps) (rest : List Block)
      (below : Regroups children others) :
      Regroups (columns props children :: rest) (columns props others :: rest)
  | later {rest others : List Block} (b : Block) (behind : Regroups rest others) :
      Regroups (b :: rest) (b :: others)

/-- The leaves are not regrouped. -/
theorem Regroups.leavesOfAll_eq {bs others : List Block} (h : Regroups bs others) :
    leavesOfAll bs = leavesOfAll others := by
  induction h with
  | props => rfl
  | unfold props children rest =>
    rw [leavesOfAll, leaves, Block.leavesOfAll_eq, Block.leavesOfAll_eq, Block.leavesOfAll_eq,
      List.flatMap_append]
  | inside props rest _ ih => rw [leavesOfAll, leavesOfAll, leaves, leaves, ih]
  | later b _ ih => rw [leavesOfAll, leavesOfAll, ih]

theorem elementsOfAll_eq_of_regroups {bs others : List Block}
    (h : Relation.ReflTransGen Regroups bs others) : elementsOfAll others = elementsOfAll bs := by
  induction h with
  | refl => rfl
  | tail _ step ih =>
    rw [← ih, ← elementsOfAll_leavesOfAll, ← step.leavesOfAll_eq, elementsOfAll_leavesOfAll]

/-- The markup of columns inside columns is that of their children, joined without empty lines. It
is also that of all blocks below them that are no columns, in the order of the document; and neither
the props of any columns nor the columns that lie between count. -/
theorem textNested_flattens (props : ColumnsProps) (children : List Block) :
    (columns props children).textNested = joinFilled <$> children.mapM textNested ∧
    (columns props children).textNested = joinFilled <$> (leavesOfAll children).mapM textNested ∧
    ∀ (other : ColumnsProps) (others : List Block), Relation.ReflTransGen Regroups children others →
      (columns other others).textNested = (columns props children).textNested := by
  have htext (props : ColumnsProps) (children : List Block) :
      (columns props children).textNested =
        (fun es => joinLines (es.map (·.text))) <$> elementsOfAll children := rfl
  refine ⟨?_, ?_, fun other others h => ?_⟩
  · rw [joinFilled_textNested, htext]
  · rw [joinFilled_textNested, elementsOfAll_leavesOfAll, htext]
  · rw [htext, htext, elementsOfAll_eq_of_regroups h]

/-- A space with a row without icons behind it, and a space between columns below. -/
def scatteredSpaces : List Block :=
  [.columns (.ofFields []) [.spacer (.ofFields []), .social ⟨[], .int 32, .null, .null⟩],
    .columns (.ofFields [("columns", .text "three")])
      [.columns (.ofFields []) [.spacer (.ofFields [("height", .int 8)])]]]

/-- The same blocks without the columns between. -/
def spacesInRow : List Block :=
  [.spacer (.ofFields []), .social ⟨[], .int 32, .null, .null⟩,
    .spacer (.ofFields [("height", .int 8)])]

theorem regroups_scatteredSpaces : Relation.ReflTransGen Regroups scatteredSpaces spacesInRow :=
  .head (.unfold _ _ _) <| .head (.later _ <| .later _ <| .inside _ _ <| .unfold _ _ _) <|
    .single (.later _ <| .later _ <| .unfold _ _ _)

theorem textNested_flattens_scatteredSpaces :
    Relation.ReflTransGen Regroups scatteredSpaces spacesInRow ∧
      (columns (.ofFields []) spacesInRow).textNested =
        (columns (.ofFields []) scatteredSpaces).textNested ∧
      (columns (.ofFields []) scatteredSpaces).textNested =
        .ok (joinLines ["        <mj-spacer", "          height=\"20px\"", "        />",
          "        <mj-spacer", "          height=\"8px\"", "        />"]) :=
  ⟨regroups_scatteredSpaces,
    (textNested_flattens _ _).2.2 _ _ regroups_scatteredSpaces, rfl⟩

end Block

end EmailStudio
