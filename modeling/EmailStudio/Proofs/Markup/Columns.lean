import EmailStudio.Markup.Block
import EmailStudio.Proofs.Validation.Soundness

/-!
# Blocks in columns

Spreading items over columns cuts their list into runs. The main result on runs is
`Columns.spread_eq_ok`: there is one run for each column, and the runs one after the other are the
items, so that none is lost, repeated or moved. The second part states what a block gives, inside
columns and as a section, in terms of its fragment and of the blocks that it holds.
-/

namespace EmailStudio.Columns

variable {α : Type}

@[simp] theorem length_runs (length count : Nat) (items : List α) :
    (runs length count items).length = count := by
  induction count generalizing items with
  | zero => rfl
  | succ count ih => rw [runs, List.length_cons, ih]

/-- Runs hold all items if there is room for them. -/
theorem flatten_runs {length count : Nat} {items : List α} (h : items.length ≤ length * count) :
    (runs length count items).flatten = items := by
  induction count generalizing items with
  | zero =>
    rw [Nat.mul_zero, Nat.le_zero, List.length_eq_zero_iff] at h
    rw [h]
    rfl
  | succ count ih =>
    have hdrop : (items.drop length).length ≤ length * count := by
      rw [List.length_drop]
      rw [Nat.mul_succ] at h
      omega
    rw [runs, List.flatten_cons, ih hdrop, List.take_append_drop]

theorem le_runLength_mul {size count : Nat} (h : 0 < count) :
    size ≤ runLength size count * count := by
  unfold runLength
  have hdiv := Nat.div_add_mod (size + count - 1) count
  have hmod := Nat.mod_lt (size + count - 1) h
  rw [Nat.mul_comm] at hdiv
  omega

/-- Items are spread over columns without losing, repeating or moving any. -/
theorem spread_eq_ok {count : Int} (h : 0 < count) (items : List α) :
    ∃ parts, spread items count = .ok parts ∧ parts.length = count.toNat ∧
      parts.flatten = items := by
  unfold spread
  have hcount : 0 < count.toNat := by omega
  by_cases hempty : items.isEmpty = true
  · rw [if_pos hempty]
    refine ⟨_, rfl, List.length_replicate, ?_⟩
    rw [List.flatten_replicate_nil, List.isEmpty_iff.1 hempty]
  · rw [if_neg hempty, if_neg (by omega)]
    exact ⟨_, rfl, length_runs _ _ _, flatten_runs (le_runLength_mul hcount)⟩

theorem runs_map {β : Type} (f : α → β) (length count : Nat) (items : List α) :
    runs length count (items.map f) = (runs length count items).map (·.map f) := by
  induction count generalizing items with
  | zero => rfl
  | succ count ih => rw [runs, runs, ← List.map_take, ← List.map_drop, ih, List.map_cons]

/-- Where an item goes depends on its position alone. -/
theorem spread_map {β : Type} (f : α → β) (items : List α) (count : Int) :
    spread (items.map f) count = (fun parts => parts.map (·.map f)) <$> spread items count := by
  unfold spread
  rw [List.isEmpty_map, List.length_map, runs_map]
  split_ifs
  · simp [Functor.map, Except.map]
  · rfl
  · rfl

theorem mem_of_mem_runs {length count : Nat} {items part : List α} {a : α}
    (hp : part ∈ runs length count items) (ha : a ∈ part) : a ∈ items := by
  induction count generalizing items with
  | zero => cases hp
  | succ count ih =>
    rcases List.mem_cons.1 hp with rfl | hp
    · exact List.mem_of_mem_take ha
    · exact List.mem_of_mem_drop (ih hp)

/-- What stands in the columns is some of the items. -/
theorem mem_of_mem_spread {count : Int} {items part : List α} {parts : List (List α)} {a : α}
    (h : spread items count = .ok parts) (hp : part ∈ parts) (ha : a ∈ part) : a ∈ items := by
  unfold spread at h
  split_ifs at h
  · cases h
    rw [List.eq_of_mem_replicate hp] at ha
    cases ha
  · cases h
    exact mem_of_mem_runs hp ha

end EmailStudio.Columns

namespace EmailStudio.Value

/-- A number equal to an integer amounts to that integer. -/
theorem toInteger_of_isWhole {v : Value} {n : Int} (h : v.isWhole n = true) :
    v.toInteger = .ok n := by
  have h := of_decide_eq_true h
  cases v with
  | int m => exact congrArg Except.ok (Rat.intCast_inj.1 (Option.some.inj h))
  | float x =>
    have hx : x.truncate? = some n := by
      unfold Binary64.truncate?
      rw [show x.toRat? = some (n : Rat) from h, Option.map_some, Rat.num_intCast, Rat.den_intCast]
      exact congrArg some (Int.tdiv_one n)
    simp only [toInteger, hx]
  | _ => cases h

end EmailStudio.Value

namespace EmailStudio

/-! ## Blocks that give nothing -/

/-- What a row gives: icons for the networks with an address, and nothing without them. -/
theorem SocialProps.fragment?_eq_ok {props : SocialProps} {row : Option Fragment}
    (h : props.fragment? = .ok row) :
    ∃ background icons, iconBackground props.iconStyle = .ok background ∧
      List.Forall₂
        (fun network symbol => icon props.iconSize.pixels background network = .ok symbol)
        (props.networks.filter (·.url.truthy)) icons ∧
      row = if icons.isEmpty then none else some ⟨.social props.align.plain
        (match props.iconStyle with
          | .text "color" => "vertical"
          | _ => "horizontal") icons, none, none⟩ := by
  simp only [SocialProps.fragment?, Outcome.bind_eq_ok_iff] at h
  obtain ⟨background, hbackground, icons, hicons, h⟩ := h
  refine ⟨background, icons, hbackground, Outcome.mapM_eq_ok_iff.1 hicons, ?_⟩
  split_ifs at h ⊢
  · exact (Outcome.pure_eq_ok_iff.1 h).symm
  · exact (Outcome.pure_eq_ok_iff.1 h).symm

theorem SocialProps.isSome_of_fragment? {props : SocialProps} {row : Option Fragment}
    (h : props.fragment? = .ok row) : row.isSome = props.networks.any (·.url.truthy) := by
  obtain ⟨background, icons, -, hicons, rfl⟩ := fragment?_eq_ok h
  have hempty : icons.isEmpty = (props.networks.filter (·.url.truthy)).isEmpty := by
    rw [Bool.eq_iff_iff, List.isEmpty_iff_length_eq_zero, List.isEmpty_iff_length_eq_zero,
      hicons.length_eq]
  cases ha : props.networks.any (·.url.truthy) with
  | true =>
    obtain ⟨network, hn, hurl⟩ := List.any_eq_true.1 ha
    have hne : (props.networks.filter (·.url.truthy)).isEmpty = false :=
      List.isEmpty_eq_false_iff_exists_mem.2 ⟨network, List.mem_filter.2 ⟨hn, hurl⟩⟩
    rw [hempty, hne]
    rfl
  | false =>
    have hnil : props.networks.filter (·.url.truthy) = [] :=
      List.filter_eq_nil_iff.2 (List.any_eq_false.1 ha)
    rw [hempty, hnil]
    rfl

end EmailStudio

namespace EmailStudio.Block

/-! ## Elements and sections -/

theorem elementsOfAll_eq : ∀ bs : List Block,
    elementsOfAll bs = (·.flatten) <$> bs.mapM elements
  | [] => rfl
  | b :: rest => by
    rw [elementsOfAll, elementsOfAll_eq rest, List.mapM_cons]
    cases elements b with
    | error fault => rfl
    | ok first => cases rest.mapM elements <;> rfl

theorem elements_of_kind_ne {b : Block} (h : b.kind ≠ .columns) :
    b.elements = b.fragment? >>= fun fragment => pure (fragment.toList.map (·.nested)) := by
  cases b <;> first | rfl | exact absurd rfl h

theorem section?_of_kind_ne {b : Block} (h : b.kind ≠ .columns) :
    b.section? = b.fragment? >>= fun fragment => pure (fragment.map (·.alone)) := by
  cases b <;> first | rfl | exact absurd rfl h

/-- Whether a block gives anything. -/
def gives : Block → Bool
  | social props => props.networks.any (·.url.truthy)
  | _ => true

theorem isSome_of_fragment? {b : Block} {fragment : Option Fragment} (hk : b.kind ≠ .columns)
    (h : b.fragment? = .ok fragment) : fragment.isSome = b.gives := by
  cases b with
  | columns props children => exact absurd rfl hk
  | social props => exact SocialProps.isSome_of_fragment? h
  | spacer props =>
    cases h
    rfl
  | _ =>
    obtain ⟨_, -, rfl⟩ := Outcome.map_eq_ok_iff.1 h
    rfl

theorem isSome_of_section? {b : Block} {part : Option Section} (h : b.section? = .ok part) :
    part.isSome = b.gives := by
  rcases b.eq_columns_or_kind_ne with ⟨props, children, rfl⟩ | hk
  · obtain ⟨_, -, rfl⟩ := Outcome.map_eq_ok_iff.1 h
    rfl
  · rw [section?_of_kind_ne hk] at h
    obtain ⟨fragment, hf, hpart⟩ := Outcome.bind_eq_ok_iff.1 h
    rw [← Outcome.pure_eq_ok_iff.1 hpart, Option.isSome_map, isSome_of_fragment? hk hf]

/-- The sections of blocks are those of the blocks that give anything. -/
theorem forall₂_sections {bs : List Block} {parts : List (Option Section)}
    (h : List.Forall₂ (fun b part => b.section? = .ok part) bs parts) :
    List.Forall₂ (fun b part => b.section? = .ok (some part)) (bs.filter gives)
      (parts.filterMap id) := by
  induction h with
  | nil => exact .nil
  | @cons b part bs parts hread _ ih =>
    have hgives := isSome_of_section? hread
    cases part with
    | none =>
      rw [List.filter_cons_of_neg (by rw [← hgives]; simp), List.filterMap_cons_none rfl]
      exact ih
    | some part =>
      rw [List.filter_cons_of_pos (by rw [← hgives]; simp), List.filterMap_cons_some (f := id) rfl]
      exact .cons hread ih

/-- The column that holds a run of blocks. -/
def column (props : ColumnsProps) (run : List Block) : Except Fault Column := do
  return ⟨[("vertical-align", props.verticalAlign.plain)], ← elementsOfAll run⟩

/-- The section of columns has a column for each run of its blocks. -/
theorem columnsSection_eq {props : ColumnsProps} {children : List Block} {count : Int}
    {parts : List (List Block)} (hcount : props.columns.toInteger = .ok count)
    (hparts : Columns.spread children count = .ok parts) :
    columnsSection props children =
      Section.mk (if props.stackOnMobile.truthy then [] else [("mj-class", "no-stack")]) <$>
        parts.mapM (column props) := by
  rw [columnsSection, hcount]
  simp only [bind, Except.bind, hparts]
  rfl

/-- Sound columns are counted by an integer of the catalog, and hold their blocks in runs. -/
theorem Sound.spread {depth : Int} {props : ColumnsProps} {children : List Block}
    (h : Sound depth (columns props children)) :
    ∃ (count : Int) (parts : List (List Block)),
      count ∈ Catalog.columnCounts ∧ props.columns.isWhole count = true ∧
      props.columns.toInteger = .ok count ∧ Columns.spread children count = .ok parts ∧
      parts.length = count.toNat ∧ parts.flatten = children := by
  have positive : ∀ count ∈ Catalog.columnCounts, 0 < count := by decide
  obtain ⟨count, hmem, hwhole⟩ := List.any_eq_true.1 (ColumnsProps.Sound.columns h.props)
  obtain ⟨parts, hparts, hlength, hflat⟩ := Columns.spread_eq_ok (positive count hmem) children
  exact ⟨count, parts, hmem, hwhole, Value.toInteger_of_isWhole hwhole, hparts, hlength, hflat⟩

end EmailStudio.Block
