import EmailStudio.Document.Template
import EmailStudio.Proofs.Outcome
import Mathlib.Tactic.SplitIfs

/-!
# Reading documents

A block is read from the first field of each name, and its children from the items of one of them.
`Value.inductionOnChildren` is the induction that follows: every function on the blocks of a value
goes down along `Value.children`. The main results are `Block.ofValue_toValue` and
`Template.ofValue_toValue`: what was read once reads the same again from its stored form.
-/

namespace EmailStudio

namespace Fields

theorem mem_of_get? {key : String} {v : Value} :
    ∀ {fields : Fields}, fields.get? key = some v → (key, v) ∈ fields
  | (k, w) :: rest, h => by
    unfold get? at h
    split_ifs at h with hk
    · cases h
      rw [hk]
      exact List.mem_cons_self
    · exact List.mem_cons_of_mem _ (mem_of_get? h)

theorem get?_of_get {fields : Fields} {key : String} {v : Value} (h : fields.get key = v)
    (hv : v ≠ .null) : fields.get? key = some v := by
  unfold get at h
  cases hg : fields.get? key with
  | none =>
    rw [hg] at h
    exact absurd h.symm hv
  | some w =>
    rw [hg] at h
    exact congrArg some h

theorem sizeOf_get_lt (fields : Fields) (key : String) :
    sizeOf (fields.get key) < sizeOf (Value.object fields) := by
  unfold get
  cases h : fields.get? key with
  | none =>
    simp only [Option.getD_none, Value.null.sizeOf_spec, Value.object.sizeOf_spec]
    cases fields with
    | nil => simp
    | cons field rest => simp only [List.cons.sizeOf_spec]; omega
  | some v =>
    have := List.sizeOf_lt_of_mem (mem_of_get? h)
    simp only [Prod.mk.sizeOf_spec] at this
    simp only [Option.getD_some, Value.object.sizeOf_spec]
    omega

theorem given_ne_null {fields : Fields} {key : String} {default : Value} (h : default ≠ .null) :
    fields.given key default ≠ .null := by
  unfold given
  split
  · exact h
  · assumption

theorem given_eq_of_get {fields : Fields} {key : String} {v default : Value}
    (h : fields.get key = v) (hv : v ≠ .null) : fields.given key default = v := by
  unfold given
  rw [h]
  split
  · contradiction
  · rfl

/-- An object with no fields counts as left out, and then reads as no fields as well. -/
theorem objectAt_of_get {fields inner : Fields} {key : String}
    (h : fields.get key = .object inner) : fields.objectAt key = .ok inner := by
  unfold objectAt
  rw [h]
  cases inner <;> rfl

end Fields

/-! ## Children -/

namespace Value

/-- The values that stand as children in a value. -/
def children (v : Value) : List Value :=
  (Fields.get v.fields "children").items

theorem sizeOf_items_lt {v item : Value} (h : item ∈ v.items) : sizeOf item < sizeOf v := by
  cases v with
  | list items =>
    have := List.sizeOf_lt_of_mem (show item ∈ items from h)
    simp only [list.sizeOf_spec]
    omega
  | _ => simp [items] at h

theorem sizeOf_children_lt {v child : Value} (h : child ∈ v.children) :
    sizeOf child < sizeOf v := by
  cases v with
  | object fields => exact Nat.lt_trans (sizeOf_items_lt h) (Fields.sizeOf_get_lt fields _)
  | _ => simp [children, Value.fields, Fields.get, Fields.get?, items] at h

@[elab_as_elim]
theorem inductionOnChildren {P : Value → Prop} (step : ∀ v, (∀ child ∈ v.children, P child) → P v)
    (v : Value) : P v :=
  step v fun child h =>
    have := sizeOf_children_lt h
    inductionOnChildren step child
termination_by sizeOf v

theorem orElse_of_truthy {v default : Value} (h : v.truthy = true) : v.orElse default = v := by
  unfold orElse
  rw [if_pos h]

theorem orElse_orElse (v default : Value) :
    (v.orElse default).orElse default = v.orElse default := by
  unfold orElse
  split_ifs <;> rfl

end Value

namespace Block

/-- The blocks that a block holds. -/
def children : Block → List Block
  | columns _ children => children
  | _ => []

@[elab_as_elim]
theorem inductionOnChildren {P : Block → Prop} (step : ∀ b, (∀ child ∈ b.children, P child) → P b)
    (b : Block) : P b :=
  step b fun child h =>
    have : sizeOf child < sizeOf b := by
      cases b with
      | columns props children =>
        have := List.sizeOf_lt_of_mem (show child ∈ children from h)
        simp only [columns.sizeOf_spec]
        omega
      | _ => simp [children] at h
    inductionOnChildren step child
termination_by sizeOf b

theorem childrenIn_eq_listIn : ∀ fields : Fields, childrenIn fields = listIn (fields.get "children")
  | [] => by simp [childrenIn, Fields.get, Fields.get?, listIn, Value.truthy]
  | (k, v) :: rest => by
    unfold childrenIn Fields.get Fields.get?
    split_ifs
    · rfl
    · exact childrenIn_eq_listIn rest

theorem ofItems_eq_ok_iff : ∀ {vs : List Value} {bs : List Block},
    ofItems vs = .ok bs ↔ List.Forall₂ (fun v b => ofValue v = .ok b) vs bs
  | [], bs => by rw [List.forall₂_nil_left_iff, ofItems, Except.ok.injEq, eq_comm]
  | v :: rest, bs => by
    rw [List.forall₂_cons_left_iff, ofItems, Outcome.bind_eq_ok_iff]
    simp only [Outcome.bind_eq_ok_iff, Outcome.pure_eq_ok_iff, ofItems_eq_ok_iff]
    constructor
    · rintro ⟨b, hb, bs, hbs, rfl⟩
      exact ⟨b, bs, hb, hbs, rfl⟩
    · rintro ⟨b, bs, hb, hbs, rfl⟩
      exact ⟨b, hb, bs, hbs, rfl⟩

theorem ofItems_of_listIn {v : Value} {bs : List Block} (h : listIn v = .ok bs) :
    ofItems v.items = .ok bs := by
  cases v with
  | list items => exact h
  | _ =>
    simp only [listIn] at h
    split_ifs at h
    exact h

theorem toItems_eq_map : ∀ bs : List Block, toItems bs = bs.map toValue
  | [] => by rw [toItems, List.map_nil]
  | b :: rest => by rw [toItems, List.map_cons, toItems_eq_map rest]

theorem toValue_eq (b : Block) :
    b.toValue = .object ([("type", .text b.kind.name), ("props", .object b.props)]
      ++ if b.kind = .columns then [("children", .list (b.children.map toValue))] else []) := by
  cases b <;> simp [toValue, kind, props, children, toItems_eq_map]

/-! ## Reading one block -/

theorem withChildren_children (b : Block) : b.withChildren b.children = b := by
  cases b <;> rfl

theorem withChildren_withChildren (b : Block) (before after : List Block) :
    (b.withChildren before).withChildren after = b.withChildren after := by
  cases b <;> rfl

theorem eq_columns_or_kind_ne (b : Block) :
    (∃ props children, b = columns props children) ∨ b.kind ≠ .columns := by
  cases b with
  | columns props children => exact .inl ⟨props, children, rfl⟩
  | _ => exact .inr nofun

theorem withChildren_of_kind_ne {b : Block} (h : b.kind ≠ .columns) (bs : List Block) :
    b.withChildren bs = b := by
  cases b <;> first | rfl | exact absurd rfl h

@[simp] theorem kind_withChildren (b : Block) (bs : List Block) :
    (b.withChildren bs).kind = b.kind := by
  cases b <;> rfl

@[simp] theorem props_withChildren (b : Block) (bs : List Block) :
    (b.withChildren bs).props = b.props := by
  cases b <;> rfl

theorem children_withChildren {b : Block} (h : b.kind = .columns) (bs : List Block) :
    (b.withChildren bs).children = bs := by
  cases b <;> first | rfl | cases h

theorem children_of_kind_ne {b : Block} (h : b.kind ≠ .columns) : b.children = [] := by
  cases b <;> first | rfl | exact absurd rfl h

theorem kindOf_eq_ok_iff {fields : Fields} {kind : Kind} :
    kindOf fields = .ok kind ↔ Kind.ofValue? (fields.get "type") = some kind := by
  unfold kindOf Fields.get
  cases fields.get? "type" with
  | none => simp [Kind.ofValue?]
  | some v =>
    simp only [Option.getD_some]
    cases Kind.ofValue? v <;> simp

/-- A block is read from its kind, its props and, for columns, the items of its children. -/
theorem ofValue_object {fields props : Fields} {kind : Kind} {bare : Block}
    (hk : kindOf fields = .ok kind) (hp : fields.objectAt "props" = .ok props)
    (hb : ofProps kind props = .ok bare) :
    ofValue (.object fields) =
      if kind = .columns then bare.withChildren <$> listIn (fields.get "children")
      else .ok bare := by
  rw [ofValue, hk, hp, childrenIn_eq_listIn]
  simp only [bind, Except.bind, hb]
  rfl

theorem ofValue_eq_ok {v : Value} {b : Block} (h : ofValue v = .ok b) :
    ∃ (fields : Fields) (kind : Kind) (props : Fields) (bare : Block),
      v = .object fields ∧ kindOf fields = .ok kind ∧ fields.objectAt "props" = .ok props ∧
      ofProps kind props = .ok bare ∧
      (if kind = .columns then bare.withChildren <$> listIn (fields.get "children")
        else .ok bare) = .ok b := by
  cases v with
  | object fields =>
    have h' := h
    rw [ofValue] at h
    obtain ⟨kind, hk, h⟩ := Outcome.bind_eq_ok_iff.1 h
    obtain ⟨props, hp, h⟩ := Outcome.bind_eq_ok_iff.1 h
    obtain ⟨bare, hb, -⟩ := Outcome.bind_eq_ok_iff.1 h
    exact ⟨fields, kind, props, bare, rfl, hk, hp, hb, by rw [← ofValue_object hk hp hb, h']⟩
  | _ => simp [ofValue] at h

/-- A block is read from an object that spells out its kind, its props and its children. -/
theorem ofValue_object_of {b : Block} {props : Fields} {items : List Value}
    (hp : ofProps b.kind props = .ok (b.withChildren []))
    (hc : List.Forall₂ (fun item child => ofValue item = .ok child) items b.children) :
    ofValue (.object ([("type", .text b.kind.name), ("props", .object props)]
      ++ if b.kind = .columns then [("children", .list items)] else [])) = .ok b := by
  have hk : kindOf ([("type", .text b.kind.name), ("props", .object props)]
      ++ if b.kind = .columns then [("children", .list items)] else []) =
      .ok b.kind := kindOf_eq_ok_iff.2 (Kind.ofName?_name b.kind)
  rw [ofValue_object hk (Fields.objectAt_of_get rfl) hp]
  split_ifs with h
  · have hl : listIn (Fields.get ([("type", .text b.kind.name), ("props", .object props)]
        ++ [("children", .list items)]) "children") = .ok b.children := ofItems_eq_ok_iff.2 hc
    rw [hl]
    simp only [Functor.map, Except.map, withChildren_withChildren, withChildren_children]
  · rw [withChildren_of_kind_ne h]

theorem ofValue_toValue_of {b : Block} (hp : ofProps b.kind b.props = .ok (b.withChildren []))
    (hc : ∀ child ∈ b.children, ofValue child.toValue = .ok child) : ofValue b.toValue = .ok b := by
  rw [toValue_eq]
  refine ofValue_object_of hp ?_
  rw [List.forall₂_map_left_iff, List.forall₂_same]
  exact hc

end Block

/-! ## Stored props -/

theorem HeaderProps.ofFields_toFields (fields : Fields) :
    ofFields (ofFields fields).toFields = ofFields fields := by
  simp only [ofFields, HeaderProps.mk.injEq]
  refine ⟨?_, ?_, ?_, ?_, ?_, ?_⟩ <;>
    exact Fields.given_eq_of_get rfl (Fields.given_ne_null (by simp))

theorem TextProps.ofFields_toFields (fields : Fields) :
    ofFields (ofFields fields).toFields = ofFields fields := by
  simp only [ofFields, TextProps.mk.injEq]
  refine ⟨?_, ?_, ?_, ?_, ?_, ?_, ?_⟩ <;>
    exact Fields.given_eq_of_get rfl (Fields.given_ne_null (by simp))

/-- The link of an image is the one prop that may stay null; it is left out then. -/
theorem ImageProps.ofFields_toFields (fields : Fields) :
    ofFields (ofFields fields).toFields = ofFields fields := by
  cases h : fields.get "href" with
  | null =>
    simp only [ofFields, toFields, h, ImageProps.mk.injEq]
    refine ⟨?_, ?_, ?_, ?_, rfl, ?_⟩ <;>
      exact Fields.given_eq_of_get rfl (Fields.given_ne_null (by simp))
  | _ =>
    simp only [ofFields, toFields, h, ImageProps.mk.injEq]
    refine ⟨?_, ?_, ?_, ?_, rfl, ?_⟩ <;>
      exact Fields.given_eq_of_get rfl (Fields.given_ne_null (by simp))

theorem ButtonProps.ofFields_toFields (fields : Fields) :
    ofFields (ofFields fields).toFields = ofFields fields := by
  simp only [ofFields, ButtonProps.mk.injEq]
  refine ⟨?_, ?_, ?_, ?_, ?_, ?_, ?_, ?_, ?_⟩ <;>
    exact Fields.given_eq_of_get rfl (Fields.given_ne_null (by simp))

theorem ColumnsProps.ofFields_toFields (fields : Fields) :
    ofFields (ofFields fields).toFields = ofFields fields := by
  simp only [ofFields, ColumnsProps.mk.injEq]
  refine ⟨?_, ?_, ?_, ?_⟩ <;>
    exact Fields.given_eq_of_get rfl (Fields.given_ne_null (by simp))

theorem SpacerProps.ofFields_toFields (fields : Fields) :
    ofFields (ofFields fields).toFields = ofFields fields := by
  simp only [ofFields, SpacerProps.mk.injEq]
  exact Fields.given_eq_of_get rfl (Fields.given_ne_null (by simp))

theorem DividerProps.ofFields_toFields (fields : Fields) :
    ofFields (ofFields fields).toFields = ofFields fields := by
  simp only [ofFields, DividerProps.mk.injEq]
  refine ⟨?_, ?_, ?_, ?_⟩ <;>
    exact Fields.given_eq_of_get rfl (Fields.given_ne_null (by simp))

theorem FooterProps.ofFields_toFields (fields : Fields) :
    ofFields (ofFields fields).toFields = ofFields fields := by
  simp only [ofFields, FooterProps.mk.injEq]
  refine ⟨?_, ?_, ?_, ?_, ?_, ?_⟩ <;>
    exact Fields.given_eq_of_get rfl (Fields.given_ne_null (by simp))

/-! ### Social networks -/

namespace SocialNetwork

/-- An entry that says its network, and whose address is empty if it is not given. -/
def IsGiven (network : SocialNetwork) : Prop :=
  network.type.truthy = true ∧ network.url.orElse (.text "") = network.url

theorem isGiven_of_ofItem? {v : Value} {network : SocialNetwork} (h : ofItem? v = some network) :
    network.IsGiven := by
  unfold ofItem? at h
  split at h
  · split_ifs at h with ht
    cases h
    exact ⟨ht, Value.orElse_orElse _ _⟩
  · cases h

theorem ofItem?_toValue {network : SocialNetwork} (h : network.IsGiven) :
    ofItem? network.toValue = some network := by
  obtain ⟨type, url⟩ := network
  obtain ⟨ht, hu⟩ := h
  simp only [ofItem?, toValue]
  rw [if_pos (show (Fields.get [("type", type), ("url", url)] "type").truthy = true from ht)]
  exact congrArg (fun u => some (SocialNetwork.mk type u)) hu

end SocialNetwork

namespace SocialProps

theorem mem_flatNetworks {listed : List SocialNetwork} {fields : Fields} {network : SocialNetwork}
    (h : network ∈ flatNetworks listed fields) :
    ∃ name ∈ Catalog.socialNetworks, network.type = .text name ∧
      network.url = fields.get (Catalog.urlField name) ∧ network.url.truthy = true := by
  unfold flatNetworks at h
  obtain ⟨name, hn, hs⟩ := List.mem_filterMap.1 h
  simp only at hs
  split_ifs at hs with hu
  cases hs
  simp only [Bool.and_eq_true] at hu
  exact ⟨name, hn, rfl, rfl, hu.1⟩

theorem flatNetworks_eq_nil {listed : List SocialNetwork} {fields : Fields}
    (h : ∀ name ∈ Catalog.socialNetworks, fields.get (Catalog.urlField name) = .null) :
    flatNetworks listed fields = [] := by
  unfold flatNetworks
  rw [List.filterMap_eq_nil_iff]
  intro name hn
  simp only [h name hn]
  rfl

theorem isGiven_of_mem_flatNetworks {listed : List SocialNetwork} {fields : Fields}
    {network : SocialNetwork} (h : network ∈ flatNetworks listed fields) : network.IsGiven := by
  obtain ⟨name, hn, ht, -, hu⟩ := mem_flatNetworks h
  have truthy : ∀ name ∈ Catalog.socialNetworks, (Value.text name).truthy = true := by decide
  refine ⟨?_, Value.orElse_of_truthy hu⟩
  rw [ht]
  exact truthy name hn

/-- What was read from the fields of a row: its networks, and that each says what it is of. -/
theorem ofFields_eq_ok {fields : Fields} {props : SocialProps} (h : ofFields fields = .ok props) :
    props = {
      networks := (fields.get "networks").items.filterMap SocialNetwork.ofItem? ++
        flatNetworks ((fields.get "networks").items.filterMap SocialNetwork.ofItem?) fields
      iconSize := (fields.get "iconSize").orElse (.int 32)
      align := (fields.get "align").orElse (.text "center")
      iconStyle := (fields.get "iconStyle").orElse (.text "color") } ∧
      ((fields.get "networks").items.filterMap SocialNetwork.ofItem?).all (·.hasKeyType) =
        true := by
  unfold ofFields at h
  simp only at h
  split_ifs at h with hk
  cases h
  exact ⟨rfl, hk⟩

theorem isGiven_of_mem_networks {fields : Fields} {props : SocialProps}
    (h : ofFields fields = .ok props) {network : SocialNetwork} (hn : network ∈ props.networks) :
    network.IsGiven := by
  rw [(ofFields_eq_ok h).1] at hn
  rcases List.mem_append.1 hn with hn | hn
  · obtain ⟨item, -, hi⟩ := List.mem_filterMap.1 hn
    exact SocialNetwork.isGiven_of_ofItem? hi
  · exact isGiven_of_mem_flatNetworks hn

theorem hasKeyType_of_mem_networks {fields : Fields} {props : SocialProps}
    (h : ofFields fields = .ok props) {network : SocialNetwork} (hn : network ∈ props.networks) :
    network.hasKeyType = true := by
  obtain ⟨hp, hk⟩ := ofFields_eq_ok h
  rw [hp] at hn
  rcases List.mem_append.1 hn with hn | hn
  · exact List.all_eq_true.1 hk network hn
  · obtain ⟨name, -, ht, -⟩ := mem_flatNetworks hn
    simp only [SocialNetwork.hasKeyType, ht]

theorem filterMap_ofItem?_map_toValue {networks : List SocialNetwork}
    (h : ∀ network ∈ networks, network.IsGiven) :
    (networks.map (·.toValue)).filterMap SocialNetwork.ofItem? = networks := by
  rw [List.filterMap_map]
  conv_rhs => rw [← List.filterMap_some (l := networks)]
  exact List.filterMap_congr fun network hn => SocialNetwork.ofItem?_toValue (h network hn)

/-- A row in which nothing is left to be filled in. -/
structure IsGiven (props : SocialProps) : Prop where
  networks : ∀ network ∈ props.networks, network.IsGiven ∧ network.hasKeyType = true
  iconSize : props.iconSize.orElse (.int 32) = props.iconSize
  align : props.align.orElse (.text "center") = props.align
  iconStyle : props.iconStyle.orElse (.text "color") = props.iconStyle

theorem isGiven_of_ofFields {fields : Fields} {props : SocialProps}
    (h : ofFields fields = .ok props) : props.IsGiven := by
  have hp := (ofFields_eq_ok h).1
  refine ⟨fun network hn => ⟨isGiven_of_mem_networks h hn, hasKeyType_of_mem_networks h hn⟩,
    ?_, ?_, ?_⟩
  all_goals
    rw [hp]
    exact Value.orElse_orElse _ _

theorem IsGiven.ofFields_toFields {props : SocialProps} (h : props.IsGiven) :
    ofFields props.toFields = .ok props := by
  have listed : (Fields.get props.toFields "networks").items.filterMap SocialNetwork.ofItem? =
      props.networks := filterMap_ofItem?_map_toValue fun network hn => (h.networks network hn).1
  have flat : flatNetworks props.networks props.toFields = [] :=
    flatNetworks_eq_nil (show ∀ name ∈ Catalog.socialNetworks,
      Fields.get props.toFields (Catalog.urlField name) = .null by
        simp only [Catalog.socialNetworks, List.mem_cons, List.not_mem_nil, or_false]
        rintro name (rfl | rfl | rfl | rfl | rfl) <;> rfl)
  have keys : props.networks.all (·.hasKeyType) = true :=
    List.all_eq_true.2 fun network hn => (h.networks network hn).2
  unfold ofFields
  simp only [listed, flat, if_pos keys, List.append_nil]
  refine congrArg Except.ok ?_
  cases props
  exact SocialProps.mk.injEq .. |>.mpr ⟨rfl, h.iconSize, h.align, h.iconStyle⟩

theorem ofFields_toFields {fields : Fields} {props : SocialProps}
    (h : ofFields fields = .ok props) : ofFields props.toFields = .ok props :=
  (isGiven_of_ofFields h).ofFields_toFields

end SocialProps

/-! ## Stored blocks and templates -/

namespace Block

theorem kind_of_ofProps {kind : Kind} {props : Fields} {b : Block}
    (h : ofProps kind props = .ok b) : b.kind = kind ∧ b.children = [] := by
  cases kind <;> simp only [ofProps, Except.ok.injEq] at h
  case social =>
    obtain ⟨props, -, rfl⟩ := Outcome.map_eq_ok_iff.1 h
    exact ⟨rfl, rfl⟩
  all_goals exact h ▸ ⟨rfl, rfl⟩

theorem ofProps_props {kind : Kind} {props : Fields} {b : Block} (h : ofProps kind props = .ok b) :
    ofProps kind b.props = .ok b := by
  cases kind <;> simp only [ofProps, Except.ok.injEq] at h ⊢
  case social =>
    obtain ⟨props, hp, rfl⟩ := Outcome.map_eq_ok_iff.1 h
    simp only [Block.props, SocialProps.ofFields_toFields hp, Except.map]
  case header => exact h ▸ congrArg header (HeaderProps.ofFields_toFields _)
  case text => exact h ▸ congrArg text (TextProps.ofFields_toFields _)
  case image => exact h ▸ congrArg image (ImageProps.ofFields_toFields _)
  case button => exact h ▸ congrArg button (ButtonProps.ofFields_toFields _)
  case columns => exact h ▸ congrArg (columns · []) (ColumnsProps.ofFields_toFields _)
  case spacer => exact h ▸ congrArg spacer (SpacerProps.ofFields_toFields _)
  case divider => exact h ▸ congrArg divider (DividerProps.ofFields_toFields _)
  case footer => exact h ▸ congrArg footer (FooterProps.ofFields_toFields _)

/-- A block whose props, here and below, read as they are. -/
inductive Readable : Block → Prop
  | intro {b : Block} (props : ofProps b.kind b.props = .ok (b.withChildren []))
      (children : ∀ child ∈ b.children, Readable child) : Readable b

theorem readable_of_ofValue {v : Value} {b : Block} (h : ofValue v = .ok b) : b.Readable := by
  induction v using Value.inductionOnChildren generalizing b with
  | step v ih =>
    obtain ⟨fields, kind, props, bare, rfl, -, -, hp, h⟩ := ofValue_eq_ok h
    obtain ⟨hk, hc⟩ := kind_of_ofProps hp
    have hb := ofProps_props hp
    split_ifs at h with hcol
    · obtain ⟨children, hl, rfl⟩ := Outcome.map_eq_ok_iff.1 h
      have hcol : bare.kind = .columns := hk.trans hcol
      refine .intro ?_ ?_
      · rw [kind_withChildren, props_withChildren, withChildren_withChildren, hk, hb, ← hc,
          withChildren_children]
      · rw [children_withChildren hcol]
        have hl := ofItems_eq_ok_iff.1 (ofItems_of_listIn hl)
        intro child hchild
        obtain ⟨item, hitem, hread⟩ := Outcome.exists_of_mem_right hl hchild
        exact ih item hitem hread
    · cases h
      refine .intro ?_ ?_
      · rw [hk, hb, ← hc, withChildren_children]
      · rw [hc]
        simp

/-- A readable block reads the same from its stored form. -/
theorem Readable.ofValue_toValue {b : Block} (h : b.Readable) : ofValue b.toValue = .ok b := by
  induction h with
  | intro props _ ih => exact ofValue_toValue_of props ih

/-- What was read as a block reads the same again from its stored form. -/
theorem ofValue_toValue {v : Value} {b : Block} (h : ofValue v = .ok b) :
    ofValue b.toValue = .ok b :=
  (readable_of_ofValue h).ofValue_toValue

end Block

namespace Template

/-- The template that fields are read as, with its blocks. -/
def assembled (fields metadata settings : Fields) (content : List Block) : Template where
  metadata := {
    subject := metadata.present "subject" (.text "")
    preheader := metadata.present "preheader" (.text "") }
  settings := {
    backgroundColor := settings.present "backgroundColor" (.text "#ffffff")
    contentWidth := settings.present "contentWidth" (.int Catalog.maxWidth)
    fontFamily := settings.present "fontFamily" (.text Catalog.defaultFont) }
  content := content
  version := fields.present "version" (.text formatVersion)

theorem ofValue_eq_ok_iff {fields : Fields} {t : Template} :
    ofValue (.object fields) = .ok t ↔
      ∃ metadata, fields.objectAt "metadata" = .ok metadata ∧
      ∃ settings, fields.objectAt "settings" = .ok settings ∧
      ∃ content, Block.listIn (fields.get "content") = .ok content ∧
        assembled fields metadata settings content = t := by
  rw [ofValue]
  simp only [Outcome.bind_eq_ok_iff, Outcome.pure_eq_ok_iff]
  rfl

theorem ofValue_of {fields metadata settings : Fields} {content : List Block}
    (hm : fields.objectAt "metadata" = .ok metadata)
    (hs : fields.objectAt "settings" = .ok settings)
    (hc : Block.listIn (fields.get "content") = .ok content) :
    ofValue (.object fields) = .ok (assembled fields metadata settings content) :=
  ofValue_eq_ok_iff.2 ⟨metadata, hm, settings, hs, content, hc, rfl⟩

theorem readable_of_ofValue {v : Value} {t : Template} (h : ofValue v = .ok t) :
    ∀ b ∈ t.content, b.Readable := by
  cases v with
  | object fields =>
    obtain ⟨-, -, -, -, content, hc, rfl⟩ := ofValue_eq_ok_iff.1 h
    have hc := Block.ofItems_eq_ok_iff.1 (Block.ofItems_of_listIn hc)
    intro b hb
    obtain ⟨item, -, hread⟩ := Outcome.exists_of_mem_right hc hb
    exact Block.readable_of_ofValue hread
  | _ => simp [ofValue] at h

/-- A template is read from an object that spells out all its fields. -/
theorem ofValue_object_of {t : Template} {items : List Value}
    (h : List.Forall₂ (fun item b => Block.ofValue item = .ok b) items t.content) :
    ofValue (.object [
      ("version", t.version),
      ("metadata", .object [
        ("subject", t.metadata.subject), ("preheader", t.metadata.preheader)]),
      ("settings", .object [
        ("backgroundColor", t.settings.backgroundColor),
        ("contentWidth", t.settings.contentWidth),
        ("fontFamily", t.settings.fontFamily)]),
      ("content", .list items)]) = .ok t := by
  have hl : Block.listIn (.list items) = .ok t.content := Block.ofItems_eq_ok_iff.2 h
  exact ofValue_eq_ok_iff.2
    ⟨_, Fields.objectAt_of_get rfl, _, Fields.objectAt_of_get rfl, _, hl, rfl⟩

theorem ofValue_toValue {v : Value} {t : Template} (h : ofValue v = .ok t) :
    ofValue t.toValue = .ok t := by
  refine ofValue_object_of ?_
  rw [Block.toItems_eq_map, List.forall₂_map_left_iff, List.forall₂_same]
  exact fun b hb => (readable_of_ofValue h b hb).ofValue_toValue

end Template

end EmailStudio
