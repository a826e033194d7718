import EmailStudio.Proofs.Value.Respelling

/-!
# Documents and the spelling of numbers

A value in standard form is read as the same document with its values in standard form
(`Template.ofValue_standard`): no default is taken, no block is left out and no kind is told by how
a number is spelled.
-/

namespace EmailStudio

/-! ## Documents in standard form -/

def HeaderProps.standard (props : HeaderProps) : HeaderProps where
  logoUrl := props.logoUrl.standard
  logoAlt := props.logoAlt.standard
  logoWidth := props.logoWidth.standard
  backgroundColor := props.backgroundColor.standard
  align := props.align.standard
  padding := props.padding.standard

def TextProps.standard (props : TextProps) : TextProps where
  content := props.content.standard
  fontSize := props.fontSize.standard
  fontFamily := props.fontFamily.standard
  color := props.color.standard
  align := props.align.standard
  lineHeight := props.lineHeight.standard
  padding := props.padding.standard

def ImageProps.standard (props : ImageProps) : ImageProps where
  src := props.src.standard
  alt := props.alt.standard
  width := props.width.standard
  align := props.align.standard
  href := props.href.standard
  padding := props.padding.standard

def ButtonProps.standard (props : ButtonProps) : ButtonProps where
  text := props.text.standard
  href := props.href.standard
  backgroundColor := props.backgroundColor.standard
  textColor := props.textColor.standard
  fontSize := props.fontSize.standard
  borderRadius := props.borderRadius.standard
  align := props.align.standard
  fullWidth := props.fullWidth.standard
  padding := props.padding.standard

def ColumnsProps.standard (props : ColumnsProps) : ColumnsProps where
  columns := props.columns.standard
  gap := props.gap.standard
  verticalAlign := props.verticalAlign.standard
  stackOnMobile := props.stackOnMobile.standard

def SpacerProps.standard (props : SpacerProps) : SpacerProps where
  height := props.height.standard

def DividerProps.standard (props : DividerProps) : DividerProps where
  color := props.color.standard
  width := props.width.standard
  style := props.style.standard
  padding := props.padding.standard

def SocialNetwork.standard (network : SocialNetwork) : SocialNetwork where
  type := network.type.standard
  url := network.url.standard

def SocialProps.standard (props : SocialProps) : SocialProps where
  networks := props.networks.map (·.standard)
  iconSize := props.iconSize.standard
  align := props.align.standard
  iconStyle := props.iconStyle.standard

def FooterProps.standard (props : FooterProps) : FooterProps where
  companyName := props.companyName.standard
  address := props.address.standard
  showUnsubscribe := props.showUnsubscribe.standard
  unsubscribeText := props.unsubscribeText.standard
  backgroundColor := props.backgroundColor.standard
  textColor := props.textColor.standard

namespace Block

mutual

/-- The block with integers for all whole numbers. -/
def standard : Block → Block
  | header props => header props.standard
  | text props => text props.standard
  | image props => image props.standard
  | button props => button props.standard
  | columns props children => columns props.standard (standardAll children)
  | spacer props => spacer props.standard
  | divider props => divider props.standard
  | social props => social props.standard
  | footer props => footer props.standard

def standardAll : List Block → List Block
  | [] => []
  | b :: rest => standard b :: standardAll rest

end

theorem standardAll_eq : ∀ bs : List Block, standardAll bs = bs.map standard
  | [] => by rw [standardAll, List.map_nil]
  | b :: rest => by rw [standardAll, List.map_cons, standardAll_eq rest]

theorem standard_columns (props : ColumnsProps) (children : List Block) :
    (columns props children).standard = columns props.standard (children.map standard) := by
  rw [standard, standardAll_eq]

@[simp] theorem kind_standard (b : Block) : b.standard.kind = b.kind := by
  cases b <;> simp only [standard, kind]

theorem standard_withChildren (b : Block) (children : List Block) :
    (b.withChildren children).standard = b.standard.withChildren (children.map standard) := by
  cases b <;> simp only [withChildren, standard, standardAll_eq]

end Block

/-- The template with integers for all whole numbers. -/
def Template.standard (t : Template) : Template where
  metadata := ⟨t.metadata.subject.standard, t.metadata.preheader.standard⟩
  settings := ⟨t.settings.backgroundColor.standard, t.settings.contentWidth.standard,
    t.settings.fontFamily.standard⟩
  content := t.content.map (·.standard)
  version := t.version.standard

/-! ## Reading -/

section

variable (fields : Fields)

theorem Fields.objectAt_standard (key : String) :
    fields.standard.objectAt key = (fields.objectAt key).map Fields.standard := by
  have hempty : (Value.object []).standard = .object [] := rfl
  rw [objectAt, objectAt, get_standard, ← hempty, Value.orElse_standard, hempty]
  cases (fields.get key).orElse (.object []) with
  | object inner => rw [Value.standard_object]; rfl
  | list items => rw [Value.standard_list]; rfl
  | float x => rcases Value.standard_float x with h | ⟨n, -, h⟩ <;> rw [h] <;> rfl
  | _ => rfl

theorem HeaderProps.ofFields_standard : ofFields fields.standard = (ofFields fields).standard := by
  simp only [ofFields, standard, Fields.given_text_standard, Fields.given_int_standard]

theorem TextProps.ofFields_standard : ofFields fields.standard = (ofFields fields).standard := by
  simp only [ofFields, standard, Fields.given_text_standard, Fields.given_int_standard]

theorem ImageProps.ofFields_standard : ofFields fields.standard = (ofFields fields).standard := by
  simp only [ofFields, standard, Fields.given_text_standard, Fields.given_int_standard,
    Fields.get_standard]

theorem ButtonProps.ofFields_standard : ofFields fields.standard = (ofFields fields).standard := by
  simp only [ofFields, standard, Fields.given_text_standard, Fields.given_int_standard,
    Fields.given_bool_standard]

theorem ColumnsProps.ofFields_standard : ofFields fields.standard = (ofFields fields).standard := by
  simp only [ofFields, standard, Fields.given_text_standard, Fields.given_int_standard,
    Fields.given_bool_standard]

theorem SpacerProps.ofFields_standard : ofFields fields.standard = (ofFields fields).standard := by
  simp only [ofFields, standard, Fields.given_int_standard]

theorem DividerProps.ofFields_standard : ofFields fields.standard = (ofFields fields).standard := by
  simp only [ofFields, standard, Fields.given_text_standard, Fields.given_int_standard]

theorem FooterProps.ofFields_standard : ofFields fields.standard = (ofFields fields).standard := by
  simp only [ofFields, standard, Fields.given_text_standard, Fields.given_bool_standard]

end

namespace SocialNetwork

theorem ofItem?_standard (v : Value) : ofItem? v.standard = (ofItem? v).map (·.standard) := by
  cases v with
  | object fields =>
    simp only [Value.standard_object, ofItem?, Fields.get_standard, Value.truthy_standard,
      Value.orElse_text_standard]
    split_ifs <;> rfl
  | list items => rw [Value.standard_list]; rfl
  | float x => rcases Value.standard_float x with h | ⟨n, -, h⟩ <;> rw [h] <;> rfl
  | _ => rfl

theorem hasKeyType_standard (network : SocialNetwork) :
    network.standard.hasKeyType = network.hasKeyType :=
  Value.apply_standard (f := fun type => hasKeyType ⟨type, network.url⟩) (fun _ => rfl)
    (fun _ => rfl) (fun _ => rfl) network.type

theorem isOf_standard (network : SocialNetwork) (name : String) :
    network.standard.isOf name = network.isOf name :=
  Value.apply_standard (f := fun type => isOf ⟨type, network.url⟩ name) (fun _ => rfl)
    (fun _ => rfl) (fun _ => rfl) network.type

end SocialNetwork

namespace SocialProps

theorem flatNetworks_standard (listed : List SocialNetwork) (fields : Fields) :
    flatNetworks (listed.map (·.standard)) fields.standard =
      (flatNetworks listed fields).map (·.standard) := by
  simp only [flatNetworks, List.map_filterMap, Fields.get_standard, Value.truthy_standard,
    List.any_map, Function.comp_def, SocialNetwork.isOf_standard]
  refine List.filterMap_congr fun name _ => ?_
  split_ifs <;> rfl

theorem ofFields_standard (fields : Fields) :
    ofFields fields.standard = (ofFields fields).map standard := by
  have hlisted : (fields.get "networks").standard.items.filterMap SocialNetwork.ofItem? =
      ((fields.get "networks").items.filterMap SocialNetwork.ofItem?).map (·.standard) := by
    rw [Value.items_standard, List.filterMap_map, List.map_filterMap]
    exact List.filterMap_congr fun item _ => SocialNetwork.ofItem?_standard item
  simp only [ofFields, Fields.get_standard, hlisted, flatNetworks_standard, List.all_map,
    Function.comp_def, SocialNetwork.hasKeyType_standard, Value.orElse_text_standard,
    Value.orElse_int_standard]
  split_ifs
  · simp only [Except.map, standard, List.map_append]
  · rfl

end SocialProps

namespace Block

theorem ofProps_standard (kind : Kind) (props : Fields) :
    ofProps kind props.standard = (ofProps kind props).map standard := by
  cases kind with
  | social =>
    simp only [ofProps, SocialProps.ofFields_standard]
    cases SocialProps.ofFields props <;> simp only [Except.map, standard]
  | _ =>
    simp only [ofProps, Except.map, standard, standardAll, HeaderProps.ofFields_standard,
      TextProps.ofFields_standard, ImageProps.ofFields_standard, ButtonProps.ofFields_standard,
      ColumnsProps.ofFields_standard, SpacerProps.ofFields_standard,
      DividerProps.ofFields_standard, FooterProps.ofFields_standard]

theorem ofItems_standard {items : List Value} {bs : List Block}
    (h : ∀ item ∈ items, ∀ b, ofValue item = .ok b → ofValue item.standard = .ok b.standard)
    (hbs : ofItems items = .ok bs) : ofItems (items.map Value.standard) = .ok (bs.map standard) := by
  rw [ofItems_eq_ok_iff, List.forall₂_map_left_iff, List.forall₂_map_right_iff]
  have hboth := (List.forall₂_and_left _ _).2 ⟨h, ofItems_eq_ok_iff.1 hbs⟩
  exact hboth.imp fun item b hitem => hitem.1 b hitem.2

theorem listIn_of_truthy {v : Value} (h : v.truthy = false) : listIn v = .ok [] := by
  cases v with
  | list items =>
    cases items with
    | nil => rfl
    | cons item rest => cases h
  | _ =>
    rw [listIn, if_neg (Bool.eq_false_iff.1 h)]
    intro items heq
    cases heq

theorem listIn_standard {v : Value} {bs : List Block}
    (h : ∀ item ∈ v.items, ∀ b, ofValue item = .ok b → ofValue item.standard = .ok b.standard)
    (hbs : listIn v = .ok bs) : listIn v.standard = .ok (bs.map standard) := by
  cases v with
  | list items =>
    rw [Value.standard_list]
    exact ofItems_standard h hbs
  | _ =>
    rw [listIn] at hbs
    · split_ifs at hbs with ht
      cases hbs
      exact listIn_of_truthy ((Value.truthy_standard _).trans (Bool.eq_false_of_not_eq_true ht))
    · intro items heq
      cases heq

theorem ofValue_standard {v : Value} {b : Block} (h : ofValue v = .ok b) :
    ofValue v.standard = .ok b.standard := by
  induction v using Value.inductionOnChildren generalizing b with
  | step v ih =>
    obtain ⟨fields, kind, props, bare, rfl, hk, hp, hb, hread⟩ := ofValue_eq_ok h
    have hk' : kindOf fields.standard = .ok kind := by
      rw [kindOf_eq_ok_iff, Fields.get_standard, Value.kind_standard]
      exact kindOf_eq_ok_iff.1 hk
    have hp' : fields.standard.objectAt "props" = .ok props.standard := by
      rw [Fields.objectAt_standard, hp]
      rfl
    have hb' : ofProps kind props.standard = .ok bare.standard := by
      rw [ofProps_standard, hb]
      rfl
    rw [Value.standard_object, ofValue_object hk' hp' hb']
    split_ifs at hread ⊢ with hcol
    · obtain ⟨children, hchildren, rfl⟩ := Outcome.map_eq_ok_iff.1 hread
      have hchildren' : listIn (fields.get "children").standard = .ok (children.map standard) :=
        listIn_standard (fun item hitem _ => ih item hitem) hchildren
      rw [Fields.get_standard, hchildren', standard_withChildren]
      rfl
    · cases hread
      rfl

end Block

namespace Template

theorem ofValue_standard {v : Value} {t : Template} (h : ofValue v = .ok t) :
    ofValue v.standard = .ok t.standard := by
  cases v with
  | object fields =>
    obtain ⟨metadata, hm, settings, hs, content, hc, rfl⟩ := ofValue_eq_ok_iff.1 h
    have hm' : (Fields.standard fields).objectAt "metadata" = .ok metadata.standard := by
      rw [Fields.objectAt_standard, hm]
      rfl
    have hs' : (Fields.standard fields).objectAt "settings" = .ok settings.standard := by
      rw [Fields.objectAt_standard, hs]
      rfl
    have hc' : Block.listIn ((Fields.standard fields).get "content") = .ok (content.map (·.standard)) := by
      rw [Fields.get_standard]
      exact Block.listIn_standard (fun _ _ _ => Block.ofValue_standard) hc
    rw [Value.standard_object, ofValue_of hm' hs' hc']
    simp only [assembled, standard, ← Fields.present_standard]
    rfl
  | _ => cases h

end Template

end EmailStudio
