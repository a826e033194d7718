import EmailStudio.Proofs.Markup.Columns
import EmailStudio.Proofs.Markup.Holes
import EmailStudio.Proofs.Value.Fields

/-!
# Filled blocks

Where a prop that holds free text is filled, a block is a family of blocks, and what is made of it
has holes for the escaped text and is otherwise the same. There is one lemma for each kind of block
with such props, and one for each way in which blocks are put together. The main results are
`Block.exists_filled`, for the props of a block, and `Template.IsHoled.yields_compile`.
-/

namespace EmailStudio

/-! ## Lists, values and fields -/

section Replaced

variable {α : Type}

/-- The items with a family in the place of one of them. -/
def replaced (items : List α) (n : Nat) (family : Filling → α) : List (Filling → α) :=
  (items.map fun item _ => item).set n family

/-- Items that are the same for all fillings. -/
theorem map_constant (items : List α) (i : Filling) :
    (items.map fun item (_ : Filling) => item).map (fun item => item i) = items := by
  rw [List.map_map]
  exact List.map_id items

theorem map_replaced (items : List α) (n : Nat) (family : Filling → α) (i : Filling) :
    (replaced items n family).map (fun item => item i) = items.set n (family i) := by
  rw [replaced, List.map_set, map_constant]

theorem set_of_getElem? {items : List α} {n : Nat} {a : α} (h : items[n]? = some a) :
    items.set n a = items := by
  obtain ⟨hn, rfl⟩ := List.getElem?_eq_some_iff.1 h
  exact List.set_getElem_self hn

theorem forall_mem_replaced {items : List α} {n : Nat} {family : Filling → α}
    {P : (Filling → α) → Prop} (h : P family) (hitems : ∀ item ∈ items, P fun _ => item) :
    ∀ item ∈ replaced items n family, P item := by
  intro item hitem
  rcases List.mem_or_eq_of_mem_set hitem with hitem | rfl
  · obtain ⟨item, hmem, rfl⟩ := List.mem_map.1 hitem
    exact hitems item hmem
  · exact h

end Replaced

namespace Value

theorem escaped_text (s : String) : (text s).escaped = .ok (Text.escape s) := by
  by_cases hs : s = ""
  · rw [hs]
    rfl
  · rw [escaped, if_pos (by simpa [truthy] using hs)]

theorem truthy_filled (s : Filled) : (text s).truthy = true := by
  simpa [truthy] using s.2

variable {write : String → String} {v : Filling → Value}

/-- Values that are the same for all fillings, or the filling where that is escaped. -/
inductive IsSlot (write : String → String) : (Filling → Value) → Prop
  | kept (v : Value) : IsSlot write fun _ => v
  | filled {v : Filling → Value} (hw : write = Text.escape)
      (h : ∀ s : Filled, v (some s) = .text s) : IsSlot write v

theorem IsSlot.orElse (h : IsSlot write v) (default : Value) :
    IsSlot write fun i => (v i).orElse default := by
  cases h with
  | kept v => exact .kept _
  | filled hw h =>
    refine .filled hw fun s => ?_
    rw [h, Value.orElse, if_pos (truthy_filled s)]

theorem IsSlot.escaped (h : IsSlot write v) : Yields (Holed write) fun i => (v i).escaped := by
  cases h with
  | kept v => exact .fixed Holed.fixed _
  | filled hw h =>
    refine .of_ok .hole fun s => ?_
    rw [h, escaped_text, hw]

/-- Something that is escaped if it counts as given, and left out otherwise. -/
theorem IsSlot.escaped_of_truthy (h : IsSlot write v) :
    Yields (Optional (Holed write)) fun i =>
      if (v i).truthy then some <$> (v i).escaped else pure none := by
  cases h with
  | kept v => exact .fixed (.fixed Holed.fixed) _
  | filled hw h =>
    refine .of_ok (.some .hole) fun s => ?_
    rw [h, if_pos (truthy_filled s), escaped_text, hw]
    rfl

end Value

namespace Fields

variable {fields : Fields} {key name : String} {names : List String} {write : String → String}

/-- The fields with a filling in one of them. -/
def fill (fields : Fields) (key : String) : Filling → Fields
  | none => fields
  | some s => fields.set key (.text s)

theorem get?_fill_of_ne (h : key ≠ name) (i : Filling) :
    (fields.fill key i).get? name = fields.get? name := by
  cases i with
  | none => rfl
  | some s => rw [fill, get?_set, if_neg h]

theorem get_fill_of_ne (h : key ≠ name) (i : Filling) :
    (fields.fill key i).get name = fields.get name := by
  rw [get, get?_fill_of_ne h, get]

theorem get?_fill_some (s : Filled) : (fields.fill key (some s)).get? key = some (.text s) := by
  rw [fill, get?_set, if_pos rfl]

theorem get_fill_some (s : Filled) : (fields.fill key (some s)).get key = .text s := by
  rw [get, get?_fill_some, Option.getD_some]

/-- Props that hold no free text are as they were. -/
theorem given_fill (hkey : key ∈ names) (h : name ∉ names) (i : Filling) (default : Value) :
    (fields.fill key i).given name default = fields.given name default := by
  have hne : key ≠ name := fun heq => h (heq ▸ hkey)
  rw [given, get_fill_of_ne hne, given]

theorem isSlot_get (h : key = name → write = Text.escape) :
    Value.IsSlot write fun i => (fields.fill key i).get name := by
  by_cases hkey : key = name
  · subst hkey
    exact .filled (h rfl) get_fill_some
  · simp only [get_fill_of_ne hkey]
    exact .kept _

theorem isSlot_given (h : key = name → write = Text.escape) (default : Value) :
    Value.IsSlot write fun i => (fields.fill key i).given name default := by
  by_cases hkey : key = name
  · subst hkey
    refine .filled (h rfl) fun s => ?_
    rw [given, get_fill_some]
  · simp only [given, get_fill_of_ne hkey]
    exact .kept _

theorem isSlot_present (fields : Fields) (key name : String) (default : Value) :
    Value.IsSlot Text.escape fun i => (fields.fill key i).present name default := by
  by_cases hkey : key = name
  · subst hkey
    refine .filled rfl fun s => ?_
    rw [present, get?_fill_some, Option.getD_some]
  · simp only [present, get?_fill_of_ne hkey]
    exact .kept _

theorem isSlot_prop (fields : Fields) (key name : String) (default : Value) :
    Value.IsSlot Text.escape fun i => (fields.fill key i).given name default :=
  isSlot_given (fun _ => rfl) default

end Fields

/-! ## Props -/

namespace Kind

/-- The props that hold free text, but for the content of a text block. -/
def textProps : Kind → List String
  | header => ["logoUrl", "logoAlt", "backgroundColor"]
  | text => ["fontFamily", "color"]
  | image => ["src", "alt", "href"]
  | button => ["text", "href", "backgroundColor", "textColor"]
  | columns => []
  | spacer => []
  | divider => ["color"]
  | social => Catalog.socialNetworks.map Catalog.urlField
  | footer => ["companyName", "address", "unsubscribeText", "backgroundColor", "textColor"]

/-- How the text of a prop is written. -/
def writes (kind : Kind) (key : String) (s : String) : String :=
  if kind = footer ∧ key = "address" then FooterProps.addressText (Text.escape s)
  else Text.escape s

end Kind

namespace Fragment

variable {write : String → String}

inductive IsHoled (write : String → String) : (Filled → Fragment) → Prop
  | mk {element : Filled → Element} {background padding : Filled → Option String}
      (he : Element.IsHoled write element) (hb : Optional (Holed write) background)
      (hp : Optional (Holed write) padding) :
      IsHoled write fun s => ⟨element s, background s, padding s⟩

theorem holed_attributesOf_nil : Rows (HoledAttribute write) fun _ => attributesOf [] :=
  .nil

theorem holed_attributesOf_cons (name : String) {value : Filled → Option String}
    {rest : Filled → List (String × Option String)} (hv : Optional (Holed write) value)
    (hr : Rows (HoledAttribute write) fun s => attributesOf (rest s)) :
    Rows (HoledAttribute write) fun s => attributesOf ((name, value s) :: rest s) := by
  cases hv with
  | none => exact hr
  | some hv => exact .cons (.mk name hv) hr

theorem IsHoled.nested {fragment : Filled → Fragment} (h : IsHoled write fragment) :
    Element.IsHoled write fun s => (fragment s).nested := by
  cases h with
  | mk he hb hp =>
    cases he with
    | plain tag ha hbody =>
      have surroundings := holed_attributesOf_cons "container-background-color" hb
        (holed_attributesOf_cons "padding" hp holed_attributesOf_nil)
      exact .plain tag (ha.append surroundings) hbody
    | social align mode hi => exact .social align mode hi

theorem IsHoled.alone {fragment : Filled → Fragment} (h : IsHoled write fragment) :
    Section.IsHoled write fun s => (fragment s).alone := by
  cases h with
  | mk he hb hp =>
    have surroundings := holed_attributesOf_cons "background-color" hb
      (holed_attributesOf_cons "padding" hp holed_attributesOf_nil)
    exact .mk surroundings (.cons (.mk [] (.cons he .nil)) .nil)

end Fragment

theorem Kind.writes_eq {kind : Kind} {key : String} (h : kind = .footer → key ≠ "address") :
    kind.writes key = Text.escape :=
  funext fun _ => if_neg fun hk => h hk.1 hk.2

section Kinds

open Fragment

variable (fields : Fields) {key : String}

theorem HeaderProps.yields_fragment (hkey : key ∈ Kind.header.textProps) :
    Yields (Fragment.IsHoled Text.escape) fun i => (ofFields (fields.fill key i)).fragment := by
  simp only [fragment, ofFields, Fields.given_fill hkey (by decide : "padding" ∉ _),
    Fields.given_fill hkey (by decide : "logoWidth" ∉ _),
    Fields.given_fill hkey (by decide : "align" ∉ _)]
  refine .bind_fixed _ fun padding => ?_
  refine (fields.isSlot_prop key "backgroundColor" _).escaped.bind
    fun _ background hbackground => ?_
  refine (fields.isSlot_prop key "logoUrl" _).escaped.bind fun _ src hsrc => ?_
  refine ((fields.isSlot_prop key "logoAlt" _).orElse _).escaped.bind fun _ alt halt => ?_
  refine .of_ok ?_ fun _ => rfl
  exact .mk (.plain _ (holed_attributesOf_cons _ (.some hsrc) <|
    holed_attributesOf_cons _ (.some halt) <|
    holed_attributesOf_cons _ (.some (.fixed _)) <|
    holed_attributesOf_cons _ (.fixed Holed.fixed _) holed_attributesOf_nil) .none)
    (.some hbackground) (.some (.fixed padding))

theorem TextProps.yields_fragment (hkey : key ∈ Kind.text.textProps) :
    Yields (Fragment.IsHoled Text.escape) fun i => (ofFields (fields.fill key i)).fragment := by
  simp only [fragment, body, ofFields, Fields.given_fill hkey (by decide : "padding" ∉ _),
    Fields.given_fill hkey (by decide : "content" ∉ _),
    Fields.given_fill hkey (by decide : "fontSize" ∉ _),
    Fields.given_fill hkey (by decide : "align" ∉ _),
    Fields.given_fill hkey (by decide : "lineHeight" ∉ _)]
  refine .bind_fixed _ fun padding => ?_
  refine (fields.isSlot_prop key "fontFamily" _).escaped.bind fun _ font hfont => ?_
  refine (fields.isSlot_prop key "color" _).escaped.bind fun _ color hcolor => ?_
  refine .of_ok ?_ fun _ => rfl
  exact .mk (.plain _ (holed_attributesOf_cons _ (.some (.fixed _)) <|
    holed_attributesOf_cons _ (.some hfont) <|
    holed_attributesOf_cons _ (.some hcolor) <|
    holed_attributesOf_cons _ (.fixed Holed.fixed _) <|
    holed_attributesOf_cons _ (.fixed Holed.fixed _) holed_attributesOf_nil) (.some (.fixed _)))
    .none (.some (.fixed padding))

theorem ImageProps.yields_fragment (hkey : key ∈ Kind.image.textProps) :
    Yields (Fragment.IsHoled Text.escape) fun i => (ofFields (fields.fill key i)).fragment := by
  have link : Value.IsSlot Text.escape fun i => (fields.fill key i).get "href" :=
    Fields.isSlot_get fun _ => rfl
  simp only [fragment, isFullWidth, ofFields, Fields.given_fill hkey (by decide : "padding" ∉ _),
    Fields.given_fill hkey (by decide : "width" ∉ _),
    Fields.given_fill hkey (by decide : "align" ∉ _)]
  refine .bind_fixed _ fun padding => ?_
  refine (fields.isSlot_prop key "src" _).escaped.bind fun _ src hsrc => ?_
  refine (fields.isSlot_prop key "alt" _).escaped.bind fun _ alt halt => ?_
  simp only [← Outcome.ite_bind]
  refine link.escaped_of_truthy.bind fun _ href hhref => ?_
  refine .of_ok ?_ fun _ => rfl
  exact .mk (.plain _ (holed_attributesOf_cons _ (.some hsrc) <|
    holed_attributesOf_cons _ (.some halt) <|
    holed_attributesOf_cons _ (.some (.fixed _)) <|
    holed_attributesOf_cons _ (.fixed Holed.fixed _) <|
    holed_attributesOf_cons _ hhref holed_attributesOf_nil) .none)
    .none (.some (.fixed padding))

theorem ButtonProps.yields_fragment (hkey : key ∈ Kind.button.textProps) :
    Yields (Fragment.IsHoled Text.escape) fun i => (ofFields (fields.fill key i)).fragment := by
  simp only [fragment, ofFields, Fields.given_fill hkey (by decide : "padding" ∉ _),
    Fields.given_fill hkey (by decide : "fontSize" ∉ _),
    Fields.given_fill hkey (by decide : "borderRadius" ∉ _),
    Fields.given_fill hkey (by decide : "align" ∉ _),
    Fields.given_fill hkey (by decide : "fullWidth" ∉ _)]
  refine (fields.isSlot_prop key "href" _).escaped.bind fun _ href hhref => ?_
  refine (fields.isSlot_prop key "backgroundColor" _).escaped.bind
    fun _ background hbackground => ?_
  refine (fields.isSlot_prop key "textColor" _).escaped.bind fun _ color hcolor => ?_
  refine .bind_fixed _ fun padding => ?_
  refine (fields.isSlot_prop key "text" _).escaped.bind fun _ label hlabel => ?_
  refine .of_ok ?_ fun _ => rfl
  exact .mk (.plain _ (holed_attributesOf_cons _ (.some hhref) <|
    holed_attributesOf_cons _ (.some hbackground) <|
    holed_attributesOf_cons _ (.some hcolor) <|
    holed_attributesOf_cons _ (.some (.fixed _)) <|
    holed_attributesOf_cons _ (.some (.fixed _)) <|
    holed_attributesOf_cons _ (.fixed Holed.fixed _) <|
    holed_attributesOf_cons _ (.some (.fixed padding)) <|
    holed_attributesOf_cons _ (.fixed Holed.fixed _) holed_attributesOf_nil) (.some hlabel))
    .none .none

theorem DividerProps.yields_fragment (hkey : key ∈ Kind.divider.textProps) :
    Yields (Fragment.IsHoled Text.escape) fun i => (ofFields (fields.fill key i)).fragment := by
  simp only [fragment, ofFields, Fields.given_fill hkey (by decide : "padding" ∉ _),
    Fields.given_fill hkey (by decide : "width" ∉ _),
    Fields.given_fill hkey (by decide : "style" ∉ _)]
  refine .bind_fixed _ fun padding => ?_
  refine (fields.isSlot_prop key "color" _).escaped.bind fun _ color hcolor => ?_
  refine .of_ok ?_ fun _ => rfl
  exact .mk (.plain _ (holed_attributesOf_cons _ (.some hcolor) <|
    holed_attributesOf_cons _ (.some (.fixed _)) <|
    holed_attributesOf_cons _ (.fixed Holed.fixed _) holed_attributesOf_nil) .none)
    .none (.some (.fixed padding))

namespace FooterProps

/-- An address is written with line breaks. -/
theorem yields_address (default : Value) :
    Yields (fun g => Holed (Kind.footer.writes key) fun s => addressText (g s)) fun i =>
      ((fields.fill key i).given "address" default).escaped := by
  by_cases hkey : key = "address"
  · subst hkey
    refine .of_ok (g := fun s => Text.escape s) .hole fun s => ?_
    rw [Fields.given, Fields.get_fill_some, Value.escaped_text]
  · simp only [Fields.given, Fields.get_fill_of_ne hkey]
    exact .fixed (fun _ => .fixed _) _

theorem holed_unsubscribeLine {write : String → String} {color text : Filled → String}
    (hc : Holed write color) (ht : Holed write text) :
    Holed write fun s => unsubscribeLine (color s) (text s) := by
  have opening := (Holed.fixed ("          <br/><a href=\"" ++ Catalog.unsubscribePlaceholder ++
    "\" style=\"color: ")).append hc
  have link := (opening.append (.fixed "; text-decoration: underline;\">")).append ht
  exact link.append (.fixed "</a>")

theorem yields_fragment (hkey : key ∈ Kind.footer.textProps) :
    Yields (Fragment.IsHoled (Kind.footer.writes key)) fun i =>
      (ofFields (fields.fill key i)).fragment := by
  have slot {name : String} (h : name ≠ "address") (default : Value) :
      Value.IsSlot (Kind.footer.writes key) fun i => (fields.fill key i).given name default :=
    Fields.isSlot_given (fun heq => Kind.writes_eq fun _ => heq ▸ h) default
  simp only [fragment, ofFields, Fields.given_fill hkey (by decide : "showUnsubscribe" ∉ _)]
  refine (slot (by decide : "backgroundColor" ≠ _) _).escaped.bind
    fun _ background hbackground => ?_
  refine (slot (by decide : "textColor" ≠ _) _).escaped.bind fun _ color hcolor => ?_
  refine (yields_address fields _).bind fun _ address haddress => ?_
  refine (slot (by decide : "companyName" ≠ _) _).escaped.bind fun _ company hcompany => ?_
  -- Everything but the link for leaving the list.
  have footer {lines : Filled → List String} (hl : Rows (Holed (Kind.footer.writes key)) lines) :
      Fragment.IsHoled (Kind.footer.writes key) fun s => {
        element := .plain "mj-text" [("font-size", "12px"), ("color", color s), ("align", "center"),
          ("line-height", "1.6")] (some ("\n" ++ joinLines (["          <strong>" ++ company s ++
            "</strong><br/>", "          " ++ addressText (address s)] ++ lines s) ++ "\n        "))
        background := some (background s)
        padding := none } := by
    have name := ((Holed.fixed "          <strong>").append hcompany).append
      (.fixed "</strong><br/>")
    have place := (Holed.fixed "          ").append haddress
    have body := ((Holed.fixed "\n").append (.joinLines (.cons name (.cons place hl)))).append
      (.fixed "\n        ")
    refine .mk (.plain _ (.cons ?_ (.cons ?_ (.fixed HoledAttribute.fixed _))) (.some body))
      (.some hbackground) .none
    · exact .fixed _
    · exact .mk "color" hcolor
  by_cases hshow : (fields.given "showUnsubscribe" (.bool true)).truthy = true
  · simp only [if_pos hshow]
    refine ((slot (by decide : "unsubscribeText" ≠ _) _).orElse _).escaped.bind
      fun _ unsubscribe hunsubscribe => ?_
    refine .of_ok ?_ fun _ => rfl
    exact footer (.cons (holed_unsubscribeLine hcolor hunsubscribe) .nil)
  · simp only [if_neg hshow]
    refine .of_ok ?_ fun _ => rfl
    exact footer .nil

end FooterProps

end Kinds

/-! ### Rows of icons -/

/-- Entries of a row that are the same for all fillings, or hold the filling as their address. -/
inductive SocialNetwork.IsSlot : (Filling → Option SocialNetwork) → Prop
  | kept (o : Option SocialNetwork) : IsSlot fun _ => o
  | filled {entry : Filling → Option SocialNetwork} (type : Value)
      (h : ∀ s : Filled, entry (some s) = some ⟨type, .text s⟩) : IsSlot entry

namespace SocialProps

variable {entries : List (Filling → Option SocialNetwork)}

theorem yields_icon {entry : Filling → Option SocialNetwork} (h : SocialNetwork.IsSlot entry)
    (size : String) (background : Option String) :
    Yields (Rows (SocialIcon.IsHoled Text.escape)) fun i =>
      ((entry i).toList.filter (·.url.truthy)).mapM (icon size background) := by
  cases h with
  | kept o => exact .fixed (fun _ => .fixed SocialIcon.IsHoled.fixed _) _
  | filled type h =>
    refine .of_ok (.cons (.mk type.plain .hole size background) .nil) fun s => ?_
    have hshown : (entry (some s)).toList.filter (·.url.truthy) = [⟨type, .text s⟩] := by
      rw [h, Option.toList_some]
      exact List.filter_cons_of_pos (Value.truthy_filled s)
    rw [hshown, List.mapM_cons, icon, Value.escaped_text]
    rfl

/-- The icons of the entries that have an address. -/
theorem yields_icons (h : ∀ entry ∈ entries, SocialNetwork.IsSlot entry) (size : String)
    (background : Option String) :
    Yields (Rows (SocialIcon.IsHoled Text.escape)) fun i =>
      ((entries.filterMap fun entry => entry i).filter (·.url.truthy)).mapM
        (icon size background) := by
  induction entries with
  | nil => exact .of_ok .nil fun _ => rfl
  | cons entry entries ih =>
    obtain ⟨hentry, h⟩ := List.forall_mem_cons.1 h
    have rest := ih h
    simp only [List.filterMap_eq_flatMap_toList] at rest
    simp only [List.filterMap_eq_flatMap_toList, List.flatMap_cons, List.filter_append,
      List.mapM_append]
    refine (yields_icon hentry size background).bind fun _ _ hicon => ?_
    refine rest.bind fun _ _ hicons => ?_
    exact .of_ok (hicon.append hicons) fun _ => rfl

/-- A row as a family of entries, some of which may be missing. -/
theorem yields_fragment? (h : ∀ entry ∈ entries, SocialNetwork.IsSlot entry)
    (size align style : Value) :
    Yields (Optional (Fragment.IsHoled Text.escape)) fun i =>
      fragment? ⟨entries.filterMap fun entry => entry i, size, align, style⟩ := by
  simp only [fragment?]
  refine .bind_fixed _ fun background => ?_
  refine (yields_icons h size.pixels background).bind fun _ icons hicons => ?_
  cases hicons with
  | nil => exact .of_ok .none fun _ => rfl
  | cons hicon hrest =>
    exact .of_ok (.some (.mk (.social _ _ (.cons hicon hrest)) .none .none)) fun _ => rfl

/-! The fields of a row are read into a family if one of the addresses is filled. -/

theorem isSlot_flatNetwork {v : Filling → Value} (h : Value.IsSlot Text.escape v) (name : String)
    (listed : Bool) :
    SocialNetwork.IsSlot fun i =>
      if (v i).truthy && !listed then some ⟨.text name, v i⟩ else none := by
  cases h with
  | kept v => exact .kept _
  | filled _ h =>
    cases listed with
    | true =>
      simp only [Bool.not_true, Bool.and_false]
      exact .kept none
    | false =>
      refine .filled (.text name) fun s => ?_
      rw [h, Value.truthy_filled]
      rfl

theorem all_hasKeyType (networks : List SocialNetwork) :
    networks.all (·.hasKeyType) =
      (networks.map (·.type)).all fun type => (SocialNetwork.mk type .null).hasKeyType := by
  rw [List.all_map]
  rfl

theorem any_isOf (networks : List SocialNetwork) (name : String) :
    networks.any (·.isOf name) =
      (networks.map (·.type)).any fun type => (SocialNetwork.mk type .null).isOf name := by
  rw [List.any_map]
  rfl

theorem exists_filled {f : Filling → Fields} {listed : List (Filling → Option SocialNetwork)}
    {props : SocialProps} (h : ofFields (f none) = .ok props)
    (hlisted : ∀ i, ((f i).get "networks").items.filterMap SocialNetwork.ofItem? =
      listed.filterMap fun entry => entry i)
    (hslot : ∀ entry ∈ listed, SocialNetwork.IsSlot entry ∧
      ∀ i, (entry i).map (·.type) = (entry none).map (·.type))
    (hurl : ∀ name ∈ Catalog.socialNetworks,
      Value.IsSlot Text.escape fun i => (f i).get (Catalog.urlField name))
    (hlooks : ∀ name ∈ ["iconSize", "align", "iconStyle"],
      ∀ i, (f i).get name = (f none).get name) :
    ∃ row : Filling → SocialProps, (∀ i, ofFields (f i) = .ok (row i)) ∧
      Yields (Optional (Fragment.IsHoled Text.escape)) fun i => (row i).fragment? := by
  have types (i : Filling) : (listed.filterMap fun entry => entry i).map (·.type) =
      (listed.filterMap fun entry => entry none).map (·.type) := by
    rw [List.map_filterMap, List.map_filterMap]
    exact List.filterMap_congr fun entry he => (hslot entry he).2 i
  have hkeys := (ofFields_eq_ok h).2
  let flat (name : String) (i : Filling) : Option SocialNetwork :=
    if ((f i).get (Catalog.urlField name)).truthy &&
      !(listed.filterMap fun entry => entry none).any (·.isOf name)
    then some ⟨.text name, (f i).get (Catalog.urlField name)⟩ else none
  have hflat (i : Filling) : flatNetworks (listed.filterMap fun entry => entry i) (f i) =
      (Catalog.socialNetworks.map flat).filterMap fun entry => entry i := by
    rw [flatNetworks, List.filterMap_map]
    refine List.filterMap_congr fun name _ => ?_
    simp only [Function.comp_apply, flat, any_isOf, types i]
  have hentries : ∀ entry ∈ listed ++ Catalog.socialNetworks.map flat,
      SocialNetwork.IsSlot entry := by
    refine List.forall_mem_append.2 ⟨fun entry he => (hslot entry he).1, ?_⟩
    rw [List.forall_mem_map]
    exact fun name hn => isSlot_flatNetwork (hurl name hn) name _
  refine ⟨_, fun i => ?_, yields_fragment? hentries ((f none |>.get "iconSize").orElse (.int 32))
    ((f none |>.get "align").orElse (.text "center"))
    ((f none |>.get "iconStyle").orElse (.text "color"))⟩
  have hall : (listed.filterMap fun entry => entry i).all (·.hasKeyType) = true := by
    rw [all_hasKeyType, types, ← all_hasKeyType, ← hlisted]
    exact hkeys
  simp only [ofFields, hlisted, if_pos hall, hflat, List.filterMap_append,
    hlooks "iconSize" (by decide) i, hlooks "align" (by decide) i,
    hlooks "iconStyle" (by decide) i]

/-- The address in the field of a network is filled. -/
theorem exists_filled_url {fields : Fields} {key : String} {props : SocialProps}
    (hkey : key ∈ Kind.social.textProps) (h : ofFields fields = .ok props) :
    ∃ row : Filling → SocialProps, (∀ i, ofFields (fields.fill key i) = .ok (row i)) ∧
      Yields (Optional (Fragment.IsHoled Text.escape)) fun i => (row i).fragment? := by
  have kept {name : String} (hname : name ∉ Kind.social.textProps) (i : Filling) :
      (fields.fill key i).get name = fields.get name := by
    refine Fields.get_fill_of_ne ?_ i
    rintro rfl
    exact hname hkey
  have hlisted (i : Filling) :
      ((fields.fill key i).get "networks").items.filterMap SocialNetwork.ofItem? =
        ((fields.get "networks").items.map fun item _ => SocialNetwork.ofItem? item).filterMap
          fun entry => entry i := by
    rw [kept (by decide), List.filterMap_map]
    rfl
  refine exists_filled (f := fun i => fields.fill key i) h hlisted ?_ ?_ ?_
  · rw [List.forall_mem_map]
    exact fun item _ => ⟨.kept _, fun _ => rfl⟩
  · exact fun name _ => Fields.isSlot_get fun _ => rfl
  · intro name hname i
    have hnone : ∀ name ∈ ["iconSize", "align", "iconStyle"], name ∉ Kind.social.textProps := by
      decide
    exact kept (hnone name hname) i

theorem get_type_fill (entry : Fields) (i : Filling) :
    (entry.fill "url" i).get "type" = entry.get "type" :=
  Fields.get_fill_of_ne (by decide) i

theorem isSlot_ofItem? (entry : Fields) :
    SocialNetwork.IsSlot fun i => SocialNetwork.ofItem? (.object (entry.fill "url" i)) := by
  simp only [SocialNetwork.ofItem?, get_type_fill]
  by_cases ht : (entry.get "type").truthy = true
  · simp only [if_pos ht]
    refine .filled (entry.get "type") fun s => ?_
    rw [Fields.get_fill_some, Value.orElse, if_pos (Value.truthy_filled s)]
  · simp only [if_neg ht]
    exact .kept none

theorem map_type_ofItem? (entry : Fields) (i : Filling) :
    (SocialNetwork.ofItem? (.object (entry.fill "url" i))).map (·.type) =
      if (entry.get "type").truthy then some (entry.get "type") else none := by
  simp only [SocialNetwork.ofItem?, get_type_fill]
  split_ifs <;> rfl

/-- The address of an entry of the list is filled. -/
theorem exists_filled_entry {fields entry : Fields} {items : List Value} {n : Nat}
    {props : SocialProps} (hn : fields.get? "networks" = some (.list items))
    (hi : items[n]? = some (.object entry)) (h : ofFields fields = .ok props) :
    ∃ row : Filling → SocialProps,
      (∀ i, ofFields (fields.set "networks" (.list (items.set n (.object (entry.fill "url" i))))) =
        .ok (row i)) ∧
      Yields (Optional (Fragment.IsHoled Text.escape)) fun i => (row i).fragment? := by
  let f (i : Filling) : Fields :=
    fields.set "networks" (.list (items.set n (.object (entry.fill "url" i))))
  have kept {name : String} (hname : "networks" ≠ name) (i : Filling) :
      (f i).get name = fields.get name := Fields.get_set_of_ne hname _
  have hnone : f none = fields := by
    have hitems : items.set n (.object (entry.fill "url" none)) = items := set_of_getElem? hi
    simp only [f, hitems]
    exact Fields.set_of_get? hn
  have hlisted (i : Filling) : ((f i).get "networks").items.filterMap SocialNetwork.ofItem? =
      ((replaced items n fun i => .object (entry.fill "url" i)).map
        fun item i => SocialNetwork.ofItem? (item i)).filterMap fun entry => entry i := by
    rw [Fields.get_set_self, Value.items,
      ← map_replaced items n fun i => .object (entry.fill "url" i),
      List.filterMap_map, List.filterMap_map]
    rfl
  refine exists_filled (f := f) (hnone ▸ h) hlisted ?_ ?_ ?_
  · rw [List.forall_mem_map]
    refine forall_mem_replaced ⟨isSlot_ofItem? entry, fun i => ?_⟩
      fun item _ => ⟨.kept _, fun _ => rfl⟩
    rw [map_type_ofItem?, map_type_ofItem?]
  · intro name hname
    have hne : ∀ name ∈ Catalog.socialNetworks, "networks" ≠ Catalog.urlField name := by decide
    simp only [kept (hne name hname)]
    exact .kept _
  · intro name hname i
    have hne : ∀ name ∈ ["iconSize", "align", "iconStyle"], "networks" ≠ name := by decide
    rw [kept (hne name hname), kept (hne name hname)]

end SocialProps

/-! ## Blocks -/

namespace Block

variable {write : String → String}

/-- Blocks that have elements and a section with holes, if they had any before. -/
structure IsHoled (write : String → String) (b : Filling → Block) : Prop where
  elements : Yields (Rows (Element.IsHoled write)) fun i => (b i).elements
  part : Yields (Optional (Section.IsHoled write)) fun i => (b i).section?

theorem IsHoled.fixed (b : Block) : IsHoled write fun _ => b where
  elements := .fixed (fun _ => .fixed Element.IsHoled.fixed _) _
  part := .fixed (fun _ => .fixed Section.IsHoled.fixed _) _

theorem IsHoled.of_fragment? {b : Filling → Block} (hk : ∀ i, (b i).kind ≠ .columns)
    (h : Yields (Optional (Fragment.IsHoled write)) fun i => (b i).fragment?) :
    IsHoled write b where
  elements := by
    simp only [elements_of_kind_ne (hk _)]
    refine h.bind fun _ fragment hf => .of_ok ?_ fun _ => rfl
    exact hf.toList.map fun _ hfragment => hfragment.nested
  part := by
    simp only [section?_of_kind_ne (hk _)]
    refine h.bind fun _ fragment hf => .of_ok ?_ fun _ => rfl
    exact hf.map fun _ hfragment => hfragment.alone

variable {children : List (Filling → Block)}

theorem yields_elementsOfAll (h : ∀ child ∈ children, IsHoled write child) :
    Yields (Rows (Element.IsHoled write)) fun i =>
      elementsOfAll (children.map fun child => child i) := by
  simp only [elementsOfAll_eq, List.mapM_map]
  have elements : Yields (Rows (Rows (Element.IsHoled write))) fun i =>
      children.mapM fun child => (child i).elements :=
    .mapM fun child hc => (h child hc).elements
  exact elements.map fun _ rows => rows.flatten

theorem yields_columnsSection (props : ColumnsProps)
    (h : ∀ child ∈ children, IsHoled write child) :
    Yields (Section.IsHoled write) fun i =>
      columnsSection props (children.map fun child => child i) := by
  intro before hbefore
  have hread := hbefore
  obtain ⟨count, hcount, hread⟩ := Outcome.bind_eq_ok_iff.1 hread
  obtain ⟨runs, hruns, -⟩ := Outcome.bind_eq_ok_iff.1 hread
  rw [Columns.spread_map] at hruns
  obtain ⟨parts, hparts, -⟩ := Outcome.map_eq_ok_iff.1 hruns
  have hsection : ∀ i, columnsSection props (children.map fun child => child i) =
      Section.mk (if props.stackOnMobile.truthy then [] else [("mj-class", "no-stack")]) <$>
        parts.mapM fun part => column props (part.map fun child => child i) := by
    intro i
    have hspread : Columns.spread (children.map fun child => child i) count =
        .ok (parts.map fun part => part.map fun child => child i) := by
      rw [Columns.spread_map, hparts]
      rfl
    rw [columnsSection_eq hcount hspread, List.mapM_map]
    rfl
  have columns : Yields (Rows (Column.IsHoled write)) fun i =>
      parts.mapM fun part => column props (part.map fun child => child i) := by
    refine .mapM fun part hpart => ?_
    have hchild : ∀ child ∈ part, IsHoled write child := fun child hc =>
      h child (Columns.mem_of_mem_spread hparts hpart hc)
    refine (yields_elementsOfAll hchild).bind fun _ _ helements => ?_
    exact .of_ok (.mk _ helements) fun _ => rfl
  simp only [hsection] at hbefore ⊢
  exact (columns.map fun _ hcolumns => .mk (.fixed HoledAttribute.fixed _) hcolumns) before hbefore

theorem IsHoled.columns (props : ColumnsProps) (h : ∀ child ∈ children, IsHoled write child) :
    IsHoled write fun i => .columns props (children.map fun child => child i) where
  elements := by
    simp only [Block.elements]
    exact yields_elementsOfAll h
  part := by
    simp only [section?]
    exact (yields_columnsSection props h).map fun _ hpart => .some hpart

/-- Blocks of a kind that make a fragment of their props. -/
theorem exists_filled_of_fragment {kind : Kind} {fields : Fields} {key : String}
    {block : Fields → Block} {fragment : Fields → Except Fault Fragment}
    (hread : ∀ fields, ofProps kind fields = .ok (block fields))
    (hk : ∀ fields, (block fields).kind ≠ .columns)
    (hfragment : ∀ fields, (block fields).fragment? = some <$> fragment fields)
    (h : Yields (Fragment.IsHoled write) fun i => fragment (fields.fill key i)) :
    ∃ filled : Filling → Block, (∀ i, ofProps kind (fields.fill key i) = .ok (filled i)) ∧
      IsHoled write filled := by
  refine ⟨fun i => block (fields.fill key i), fun i => hread _, .of_fragment? (fun i => hk _) ?_⟩
  simp only [hfragment]
  exact h.map fun _ hf => .some hf

/-- A block with a filling in one of its props. -/
theorem exists_filled {kind : Kind} {fields : Fields} {key : String} {b : Block}
    (hkey : key ∈ kind.textProps) (hb : ofProps kind fields = .ok b) :
    ∃ filled : Filling → Block, (∀ i, ofProps kind (fields.fill key i) = .ok (filled i)) ∧
      IsHoled (kind.writes key) filled := by
  have escapes (h : kind ≠ .footer) : kind.writes key = Text.escape :=
    Kind.writes_eq fun hk => absurd hk h
  cases kind with
  | columns => cases hkey
  | spacer => cases hkey
  | header =>
    rw [escapes nofun]
    exact exists_filled_of_fragment (fun _ => rfl) (fun _ => nofun) (fun _ => rfl)
      (HeaderProps.yields_fragment fields hkey)
  | text =>
    rw [escapes nofun]
    exact exists_filled_of_fragment (fun _ => rfl) (fun _ => nofun) (fun _ => rfl)
      (TextProps.yields_fragment fields hkey)
  | image =>
    rw [escapes nofun]
    exact exists_filled_of_fragment (fun _ => rfl) (fun _ => nofun) (fun _ => rfl)
      (ImageProps.yields_fragment fields hkey)
  | button =>
    rw [escapes nofun]
    exact exists_filled_of_fragment (fun _ => rfl) (fun _ => nofun) (fun _ => rfl)
      (ButtonProps.yields_fragment fields hkey)
  | divider =>
    rw [escapes nofun]
    exact exists_filled_of_fragment (fun _ => rfl) (fun _ => nofun) (fun _ => rfl)
      (DividerProps.yields_fragment fields hkey)
  | footer =>
    exact exists_filled_of_fragment (fun _ => rfl) (fun _ => nofun) (fun _ => rfl)
      (FooterProps.yields_fragment fields hkey)
  | social =>
    rw [escapes nofun]
    obtain ⟨props, hp, -⟩ := Outcome.map_eq_ok_iff.1 hb
    obtain ⟨row, hrow, hyields⟩ := SocialProps.exists_filled_url hkey hp
    refine ⟨fun i => .social (row i), fun i => ?_, .of_fragment? (fun _ => nofun) hyields⟩
    rw [ofProps, hrow]
    rfl

/-- A row of icons with a filling in one of the entries of its list. -/
theorem exists_filled_entry {fields entry : Fields} {items : List Value} {n : Nat} {b : Block}
    (hn : fields.get? "networks" = some (.list items)) (hi : items[n]? = some (.object entry))
    (hb : ofProps .social fields = .ok b) :
    ∃ filled : Filling → Block,
      (∀ i, ofProps .social
        (fields.set "networks" (.list (items.set n (.object (entry.fill "url" i))))) =
          .ok (filled i)) ∧
      IsHoled Text.escape filled := by
  obtain ⟨props, hp, -⟩ := Outcome.map_eq_ok_iff.1 hb
  obtain ⟨row, hrow, hyields⟩ := SocialProps.exists_filled_entry hn hi hp
  refine ⟨fun i => .social (row i), fun i => ?_, .of_fragment? (fun _ => nofun) hyields⟩
  rw [ofProps, hrow]
  rfl

end Block

namespace Template

variable {write : String → String} {t : Filling → Template}

/-- Templates whose texts are slots and whose blocks have holes. -/
structure IsHoled (write : String → String) (t : Filling → Template) : Prop where
  subject : Value.IsSlot write fun i => (t i).metadata.subject
  preheader : Value.IsSlot write fun i => (t i).metadata.preheader
  backgroundColor : Value.IsSlot write fun i => (t i).settings.backgroundColor
  fontFamily : Value.IsSlot write fun i => (t i).settings.fontFamily
  contentWidth : ∀ i, (t i).settings.contentWidth = (t none).settings.contentWidth
  content : ∃ blocks : List (Filling → Block), (∀ b ∈ blocks, Block.IsHoled write b) ∧
    ∀ i, (t i).content = blocks.map fun b => b i

theorem IsHoled.yields_markup (h : IsHoled write t) :
    Yields (Markup.IsHoled write) fun i => (t i).markup := by
  obtain ⟨blocks, hblocks, hcontent⟩ := h.content
  have sections : Yields (Rows (Optional (Section.IsHoled write))) fun i =>
      blocks.mapM fun b => (b i).section? :=
    .mapM fun b hb => (hblocks b hb).part
  simp only [markup, hcontent, List.mapM_map, h.contentWidth]
  refine sections.bind fun _ _ hsections => ?_
  refine h.subject.escaped.bind fun _ _ htitle => ?_
  refine h.preheader.escaped.bind fun _ _ hpreview => ?_
  refine h.fontFamily.escaped.bind fun _ _ hfont => ?_
  refine h.backgroundColor.escaped.bind fun _ _ hbackground => ?_
  refine .of_ok ?_ fun _ => rfl
  exact ⟨htitle, hpreview, hfont, hbackground, .fixed _, hsections.filterMap_id⟩

/-- The markup of a template with a filling is a text with holes. -/
theorem IsHoled.yields_compile (h : IsHoled write t) :
    Yields (Holed write) fun i => (t i).compile := by
  simp only [compile]
  exact h.yields_markup.bind fun _ _ hmarkup => .of_ok hmarkup.text fun _ => rfl

end Template

end EmailStudio
