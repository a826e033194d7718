import EmailStudio.Proofs.Validation.Soundness
import EmailStudio.Proofs.Value.Fields

/-!
# The normal form of a candidate

To normalize a candidate is to read it and to store what was read. The relations of this file say,
of the candidate and the result alone, what the result has to be: `Kind.Completes` for the props of
a block, `Block.Normalizes` for a block with all that lies below it and `Template.Normalizes` for
the whole. The main result is `Template.normalize_of_isValid`: a candidate without issues has a
normal form, which has no issues either, is its own normal form, and repeats the candidate with
nothing but defaults added.
-/

namespace EmailStudio

/-! ## What a normal form has to be -/

/-- The props that the blocks of a kind know, and what each reads as when it is not given. Only the
link of an image may be missing. The networks of a row of icons are not among them. -/
def Kind.knownProps : Kind → List (String × Option Value)
  | .header => [("logoUrl", some (.text "")), ("logoAlt", some (.text "Company Logo")),
      ("logoWidth", some (.int 150)), ("backgroundColor", some (.text "#ffffff")),
      ("align", some (.text "center")), ("padding", some (.text "md"))]
  | .text => [("content", some (.text "Your text here...")), ("fontSize", some (.int 16)),
      ("fontFamily", some (.text "Arial, Helvetica, sans-serif")),
      ("color", some (.text "#333333")), ("align", some (.text "left")),
      ("lineHeight", some (.text "1.5")), ("padding", some (.text "md"))]
  | .image => [("src", some (.text "")), ("alt", some (.text "")), ("width", some (.int 0)),
      ("align", some (.text "center")), ("href", none), ("padding", some (.text "md"))]
  | .button => [("text", some (.text "Click Here")), ("href", some (.text "#")),
      ("backgroundColor", some (.text "#007bff")), ("textColor", some (.text "#ffffff")),
      ("fontSize", some (.int 16)), ("borderRadius", some (.int 4)),
      ("align", some (.text "center")), ("fullWidth", some (.bool false)),
      ("padding", some (.text "md"))]
  | .columns => [("columns", some (.int 2)), ("gap", some (.text "md")),
      ("verticalAlign", some (.text "top")), ("stackOnMobile", some (.bool true))]
  | .spacer => [("height", some (.int 20))]
  | .divider => [("color", some (.text "#e0e0e0")), ("width", some (.int 1)),
      ("style", some (.text "solid")), ("padding", some (.text "md"))]
  | .social => [("iconSize", some (.int 32)), ("align", some (.text "center")),
      ("iconStyle", some (.text "color"))]
  | .footer => [("companyName", some (.text "Company Name")),
      ("address", some (.text "123 Street, City, Country")), ("showUnsubscribe", some (.bool true)),
      ("unsubscribeText", some (.text "Unsubscribe")), ("backgroundColor", some (.text "#f4f4f4")),
      ("textColor", some (.text "#666666"))]

/-- A listed network with its address, empty when it is not given. -/
def SocialNetwork.entry (item : Value) : Value :=
  .object [("type", Fields.get item.fields "type"),
    ("url", Fields.given item.fields "url" (.text ""))]

/-- The networks that no item of the list is of and whose own field holds an address. -/
def SocialProps.unlisted (given : Fields) : List String :=
  Catalog.socialNetworks.filter fun name =>
    !((given.get "networks").items.any fun item =>
        Rule.isOneOf [name] (Fields.get item.fields "type")) &&
      Rule.isFilled (given.get (Catalog.urlField name))

/-- The list of a row of icons: the listed networks, then those that are not listed. -/
def SocialProps.allNetworks (given : Fields) : List Value :=
  (given.get "networks").items.map SocialNetwork.entry ++
    (unlisted given).map fun name =>
      .object [("type", .text name), ("url", given.get (Catalog.urlField name))]

/-- Props with all that was not given spelled out. -/
structure Kind.Completes (kind : Kind) (given full : Fields) : Prop where
  nodup : (full.map (·.1)).Nodup
  known : ∀ key, full.has key = true →
    key ∈ kind.knownProps.map (·.1) ∨ kind = .social ∧ key = "networks"
  kept : ∀ key ∈ kind.knownProps.map (·.1), given.get key ≠ .null →
    full.get? key = some (given.get key)
  added : ∀ key default, (key, default) ∈ kind.knownProps → given.get key = .null →
    full.get? key = default
  networks : kind = .social →
    full.get? "networks" = some (.list (SocialProps.allNetworks given))

/-- A block and its normal form, which alone among the two is sure to spell out its children. -/
inductive Block.Normalizes : Value → Value → Prop
  | single {fields given full : Fields} {kind : Kind}
      (type : Kind.ofValue? (fields.get "type") = some kind) (kind_ne : kind ≠ .columns)
      (props : fields.get "props" = .object given) (completes : kind.Completes given full) :
      Normalizes (.object fields)
        (.object [("type", fields.get "type"), ("props", .object full)])
  | columns {fields given full : Fields} {items : List Value}
      (type : Kind.ofValue? (fields.get "type") = some .columns)
      (props : fields.get "props" = .object given) (completes : Kind.columns.Completes given full)
      (children : List.Forall₂ Normalizes (fields.get "children").items items) :
      Normalizes (.object fields)
        (.object [("type", fields.get "type"), ("props", .object full), ("children", .list items)])

/-- The fields of some names, in their order. -/
def Fields.only (fields : Fields) (keys : List String) : Fields :=
  keys.map fun key => (key, fields.get key)

namespace Template

/-- A candidate and its normal form. -/
inductive Normalizes : Value → Value → Prop
  | intro {fields metadata settings : Fields} {items : List Value}
      (metadata_eq : fields.get "metadata" = .object metadata)
      (settings_eq : fields.get "settings" = .object settings)
      (content : List.Forall₂ Block.Normalizes (fields.get "content").items items) :
      Normalizes (.object fields)
        (.object [
          ("version", fields.get "version"),
          ("metadata", .object (metadata.only ["subject", "preheader"])),
          ("settings", .object (settings.only ["backgroundColor", "contentWidth", "fontFamily"])),
          ("content", .list items)])

/-- The stored form of what a candidate reads as. -/
def normalize (candidate : Value) : Except Fault Value := do
  return (← ofValue candidate).toValue

end Template

/-! ## Completed props -/

namespace Fields

/-- The value of a prop, or its default if it has one. -/
def givenOr (fields : Fields) (key : String) (default : Option Value) : Option Value :=
  match fields.get key with
  | .null => default
  | v => some v

/-- The known props as they were given, or by default. -/
def completed (given : Fields) : List (String × Option Value) → Fields
  | [] => []
  | (key, default) :: known =>
    match given.givenOr key default with
    | none => completed given known
    | some v => (key, v) :: completed given known

variable {given fields : Fields} {key : String} {default : Option Value}
  {known : List (String × Option Value)}

theorem givenOr_some (default : Value) :
    given.givenOr key (some default) = some (given.given key default) := by
  unfold givenOr Fields.given
  cases given.get key <;> rfl

theorem givenOr_of_null (h : given.get key = .null) : given.givenOr key default = default := by
  unfold givenOr
  rw [h]

theorem givenOr_of_ne_null (h : given.get key ≠ .null) :
    given.givenOr key default = some (given.get key) := by
  unfold givenOr
  split
  · contradiction
  · rfl

theorem map_fst_completed_sublist (given : Fields) : ∀ known : List (String × Option Value),
    ((given.completed known).map (·.1)).Sublist (known.map (·.1))
  | [] => .slnil
  | (key, default) :: known => by
    have ih := map_fst_completed_sublist given known
    unfold completed
    cases given.givenOr key default with
    | none => exact ih.cons key
    | some v => exact ih.cons_cons key

/-- Every known prop stands among the completed ones as it was given, or by default. -/
theorem get?_completed (nodup : (known.map (·.1)).Nodup) (h : (key, default) ∈ known) :
    (given.completed known).get? key = given.givenOr key default := by
  induction known with
  | nil => cases h
  | cons entry rest ih =>
    obtain ⟨k, d⟩ := entry
    obtain ⟨hk, nodup⟩ := List.nodup_cons.1 nodup
    unfold completed
    rcases List.mem_cons.1 h with heq | hrest
    · cases heq
      cases given.givenOr key default with
      | none =>
        exact get?_eq_none_iff.2 fun hmem => hk ((map_fst_completed_sublist given rest).subset hmem)
      | some v => exact if_pos rfl
    · have hne : k ≠ key := fun heq => hk (heq ▸ List.mem_map.2 ⟨_, hrest, rfl⟩)
      cases given.givenOr k d with
      | none => exact ih nodup hrest
      | some v =>
        rw [get?, if_neg hne]
        exact ih nodup hrest

end Fields

namespace Kind

theorem eq_text_of_ofValue? {v : Value} {kind : Kind} (h : ofValue? v = some kind) :
    v = .text kind.name := by
  cases v with
  | text s => rw [show kind.name = s by simpa using List.find?_some h]
  | _ => cases h

theorem nodup_knownProps (kind : Kind) : (kind.knownProps.map (·.1)).Nodup := by
  cases kind <;> decide

variable {kind : Kind} {given : Fields}

theorem mem_knownProps_of_has {key : String}
    (h : (given.completed kind.knownProps).has key = true) : key ∈ kind.knownProps.map (·.1) :=
  (Fields.map_fst_completed_sublist given _).subset (Fields.mem_map_of_has h)

theorem completed_kept {key : String} (h : key ∈ kind.knownProps.map (·.1))
    (hg : given.get key ≠ .null) :
    (given.completed kind.knownProps).get? key = some (given.get key) := by
  obtain ⟨⟨_, default⟩, hmem, rfl⟩ := List.mem_map.1 h
  rw [Fields.get?_completed kind.nodup_knownProps hmem, Fields.givenOr_of_ne_null hg]

theorem completed_added {key : String} {default : Option Value}
    (h : (key, default) ∈ kind.knownProps) (hg : given.get key = .null) :
    (given.completed kind.knownProps).get? key = default := by
  rw [Fields.get?_completed kind.nodup_knownProps h, Fields.givenOr_of_null hg]

theorem completes_completed (h : kind ≠ .social) :
    kind.Completes given (given.completed kind.knownProps) where
  nodup := (Fields.map_fst_completed_sublist given _).nodup kind.nodup_knownProps
  known _ hkey := .inl (mem_knownProps_of_has hkey)
  kept _ := completed_kept
  added _ _ := completed_added
  networks hs := absurd hs h

/-- A row of icons has its networks beside the completed props. -/
theorem completes_social : social.Completes given
    (("networks", .list (SocialProps.allNetworks given)) :: given.completed social.knownProps) where
  nodup := by
    have tail := Fields.map_fst_completed_sublist given social.knownProps
    have hn : "networks" ∉ social.knownProps.map (·.1) := by decide
    exact List.nodup_cons.2 ⟨fun h => hn (tail.subset h), tail.nodup social.nodup_knownProps⟩
  known key hkey := by
    by_cases hk : "networks" = key
    · exact .inr ⟨rfl, hk.symm⟩
    · rw [Fields.has, Fields.get?, if_neg hk] at hkey
      exact .inl (mem_knownProps_of_has hkey)
  kept key hkey hg := by
    rw [Fields.get?, if_neg fun heq => absurd (heq ▸ hkey) (by decide)]
    exact completed_kept hkey hg
  added key default hmem hg := by
    have hkey : key ∈ social.knownProps.map (·.1) := List.mem_map.2 ⟨_, hmem, rfl⟩
    rw [Fields.get?, if_neg fun heq => absurd (heq ▸ hkey) (by decide)]
    exact completed_added hmem hg
  networks _ := rfl

end Kind

/-! ## Rows of social icons -/

theorem Binary64.toRat?_of_isZero {x : Binary64} (h : x.isZero = true) : x.toRat? = some 0 := by
  obtain ⟨hf, hs⟩ := Bool.and_eq_true_iff.1 h
  have hs : x.significand = 0 := eq_of_beq hs
  have hm : x.magnitude.1 = 0 := by
    unfold magnitude
    split_ifs <;> simp [hs]
  unfold toRat?
  rw [if_pos hf]
  simp [hm]

theorem Value.truthy_of_isWhole {v : Value} {n : Int} (hn : n ≠ 0) (h : v.isWhole n = true) :
    v.truthy = true := by
  have h := of_decide_eq_true h
  cases v with
  | int m =>
    have hm : m = n := Rat.intCast_inj.1 (Option.some.inj h)
    exact decide_eq_true (hm ▸ hn)
  | float x =>
    by_contra hx
    have hx : x.isZero = true := by simpa [truthy] using hx
    have h : some (n : Rat) = some 0 := h.symm.trans (Binary64.toRat?_of_isZero hx)
    exact hn (Rat.intCast_inj.1 (Option.some.inj h))
  | _ => cases h

namespace Rule

theorem truthy_of_isNumberOf {options : List Int} (h0 : 0 ∉ options) {v : Value}
    (h : isNumberOf options v = true) : v.truthy = true := by
  obtain ⟨n, hn, hv⟩ := List.any_eq_true.1 h
  exact Value.truthy_of_isWhole (fun h => h0 (h ▸ hn)) hv

theorem truthy_of_isOneOf {options : List String} (h0 : "" ∉ options) {v : Value}
    (h : isOneOf options v = true) : v.truthy = true := by
  cases v with
  | text s =>
    have hs : s ≠ "" := fun heq => h0 (heq ▸ List.contains_iff_mem.1 h)
    simpa [Value.truthy] using hs
  | _ => cases h

/-- A prop that is judged, and whose good values all count as given, reads the same by either rule
for defaults. -/
theorem orElse_eq_given {props : Fields} {key : String} {problem : PropProblem}
    {good : Value → Bool} {default : Value} (truthy : ∀ {v}, good v = true → v.truthy = true)
    (h : optional props key problem good = []) :
    (props.get key).orElse default = props.given key default := by
  rcases optional_eq_nil_iff.1 h with hn | hg
  · unfold Fields.given
    rw [hn]
    rfl
  · rw [Value.orElse_of_truthy (truthy hg), Fields.given_eq_of_get rfl]
    intro hn
    have ht := truthy hg
    rw [hn] at ht
    cases ht

end Rule

namespace SocialNetwork

theorem isOf_eq (network : SocialNetwork) (name : String) :
    network.isOf name = Rule.isOneOf [name] network.type := by
  unfold isOf Rule.isOneOf
  cases network.type with
  | text s => simp
  | _ => rfl

theorem orElse_url {fields : Fields}
    (h : fields.get "url" = .null ∨ (fields.get "url").isText = true) :
    (fields.get "url").orElse (.text "") = fields.given "url" (.text "") := by
  rcases h with hnull | htext
  · rw [Fields.given, hnull]
    rfl
  · rw [Value.orElse_of_isText htext, Fields.given_eq_of_get rfl (Value.ne_null_of_isText htext)]

theorem ofItem?_of_issues {index : Nat} {item : Value} (h : Rule.network index item = []) :
    ofItem? item =
      some ⟨Fields.get item.fields "type", Fields.given item.fields "url" (.text "")⟩ := by
  obtain ⟨fields, rfl, ht, hu⟩ := Rule.network_eq_nil_iff.1 h
  rw [ofItem?, if_pos (Rule.truthy_of_isOneOf (by decide) ht), orElse_url hu]
  rfl

end SocialNetwork

namespace SocialProps

variable {given : Fields}

theorem ofItem?_of_mem (h : Rule.networks given = []) {item : Value}
    (hitem : item ∈ (given.get "networks").items) :
    SocialNetwork.ofItem? item =
      some ⟨Fields.get item.fields "type", Fields.given item.fields "url" (.text "")⟩ := by
  rcases Rule.networks_eq_nil_iff.1 h with hn | ⟨items, hitems, h⟩
  · rw [hn] at hitem
    cases hitem
  · rw [hitems] at hitem
    obtain ⟨index, hindex⟩ := List.getElem?_of_mem hitem
    exact SocialNetwork.ofItem?_of_issues (h index item hindex)

theorem listed_eq_map (h : Rule.networks given = []) :
    (given.get "networks").items.filterMap SocialNetwork.ofItem? =
      (given.get "networks").items.map fun item =>
        ⟨Fields.get item.fields "type", Fields.given item.fields "url" (.text "")⟩ := by
  rw [← List.filterMap_eq_map]
  exact List.filterMap_congr fun item => ofItem?_of_mem h

theorem isFilled_eq_truthy {name : String} (h : Rule.text given (Catalog.urlField name) = []) :
    Rule.isFilled (given.get (Catalog.urlField name)) =
      (given.get (Catalog.urlField name)).truthy := by
  have h := Rule.optional_eq_nil_iff.1 h
  cases hv : given.get (Catalog.urlField name) with
  | null => rfl
  | text s => rfl
  | _ => simp [hv, Value.isText] at h

theorem map_toValue_flatNetworks (listed : List SocialNetwork) :
    (flatNetworks listed given).map (·.toValue) =
      (Catalog.socialNetworks.filter fun name =>
        (given.get (Catalog.urlField name)).truthy && !listed.any (·.isOf name)).map fun name =>
          .object [("type", .text name), ("url", given.get (Catalog.urlField name))] := by
  rw [flatNetworks, List.map_filterMap, ← List.filterMap_eq_map, List.filterMap_filter]
  refine List.filterMap_congr fun name _ => ?_
  dsimp only
  split_ifs <;> rfl

/-- A row without issues keeps its list and gains what its own fields say. -/
theorem map_toValue_networks {props : SocialProps} (h : Rule.social given = [])
    (hp : ofFields given = .ok props) :
    props.networks.map (·.toValue) = allNetworks given := by
  simp only [Rule.social, List.append_eq_nil_iff, List.flatMap_eq_nil_iff] at h
  obtain ⟨⟨-, networks⟩, flat⟩ := h
  rw [(ofFields_eq_ok hp).1]
  dsimp only
  rw [listed_eq_map networks, List.map_append, map_toValue_flatNetworks, List.map_map]
  refine congrArg (_ ++ List.map _ ·) (List.filter_congr fun name hname => ?_)
  rw [isFilled_eq_truthy (flat name hname), List.any_map, Bool.and_comm]
  simp only [Function.comp_def, SocialNetwork.isOf_eq]

/-- The stored props of a row without issues. -/
theorem toFields_of_rule {props : SocialProps} (h : Rule.social given = [])
    (hp : ofFields given = .ok props) :
    props.toFields =
      ("networks", .list (allNetworks given)) :: given.completed Kind.social.knownProps := by
  have networks := map_toValue_networks h hp
  simp only [Rule.social, Rule.number, Rule.choice, List.append_eq_nil_iff] at h
  obtain ⟨⟨⟨⟨size, style⟩, align⟩, -⟩, -⟩ := h
  have size : (given.get "iconSize").orElse (.int 32) = given.given "iconSize" (.int 32) :=
    Rule.orElse_eq_given (Rule.truthy_of_isNumberOf (by decide)) size
  have style : (given.get "iconStyle").orElse (.text "color") =
      given.given "iconStyle" (.text "color") :=
    Rule.orElse_eq_given (Rule.truthy_of_isOneOf (by decide)) style
  have align : (given.get "align").orElse (.text "center") =
      given.given "align" (.text "center") :=
    Rule.orElse_eq_given (Rule.truthy_of_isOneOf (by decide)) align
  rw [toFields, networks, (ofFields_eq_ok hp).1]
  simp only [size, style, align, Kind.knownProps, Fields.completed, Fields.givenOr_some]

end SocialProps

/-! ## Blocks and templates -/

namespace Block

/-- The link of an image is left out when it is not given. -/
theorem toFields_imageProps (given : Fields) :
    (ImageProps.ofFields given).toFields = given.completed Kind.image.knownProps := by
  have hhref : (ImageProps.ofFields given).href = given.get "href" := rfl
  simp only [Kind.knownProps, Fields.completed, Fields.givenOr_some]
  by_cases hlink : given.get "href" = .null
  · rw [ImageProps.toFields, if_pos (Value.isNull_iff.2 (hhref.trans hlink)),
      Fields.givenOr_of_null hlink]
    rfl
  · rw [ImageProps.toFields, if_neg (mt Value.isNull_iff.1 (hhref ▸ hlink)),
      Fields.givenOr_of_ne_null hlink]
    rfl

/-- The stored props of a block without issues are the given ones, completed. -/
theorem completes_of_rule {kind : Kind} {given : Fields} {b : Block} (h : kind.rule given = [])
    (hb : ofProps kind given = .ok b) : kind.Completes given b.props := by
  by_cases hs : kind = .social
  · subst hs
    obtain ⟨row, hp, rfl⟩ := Outcome.map_eq_ok_iff.1 hb
    rw [props, SocialProps.toFields_of_rule h hp]
    exact Kind.completes_social
  · have hfull : b.props = given.completed kind.knownProps := by
      cases kind <;> simp only [ofProps, Except.ok.injEq] at hb
      case social => exact absurd rfl hs
      case image => exact hb ▸ toFields_imageProps given
      all_goals
        subst hb
        simp only [Kind.knownProps, Fields.completed, Fields.givenOr_some]
        rfl
    rw [hfull]
    exact Kind.completes_completed hs

theorem issuesOfItems_of_issuesOfChildren {depth : Int} {v : Value}
    (h : issuesOfChildren depth v = []) : ∀ item ∈ v.items, issues (depth + 1) item = [] := by
  rcases issuesOfChildren_eq_nil_iff.1 h with rfl | ⟨items, rfl, hitems⟩
  · exact fun item hitem => nomatch hitem
  · exact hitems

theorem forall₂_normalizes {depth : Int} {items : List Value} {bs : List Block}
    (h : ∀ item ∈ items, issues depth item = [])
    (hbs : List.Forall₂ (fun v b => ofValue v = .ok b) items bs)
    (each : ∀ item ∈ items, ∀ {b}, issues depth item = [] → ofValue item = .ok b →
      Normalizes item b.toValue) :
    List.Forall₂ Normalizes items (bs.map toValue) := by
  rw [List.forall₂_map_right_iff]
  have hmem := (List.forall₂_and_left _ _).2 ⟨fun item (hitem : item ∈ items) => hitem, hbs⟩
  exact hmem.imp fun item b hb => each item hb.1 (h item hb.1) hb.2

/-- The stored form of what a block without issues reads as is its normal form. -/
theorem normalizes_toValue {depth : Int} {v : Value} {b : Block} (h : issues depth v = [])
    (hb : ofValue v = .ok b) : Normalizes v b.toValue := by
  induction v using Value.inductionOnChildren generalizing depth b with
  | step v ih =>
    obtain ⟨-, fields, kind, props, rfl, hj, hr, hc⟩ := issues_eq_nil_iff.1 h
    obtain ⟨ht, hp⟩ := judgedProps_eq_ok_iff.1 hj
    obtain ⟨bare, hbare, -⟩ := propsSound_of_rule hr
    obtain ⟨hk, -⟩ := kind_of_ofProps hbare
    have completes := completes_of_rule hr hbare
    have type := Kind.eq_text_of_ofValue? ht
    rw [ofValue_object (kindOf_eq_ok_iff.2 ht) (Fields.objectAt_of_get hp) hbare] at hb
    split_ifs at hb with hcol
    · obtain ⟨children, hl, rfl⟩ := Outcome.map_eq_ok_iff.1 hb
      subst hcol
      rw [toValue_eq, kind_withChildren, props_withChildren, children_withChildren hk, if_pos hk,
        hk, ← type]
      refine .columns ht hp completes ?_
      exact forall₂_normalizes (issuesOfItems_of_issuesOfChildren (hc rfl))
        (ofItems_eq_ok_iff.1 (ofItems_of_listIn hl)) fun item hitem => ih item hitem
    · cases hb
      rw [toValue_eq, if_neg (hk ▸ hcol), hk, ← type]
      exact .single ht hcol hp completes

end Block

namespace Template

theorem normalizes_toValue {candidate : Value} {t : Template} (h : isValid candidate = true)
    (ht : ofValue candidate = .ok t) : Normalizes candidate t.toValue := by
  obtain ⟨fields, rfl, hv, hm, hs, hc⟩ := issues_eq_nil_iff.1 (isValid_iff.1 h)
  have hv := versionIssues_eq_nil_iff.1 hv
  obtain ⟨metadata, hm, hsubject, hpreheader⟩ := metadataIssues_eq_nil_iff.1 hm
  obtain ⟨settings, hs, hbackground, hwidth, hfont⟩ := settingsIssues_eq_nil_iff.1 hs
  obtain ⟨items, hi, hc⟩ := contentIssues_eq_nil_iff.1 hc
  have version : fields.present "version" (.text formatVersion) = fields.get "version" :=
    present_of_ne_null (by simp [hv])
  obtain ⟨_, hm', _, hs', content, hread, rfl⟩ := ofValue_eq_ok_iff.1 ht
  cases (Fields.objectAt_of_get hm).symm.trans hm'
  cases (Fields.objectAt_of_get hs).symm.trans hs'
  have hread := Block.ofItems_eq_ok_iff.1 (Block.ofItems_of_listIn hread)
  simp only [toValue, assembled, Block.toItems_eq_map, present_of_isText hsubject,
    present_of_isText hpreheader, present_of_isText hbackground, present_of_isText hfont, version,
    present_of_width hwidth]
  have sound : ∀ item ∈ (fields.get "content").items, Block.issues 1 item = [] := hi ▸ hc
  exact .intro hm hs (Block.forall₂_normalizes sound hread fun _ _ _ => Block.normalizes_toValue)

/-- A candidate without issues has a normal form that repeats it with nothing but defaults added;
the normal form has no issues and is its own normal form. -/
theorem normalize_of_isValid {candidate : Value} (h : isValid candidate = true) :
    ∃ normal, normalize candidate = .ok normal ∧ isValid normal = true ∧
      normalize normal = .ok normal ∧ Normalizes candidate normal := by
  obtain ⟨t, ht, hs⟩ := sound_of_isValid h
  refine ⟨t.toValue, ?_, hs.isValid, ?_, normalizes_toValue h ht⟩
  · rw [normalize, ht]
    rfl
  · rw [normalize, ofValue_toValue ht]
    rfl

/-- A row whose list leaves an address out and whose fields say more, below columns. -/
def scatteredNetworks : Value :=
  candidate [.object [
    ("type", .text "EmailColumns"), ("props", .object [("gap", .null)]),
    ("children", .list [.object [
      ("type", .text "EmailSocial"),
      ("props", .object [
        ("youtubeUrl", .text "https://y"), ("twitterUrl", .text "https://t"),
        ("facebookUrl", .text "https://f"),
        ("networks", .list [.object [("type", .text "twitter")]])])]])]]

theorem normalize_of_isValid_scatteredNetworks :
    isValid scatteredNetworks = true ∧
      ∃ normal, normalize scatteredNetworks = .ok normal ∧ isValid normal = true ∧
        normalize normal = .ok normal ∧ Normalizes scatteredNetworks normal :=
  ⟨rfl, normalize_of_isValid rfl⟩

end Template

end EmailStudio
