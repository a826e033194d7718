import EmailStudio.Proofs.Document.Normal
import EmailStudio.Proofs.Editor.Social

/-!
# Merging lists and fields of networks

A row of icons may hold a list of networks, a field for the address of each network, or both. Three
functions merge the two: reading a row, spreading its list over the fields for the editor, and
gathering the fields again. `gatherNetworks_spreadNetworks` says that they agree: a row without
issues that went through the editor reads as it did before, but for its networks, which are those
of `SocialProps.mergedNetworks`.
-/

namespace EmailStudio

/-- What is made of a value only if it counts as given depends on nothing else. -/
theorem Value.given_congr {α : Type} {v w : Value} (h : v.orElse .null = w.orElse .null)
    (f : Value → α) :
    (if v.truthy then some (f v) else none) = if w.truthy then some (f w) else none := by
  unfold orElse at h
  split_ifs at h ⊢ with hv hw hw
  · rw [h]
  · rw [h] at hv
    cases hv
  · rw [← h] at hw
    cases hw
  · rfl

namespace SocialProps

/-- The items of the list of a row that are of a network. -/
def itemsOf (fields : Fields) (name : String) : List Value :=
  (fields.get "networks").items.filter fun item =>
    Rule.isOneOf [name] (Fields.get item.fields "type")

/-- The address of a network: that of the last item of it in the list, empty or not, and only if the
list does not mention it that of its own field. -/
def mergedUrl (fields : Fields) (name : String) : Value :=
  match (itemsOf fields name).getLast? with
  | some item => Fields.given item.fields "url" (.text "")
  | none => fields.get (Catalog.urlField name)

/-- The networks of a row that have an address, in the order of the catalog. -/
def mergedNetworks (fields : Fields) : List SocialNetwork :=
  Catalog.socialNetworks.filterMap fun name =>
    if (mergedUrl fields name).truthy then some ⟨.text name, mergedUrl fields name⟩ else none

/-- The entries that a row lists. -/
def listed (fields : Fields) : List SocialNetwork :=
  (fields.get "networks").items.filterMap SocialNetwork.ofItem?

variable {fields : Fields} {name : String}

theorem lastOf_listed (h : Rule.networks fields = []) (name : String) :
    (lastOf (listed fields) name).map (·.url) =
      (itemsOf fields name).getLast?.map fun item => Fields.given item.fields "url" (.text "") := by
  rw [lastOf, listed, listed_eq_map h, List.filter_map, List.getLast?_map, Option.map_map, itemsOf]
  simp only [Function.comp_def, SocialNetwork.isOf_eq]

theorem mergedUrl_eq (h : Rule.networks fields = []) (name : String) :
    mergedUrl fields name =
      ((lastOf (listed fields) name).map (·.url)).getD (fields.get (Catalog.urlField name)) := by
  rw [lastOf_listed h, mergedUrl]
  cases (itemsOf fields name).getLast? <;> rfl

end SocialProps

namespace Editor

open SocialProps

variable {fields : Fields}

/-! ## Spreading -/

theorem urlField_injective : Function.Injective Catalog.urlField := fun _ _ h =>
  String.append_left_inj _ |>.1 h

theorem urlField_ne_of_mem {key : String} {names : List String} {name : String}
    (h : key ∉ names.map Catalog.urlField) (hn : name ∈ names) : Catalog.urlField name ≠ key :=
  fun heq => h (heq ▸ List.mem_map_of_mem hn)

/-- An item counts as the entry that is read of it. -/
theorem listUrl_of_ofItem? {item : Value} {network : SocialNetwork}
    (h : SocialNetwork.ofItem? item = some network) (urls : Fields) :
    listUrl urls item = listUrl urls network.toValue := by
  cases item with
  | object entry =>
    simp only [SocialNetwork.ofItem?] at h
    split_ifs at h
    cases h
    have hurl : (Fields.get [("type", Fields.get entry "type"),
        ("url", (Fields.get entry "url").orElse (.text ""))] "url").orElse (.text "") =
        (Fields.get entry "url").orElse (.text "") := Value.orElse_orElse _ _
    have htype : Fields.get [("type", Fields.get entry "type"),
        ("url", (Fields.get entry "url").orElse (.text ""))] "type" = Fields.get entry "type" := rfl
    simp only [listUrl, SocialNetwork.toValue, hurl, htype]
  | _ => cases h

theorem foldlM_listUrl_filterMap {items : List Value}
    (h : ∀ item ∈ items, ∃ network, SocialNetwork.ofItem? item = some network) (start : Fields) :
    items.foldlM listUrl start =
      ((items.filterMap SocialNetwork.ofItem?).map (·.toValue)).foldlM listUrl start := by
  induction items generalizing start with
  | nil => rfl
  | cons item items ih =>
    obtain ⟨⟨network, hitem⟩, h⟩ := List.forall_mem_cons.1 h
    rw [List.filterMap_cons_some hitem, List.map_cons, List.foldlM_cons, List.foldlM_cons,
      listUrl_of_ofItem? hitem]
    exact congrArg (_ >>= ·) (funext (ih h))

/-- The list of a row without issues gives each network the address of its last entry. -/
theorem listedUrls_of_rule (h : Rule.networks fields = []) :
    ∃ urls : Fields, listedUrls (fields.get "networks").items = .ok urls ∧
      ∀ name, urls.get? name = (lastOf (listed fields) name).map (·.url) := by
  obtain ⟨urls, hurls, hget⟩ := listedUrls_map fun _ hn => sound_of_mem_listed h hn
  refine ⟨urls, ?_, hget⟩
  rw [← hurls]
  exact foldlM_listUrl_filterMap (fun item hitem => ⟨_, ofItem?_of_mem h hitem⟩) []

theorem get?_foldl_spreadUrl_of_notMem {urls : Fields} {names : List String} {key : String}
    (h : key ∉ names.map Catalog.urlField) (props : Fields) :
    (names.foldl (spreadUrl urls) props).get? key = props.get? key := by
  induction names generalizing props with
  | nil => rfl
  | cons name names ih =>
    obtain ⟨hname, h⟩ := not_or.1 (mt List.mem_cons.2 h)
    rw [List.foldl_cons, ih h, spreadUrl, Fields.get?_set, if_neg (Ne.symm hname)]

/-- The field of each network is given its address once. -/
theorem get?_foldl_spreadUrl {urls : Fields} {names : List String} (nodup : names.Nodup)
    {name : String} (hname : name ∈ names) (props : Fields) :
    (names.foldl (spreadUrl urls) props).get? (Catalog.urlField name) =
      some ((urls.get? name).getD
        ((props.get? (Catalog.urlField name)).getD (.text ""))) := by
  induction names generalizing props with
  | nil => cases hname
  | cons first names ih =>
    obtain ⟨hfirst, nodup⟩ := List.nodup_cons.1 nodup
    rw [List.foldl_cons]
    rcases List.mem_cons.1 hname with rfl | hname
    · have hlater : Catalog.urlField name ∉ names.map Catalog.urlField :=
        fun h => hfirst ((List.mem_map_of_injective urlField_injective).1 h)
      rw [get?_foldl_spreadUrl_of_notMem hlater, spreadUrl, Fields.get?_set, if_pos rfl]
    · have hne : Catalog.urlField first ≠ Catalog.urlField name :=
        fun h => hfirst (urlField_injective h ▸ hname)
      rw [ih nodup hname, spreadUrl, Fields.get?_set, if_neg hne]

/-- Props that hold the addresses of some networks in fields, and besides them what a row holds. A
network without address has an empty one. -/
structure IsSpread (fields flat : Fields) : Prop where
  networks : Fields.has flat "networks" = false
  urls : ∀ name ∈ Catalog.socialNetworks,
    flat.get (Catalog.urlField name) = mergedUrl fields name ∨
      flat.get (Catalog.urlField name) = .text "" ∧ mergedUrl fields name = .null
  others : ∀ key, key ≠ "networks" → key ∉ Catalog.socialNetworks.map Catalog.urlField →
    flat.get key = fields.get key

theorem IsSpread.given {flat : Fields} (h : IsSpread fields flat) {name : String}
    (hname : name ∈ Catalog.socialNetworks) :
    (flat.get (Catalog.urlField name)).orElse .null = (mergedUrl fields name).orElse .null := by
  obtain heq | ⟨hempty, hnull⟩ := h.urls name hname
  · rw [heq]
  · rw [hempty, hnull]
    rfl

/-- A row without issues is spread over the fields. -/
theorem exists_spreadNetworks (h : Rule.networks fields = []) :
    ∃ flat, spreadNetworks fields = .ok flat ∧ IsSpread fields flat := by
  obtain ⟨urls, hurls, hget⟩ := listedUrls_of_rule h
  have notField : "networks" ∉ Catalog.socialNetworks.map Catalog.urlField := by decide
  refine ⟨_, by rw [spreadNetworks, hurls]; rfl, ?_, fun name hname => ?_,
    fun key hkey hfield => ?_⟩
  · rw [Fields.has, get?_foldl_spreadUrl_of_notMem notField, Fields.get?_erase, if_pos rfl]
    rfl
  · have hne : "networks" ≠ Catalog.urlField name := (urlField_ne_of_mem notField hname).symm
    rw [Fields.get, get?_foldl_spreadUrl (by decide) hname, Option.getD_some, hget,
      mergedUrl_eq h, Fields.get?_erase, if_neg hne]
    cases lastOf (listed fields) name with
    | some network => exact .inl rfl
    | none =>
      rw [Option.map_none, Option.getD_none, Option.getD_none, Fields.get]
      cases fields.get? (Catalog.urlField name) with
      | some url => exact .inl rfl
      | none => exact .inr ⟨rfl, rfl⟩
  · rw [Fields.get, get?_foldl_spreadUrl_of_notMem hfield, Fields.get?_erase, if_neg hkey.symm,
      Fields.get]

/-! ## Gathering -/

theorem get_foldl_erase {names : List String} {key : String} (props : Fields) :
    (names.foldl (fun (acc : Fields) name => acc.erase (Catalog.urlField name)) props).get? key =
      if key ∈ names.map Catalog.urlField then none else props.get? key := by
  induction names generalizing props with
  | nil => rfl
  | cons name names ih =>
    rw [List.foldl_cons, ih, Fields.get?_erase, List.map_cons]
    by_cases hname : Catalog.urlField name = key
    · rw [if_pos hname, ite_self, if_pos (hname ▸ List.mem_cons_self)]
    · rw [if_neg hname]
      simp only [List.mem_cons, Ne.symm hname, false_or]

theorem get_networks_gatherNetworks {flat : Fields} (h : flat.has "networks" = false) :
    (gatherNetworks flat).get "networks" = .list (gatheredNetworks flat) := by
  rw [gatherNetworks, h, if_neg Bool.false_ne_true, Fields.get_set_self]

/-- Gathering leaves no field of a network, and all other props as they are. -/
theorem get_gatherNetworks_of_ne {flat : Fields} (h : flat.has "networks" = false) {key : String}
    (hkey : key ≠ "networks") : (gatherNetworks flat).get key =
      if key ∈ Catalog.socialNetworks.map Catalog.urlField then .null else flat.get key := by
  rw [gatherNetworks, h, if_neg Bool.false_ne_true, Fields.get_set_of_ne hkey.symm, Fields.get,
    get_foldl_erase]
  split_ifs <;> rfl

theorem gatheredNetworks_of_isSpread {flat : Fields} (h : IsSpread fields flat) :
    gatheredNetworks flat = (mergedNetworks fields).map (·.toValue) := by
  rw [gatheredNetworks, mergedNetworks, List.map_filterMap]
  refine List.filterMap_congr fun name hname => ?_
  have hurl := Value.given_congr (h.given hname) fun url =>
    Value.object [("type", .text name), ("url", url)]
  rw [hurl]
  split_ifs <;> rfl

theorem isGiven_of_mem_mergedNetworks {network : SocialNetwork}
    (h : network ∈ mergedNetworks fields) : network.IsGiven ∧ network.hasKeyType = true := by
  obtain ⟨name, hname, hn⟩ := List.mem_filterMap.1 h
  have truthy : ∀ name ∈ Catalog.socialNetworks, (Value.text name).truthy = true := by decide
  split_ifs at hn with hurl
  cases hn
  exact ⟨⟨truthy name hname, Value.orElse_of_truthy hurl⟩, rfl⟩

/-- A row that was spread and gathered has the merged networks. -/
theorem ofFields_gatherNetworks {flat : Fields} (h : IsSpread fields flat) :
    SocialProps.ofFields (gatherNetworks flat) = .ok {
      networks := mergedNetworks fields
      iconSize := (fields.get "iconSize").orElse (.int 32)
      align := (fields.get "align").orElse (.text "center")
      iconStyle := (fields.get "iconStyle").orElse (.text "color") } := by
  have hlist : Fields.get (gatherNetworks flat) "networks" =
      .list ((mergedNetworks fields).map (·.toValue)) := by
    rw [get_networks_gatherNetworks h.networks, gatheredNetworks_of_isSpread h]
  have hother : ∀ key, key ≠ "networks" → Fields.get (gatherNetworks flat) key =
      if key ∈ Catalog.socialNetworks.map Catalog.urlField then .null else fields.get key := by
    intro key hkey
    rw [get_gatherNetworks_of_ne h.networks hkey]
    split_ifs with hfield
    · rfl
    · exact h.others key hkey hfield
  have listed : (Fields.get (gatherNetworks flat) "networks").items.filterMap
      SocialNetwork.ofItem? = mergedNetworks fields := by
    rw [hlist]
    exact filterMap_ofItem?_map_toValue fun network hn => (isGiven_of_mem_mergedNetworks hn).1
  have flatUrls : flatNetworks (mergedNetworks fields) (gatherNetworks flat) = [] := by
    refine flatNetworks_eq_nil fun name hname => ?_
    have hfield := List.mem_map_of_mem (f := Catalog.urlField) hname
    have hne : Catalog.urlField name ≠ "networks" := urlField_ne_of_mem (by decide) hname
    rw [hother _ hne, if_pos hfield]
  have keys : (mergedNetworks fields).all (·.hasKeyType) = true :=
    List.all_eq_true.2 fun network hn => (isGiven_of_mem_mergedNetworks hn).2
  simp only [SocialProps.ofFields, listed, flatUrls, if_pos keys, List.append_nil]
  rw [hother "iconSize" (by decide), hother "align" (by decide), hother "iconStyle" (by decide),
    if_neg (by decide), if_neg (by decide), if_neg (by decide)]

end Editor

/-! ## The canonical form of what was read -/

namespace SocialProps

variable {fields : Fields}

/-- A network is read from its own field only if the list does not mention it. -/
theorem lastOf_flatNetworks {listed : List SocialNetwork} {name : String}
    (hname : name ∈ Catalog.socialNetworks) :
    lastOf (flatNetworks listed fields) name =
      if (fields.get (Catalog.urlField name)).truthy && !listed.any (·.isOf name) then
        some ⟨.text name, fields.get (Catalog.urlField name)⟩
      else none := by
  refine lastOf_filterMap (fun name network h => ?_) (by decide) hname
  dsimp only at h
  split_ifs at h
  cases h
  rfl

theorem lastOf_append (networks others : List SocialNetwork) (name : String) :
    lastOf (networks ++ others) name = (lastOf others name).or (lastOf networks name) := by
  rw [lastOf, List.filter_append, List.getLast?_append]
  rfl

theorem lastOf_eq_none_iff {networks : List SocialNetwork} {name : String} :
    lastOf networks name = none ↔ networks.any (·.isOf name) = false := by
  rw [lastOf, List.getLast?_eq_none_iff, List.filter_eq_nil_iff, List.any_eq_false]

/-- The merged networks are those that were read, in canonical form. -/
theorem mergedNetworks_eq {props : SocialProps} (h : Rule.networks fields = [])
    (hp : ofFields fields = .ok props) :
    mergedNetworks fields = canonicalNetworks props.networks := by
  rw [(ofFields_eq_ok hp).1]
  refine List.filterMap_congr fun name hname => ?_
  have hmerged := mergedUrl_eq h name
  rw [listed] at hmerged
  dsimp only
  rw [lastOf_append, lastOf_flatNetworks hname]
  cases hlast : lastOf ((fields.get "networks").items.filterMap SocialNetwork.ofItem?) name with
  | none =>
    rw [hlast] at hmerged
    rw [hmerged, lastOf_eq_none_iff.1 hlast, Bool.not_false, Bool.and_true, Option.or_none]
    dsimp only [Option.map_none, Option.getD_none]
    split_ifs with hurl
    · rw [Option.filter_some, if_pos hurl]
    · rfl
  | some network =>
    obtain ⟨hmem, hof⟩ := mem_of_lastOf hlast
    have hany : ((fields.get "networks").items.filterMap SocialNetwork.ofItem?).any (·.isOf name) =
      true := List.any_eq_true.2 ⟨network, hmem, hof⟩
    rw [hlast] at hmerged
    rw [hmerged, hany, Bool.not_true, Bool.and_false, if_neg Bool.false_ne_true, Option.none_or,
      Option.filter_some, ← SocialNetwork.isOf_iff.1 hof]
    rfl

end SocialProps

namespace Editor

open SocialProps

/-- A row without issues that is spread over the fields of the editor and gathered again reads as it
did before, but with the merged networks. They are those that were read before in canonical form. -/
theorem gatherNetworks_spreadNetworks {fields : Fields} (h : Rule.social fields = []) :
    ∃ flat props, spreadNetworks fields = .ok flat ∧ SocialProps.ofFields fields = .ok props ∧
      SocialProps.ofFields (gatherNetworks flat) =
        .ok { props with networks := mergedNetworks fields } ∧
      mergedNetworks fields = canonicalNetworks props.networks := by
  obtain ⟨props, hprops, -⟩ := sound_ofFields h
  simp only [Rule.social, List.append_eq_nil_iff] at h
  obtain ⟨⟨-, networks⟩, -⟩ := h
  obtain ⟨flat, hflat, hspread⟩ := exists_spreadNetworks networks
  refine ⟨flat, props, hflat, hprops, ?_, mergedNetworks_eq networks hprops⟩
  rw [ofFields_gatherNetworks hspread, (ofFields_eq_ok hprops).1]

/-- A row that says all kinds of things about its networks: one is listed twice, one without an
address though it has a field, one with a null address, and of two fields one is null. -/
def mixedRow : Fields :=
  let entry (name : String) (url : Value) : Value := .object [("type", .text name), ("url", url)]
  [("iconSize", .int 40), ("twitterUrl", .text "https://field"), ("youtubeUrl", .text "https://y"),
    ("networks", .list [entry "twitter" (.text "https://t"), entry "facebook" (.text ""),
      entry "linkedin" .null, entry "twitter" (.text "https://x")]),
    ("facebookUrl", .text "https://f"), ("instagramUrl", .null), ("align", .null)]

theorem gatherNetworks_spreadNetworks_mixedRow :
    Rule.social mixedRow = [] ∧
      (∃ flat props, spreadNetworks mixedRow = .ok flat ∧ SocialProps.ofFields mixedRow = .ok props ∧
        SocialProps.ofFields (gatherNetworks flat) =
          .ok { props with networks := mergedNetworks mixedRow } ∧
        mergedNetworks mixedRow = canonicalNetworks props.networks) ∧
      (mergedNetworks mixedRow).map (·.toValue) =
        [.object [("type", .text "twitter"), ("url", .text "https://x")],
          .object [("type", .text "youtube"), ("url", .text "https://y")]] :=
  ⟨rfl, gatherNetworks_spreadNetworks rfl, rfl⟩

end Editor

end EmailStudio
