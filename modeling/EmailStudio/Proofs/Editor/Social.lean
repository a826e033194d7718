import EmailStudio.Editor.Social
import EmailStudio.Proofs.Validation.Soundness
import EmailStudio.Proofs.Value.Fields
import Mathlib.Data.List.Nodup

/-!
# Social networks there and back

What is left of a row of icons once its list of networks was spread over the fields of the editor
and gathered again: `SocialProps.canonical`. The list has at most one entry of each network then,
the last one, in the order of the catalog and only if it has an address.
-/

namespace EmailStudio

namespace SocialProps

/-- The last entry of a network, if any. -/
def lastOf (networks : List SocialNetwork) (name : String) : Option SocialNetwork :=
  (networks.filter (·.isOf name)).getLast?

/-- The networks in the order of the catalog, each by its last entry if that has an address. -/
def canonicalNetworks (networks : List SocialNetwork) : List SocialNetwork :=
  Catalog.socialNetworks.filterMap fun name =>
    (lastOf networks name).filter (·.url.truthy)

example :
    (canonicalNetworks [⟨.text "twitter", .text "https://t"⟩, ⟨.text "facebook", .text "https://f"⟩,
      ⟨.text "linkedin", .text ""⟩, ⟨.text "twitter", .text "https://x"⟩]).map (·.toValue) =
      [.object [("type", .text "facebook"), ("url", .text "https://f")],
        .object [("type", .text "twitter"), ("url", .text "https://x")]] := by
  rfl

def canonical (props : SocialProps) : SocialProps :=
  { props with networks := canonicalNetworks props.networks }

/-- The fields of a row apart from its networks. -/
def looks (props : SocialProps) : Fields :=
  [("iconSize", props.iconSize), ("align", props.align), ("iconStyle", props.iconStyle)]

/-- The address that the field of a network is given. -/
def urlOf (networks : List SocialNetwork) (name : String) : Value :=
  ((lastOf networks name).map (·.url)).getD (.text "")

/-- The fields of a row in the manner of the editor. -/
def flatFields (props : SocialProps) : Fields :=
  props.looks ++ Catalog.socialNetworks.map fun name =>
    (Catalog.urlField name, urlOf props.networks name)

theorem lastOf_cons (network : SocialNetwork) (networks : List SocialNetwork) (name : String) :
    lastOf (network :: networks) name =
      if network.isOf name then (lastOf networks name).or (some network)
      else lastOf networks name := by
  unfold lastOf
  rw [List.filter_cons]
  split_ifs
  · rw [List.getLast?_cons]
    cases (networks.filter (·.isOf name)).getLast? <;> rfl
  · rfl

theorem mem_of_lastOf {networks : List SocialNetwork} {name : String} {network : SocialNetwork}
    (h : lastOf networks name = some network) : network ∈ networks ∧ network.isOf name = true :=
  List.mem_filter.1 (List.mem_of_getLast? h)

theorem mem_of_mem_canonicalNetworks {networks : List SocialNetwork} {network : SocialNetwork}
    (h : network ∈ canonicalNetworks networks) : network ∈ networks := by
  obtain ⟨name, -, hn⟩ := List.mem_filterMap.1 h
  exact (mem_of_lastOf (Option.filter_eq_some_iff.1 hn).1).1

theorem filter_canonicalNetworks (networks : List SocialNetwork) :
    (canonicalNetworks networks).filter (·.url.truthy) = canonicalNetworks networks := by
  refine List.filter_eq_self.2 fun network h => ?_
  obtain ⟨name, -, hn⟩ := List.mem_filterMap.1 h
  exact (Option.filter_eq_some_iff.1 hn).2

theorem Sound.canonical {props : SocialProps} (h : props.Sound) : props.canonical.Sound :=
  { h with networks := fun network hn => h.networks network (mem_of_mem_canonicalNetworks hn) }

end SocialProps

namespace SocialNetwork

theorem Sound.type_eq {network : SocialNetwork} (h : network.Sound) :
    ∃ name, network.type = .text name := by
  have := h.type
  cases ht : network.type with
  | text s => exact ⟨s, rfl⟩
  | _ => simp [ht, Rule.isOneOf] at this

theorem isOf_iff {network : SocialNetwork} {name : String} :
    network.isOf name = true ↔ network.type = .text name := by
  unfold isOf
  cases network.type <;> simp

end SocialNetwork

namespace SocialProps

/-- Among entries that are made of different names, that of a name is the only one of its
network. -/
theorem lastOf_filterMap {names : List String} {entry : String → Option SocialNetwork}
    (type : ∀ name network, entry name = some network → network.type = .text name)
    (nodup : names.Nodup) {name : String} (hname : name ∈ names) :
    lastOf (names.filterMap entry) name = entry name := by
  have own (other : String) : (entry other).filter (·.isOf name) =
      if other = name then entry other else none := by
    cases hentry : entry other with
    | none => rw [Option.filter_none, ite_self]
    | some network =>
      have htype : network.isOf name = decide (other = name) := by
        rw [Bool.eq_iff_iff, SocialNetwork.isOf_iff, type other network hentry, Value.text.injEq,
          decide_eq_true_iff]
      rw [Option.filter_some, htype]
      by_cases h : other = name <;> simp [h]
  have hsingle : names.filter (· = name) = [name] := by
    rw [List.filter_eq, List.count_eq_one_of_mem nodup hname, List.replicate_one]
  have hfilter : (names.filterMap entry).filter (·.isOf name) = [name].filterMap entry := by
    rw [List.filter_filterMap, ← hsingle, List.filterMap_filter]
    simp only [own, decide_eq_true_eq]
  rw [lastOf, hfilter]
  cases h : entry name <;> simp [h]

/-- The canonical form keeps the entries that it is made of. -/
theorem lastOf_canonicalNetworks (networks : List SocialNetwork) {name : String}
    (hname : name ∈ Catalog.socialNetworks) :
    lastOf (canonicalNetworks networks) name = (lastOf networks name).filter (·.url.truthy) :=
  lastOf_filterMap (fun _ _ h =>
    SocialNetwork.isOf_iff.1 (mem_of_lastOf (Option.filter_eq_some_iff.1 h).1).2) (by decide) hname

/-- The canonical form leaves out nothing but empty addresses, and these are as good as none. -/
theorem urlOf_canonicalNetworks {networks : List SocialNetwork}
    (h : ∀ network ∈ networks, network.Sound) {name : String}
    (hname : name ∈ Catalog.socialNetworks) :
    urlOf (canonicalNetworks networks) name = urlOf networks name := by
  rw [urlOf, urlOf, lastOf_canonicalNetworks networks hname]
  cases hlast : lastOf networks name with
  | none => rfl
  | some network =>
    rw [Option.filter_some]
    split_ifs with hurl
    · rfl
    · have hempty := Value.orElse_of_isText (h network (mem_of_lastOf hlast).1).url
      rw [Value.orElse, if_neg hurl] at hempty
      exact hempty

theorem Sound.flatFields_canonical {props : SocialProps} (h : props.Sound) :
    props.canonical.flatFields = props.flatFields := by
  refine congrArg (props.looks ++ ·) (List.map_congr_left fun name hname => ?_)
  exact congrArg (Prod.mk _) (urlOf_canonicalNetworks h.networks hname)

end SocialProps

/-! ## Spreading -/

namespace Editor

open SocialProps

/-- Entries write their addresses over those of the entries of their networks before them. -/
theorem foldlM_listUrl {networks : List SocialNetwork} (h : ∀ network ∈ networks, network.Sound)
    (start : Fields) :
    ∃ urls : Fields, (networks.map (·.toValue)).foldlM listUrl start = .ok urls ∧
      ∀ name, urls.get? name = ((lastOf networks name).map (·.url)).or (start.get? name) := by
  induction networks generalizing start with
  | nil => exact ⟨start, rfl, fun _ => rfl⟩
  | cons network networks ih =>
    obtain ⟨hn, h⟩ := List.forall_mem_cons.1 h
    obtain ⟨type, ht⟩ := hn.type_eq
    obtain ⟨urls, hurls, hget⟩ := ih h (start.set type network.url)
    have hstep : listUrl start network.toValue = .ok (start.set type network.url) := by
      rw [SocialNetwork.toValue, ht]
      exact congrArg (fun url => Except.ok (start.set type url)) (Value.orElse_of_isText hn.url)
    refine ⟨urls, ?_, fun name => ?_⟩
    · rw [List.map_cons, List.foldlM_cons, hstep]
      exact hurls
    · rw [hget, Fields.get?_set, lastOf_cons]
      by_cases hname : type = name
      · rw [if_pos hname, if_pos (SocialNetwork.isOf_iff.2 (ht.trans (congrArg _ hname)))]
        cases lastOf networks name <;> rfl
      · rw [if_neg hname, if_neg fun hof => hname ?_]
        exact Value.text.inj (ht.symm.trans (SocialNetwork.isOf_iff.1 hof))

theorem listedUrls_map {networks : List SocialNetwork} (h : ∀ network ∈ networks, network.Sound) :
    ∃ urls : Fields, listedUrls (networks.map (·.toValue)) = .ok urls ∧
      ∀ name, urls.get? name = (lastOf networks name).map (·.url) := by
  obtain ⟨urls, hurls, hget⟩ := foldlM_listUrl h []
  exact ⟨urls, hurls, fun name => (hget name).trans Option.or_none⟩

/-- Spreading writes the address of each network behind the other fields, wherever the list stood. -/
theorem spreadNetworks_eq {props : SocialProps} {fields : Fields} (h : props.Sound)
    (list : (fields.get "networks").items = props.networks.map (·.toValue))
    (rest : fields.erase "networks" = props.looks) :
    spreadNetworks fields = .ok props.flatFields := by
  obtain ⟨urls, hurls, hget⟩ := listedUrls_map h.networks
  have hurl : ∀ name, (urls.get? name).getD (.text "") = urlOf props.networks name := fun name => by
    rw [hget, urlOf]
  rw [spreadNetworks, list, hurls, rest]
  refine congrArg Except.ok ?_
  simp only [flatFields, ← hurl]
  rfl

/-! ## Gathering -/

theorem get_flatFields {props : SocialProps} {name : String} (h : name ∈ Catalog.socialNetworks) :
    props.flatFields.get (Catalog.urlField name) = urlOf props.networks name := by
  simp only [Catalog.socialNetworks, List.mem_cons, List.not_mem_nil, or_false] at h
  rcases h with rfl | rfl | rfl | rfl | rfl <;> rfl

theorem gatheredNetworks_flatFields (props : SocialProps) :
    gatheredNetworks props.flatFields = props.canonical.networks.map (·.toValue) := by
  rw [gatheredNetworks, canonical, canonicalNetworks, List.map_filterMap]
  refine List.filterMap_congr fun name hname => ?_
  rw [get_flatFields hname, urlOf]
  cases hlast : lastOf props.networks name with
  | none => rfl
  | some network =>
    have htype := SocialNetwork.isOf_iff.1 (mem_of_lastOf hlast).2
    simp only [Option.map_some, Option.getD_some, Option.filter_some]
    split_ifs
    · rw [Option.map_some, SocialNetwork.toValue, htype]
    · rfl

/-- Gathering puts the list in place of the addresses. -/
theorem gatherNetworks_flatFields (props : SocialProps) :
    gatherNetworks props.flatFields =
      props.looks ++ [("networks", .list (props.canonical.networks.map (·.toValue)))] := by
  have hnone : Fields.has props.flatFields "networks" = false := rfl
  rw [gatherNetworks, if_neg (by simp [hnone]), gatheredNetworks_flatFields]
  rfl

end Editor

end EmailStudio
