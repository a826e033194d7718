import EmailStudio.Proofs.Api.Finite
import EmailStudio.Proofs.Editor.Opening

/-!
# Opening what is finite

A draft may be anything, so nothing is known of the values in it. But opening a draft only passes
its values on and adds texts to them, so that by `finite_ofTemplate` the editor data is finite if
the draft is. A response carries all of it then.
-/

namespace EmailStudio.Api

/-! ## Parts of what is finite -/

theorem finite_object_iff {fields : Fields} :
    finite (.object fields) = .object fields ↔ FiniteFields fields := by
  refine ⟨fun h => ?_, finite_object⟩
  rw [finite, Value.object.injEq] at h
  induction fields with
  | nil => exact finiteFields_nil
  | cons field rest ih =>
    rw [finite.finiteFields, List.cons.injEq] at h
    exact finiteFields_cons (congrArg Prod.snd h.1) (ih h.2)

theorem finite_list_iff {items : List Value} :
    finite (.list items) = .list items ↔ ∀ item ∈ items, finite item = item := by
  refine ⟨fun h => ?_, finite_list⟩
  rw [finite, Value.list.injEq] at h
  induction items with
  | nil => exact fun _ hitem => absurd hitem List.not_mem_nil
  | cons item rest ih =>
    rw [finite.finiteItems, List.cons.injEq] at h
    exact List.forall_mem_cons.2 ⟨h.1, ih h.2⟩

theorem finiteFields_fields {v : Value} (h : finite v = v) : FiniteFields v.fields := by
  cases v with
  | object fields => exact finite_object_iff.1 h
  | _ => exact finiteFields_nil

theorem finite_of_mem_items {v item : Value} (h : finite v = v) (hitem : item ∈ v.items) :
    finite item = item := by
  cases v with
  | list items => exact finite_list_iff.1 h item hitem
  | _ => cases hitem

theorem finite_orElse {v default : Value} (h : finite v = v) (hd : finite default = default) :
    finite (v.orElse default) = v.orElse default := by
  unfold Value.orElse
  split_ifs
  · exact h
  · exact hd

namespace FiniteFields

variable {fields changes urls props : Fields}

theorem get?_eq_some {key : String} {v : Value} (h : FiniteFields fields)
    (hv : fields.get? key = some v) : finite v = v := by
  induction fields with
  | nil => cases hv
  | cons field rest ih =>
    obtain ⟨hfield, h⟩ := List.forall_mem_cons.1 h
    unfold Fields.get? at hv
    split_ifs at hv
    · rw [← Option.some.inj hv]
      exact hfield
    · exact ih h hv

theorem getD (h : FiniteFields fields) (key : String) {default : Value}
    (hd : finite default = default) :
    finite ((fields.get? key).getD default) = (fields.get? key).getD default := by
  cases hv : fields.get? key with
  | none => exact hd
  | some v => exact h.get?_eq_some hv

theorem get (h : FiniteFields fields) (key : String) :
    finite (fields.get key) = fields.get key :=
  h.getD key rfl

theorem set (h : FiniteFields fields) (key : String) {v : Value} (hv : finite v = v) :
    FiniteFields (fields.set key v) := by
  induction fields with
  | nil => exact finiteFields_cons hv finiteFields_nil
  | cons field rest ih =>
    obtain ⟨hfield, h⟩ := List.forall_mem_cons.1 h
    unfold Fields.set
    split_ifs
    · exact finiteFields_cons hv h
    · exact finiteFields_cons hfield (ih h)

theorem erase (h : FiniteFields fields) (key : String) : FiniteFields (fields.erase key) :=
  fun field hfield => h field (List.mem_of_mem_filter hfield)

theorem update (h : FiniteFields fields) (hc : FiniteFields changes) :
    FiniteFields (fields.update changes) :=
  List.foldlRecOn changes _ h fun _ hacc change hchange => hacc.set _ (hc change hchange)

end FiniteFields

/-! ## Rows of icons -/

open Editor

theorem finiteFields_listUrl {urls later : Fields} {item : Value} (h : FiniteFields urls)
    (hitem : finite item = item) (hlater : listUrl urls item = .ok later) :
    FiniteFields later := by
  cases item with
  | object entry =>
    have hurl := finite_orElse ((finite_object_iff.1 hitem).get "url")
      (show finite (.text "") = .text "" from rfl)
    unfold listUrl at hlater
    dsimp only at hlater
    split at hlater <;> cases hlater
    · exact h.set _ hurl
    · exact h
  | _ =>
    cases hlater
    exact h

theorem finiteFields_listedUrls {items : List Value} {urls : Fields}
    (h : ∀ item ∈ items, finite item = item) (hurls : listedUrls items = .ok urls) :
    FiniteFields urls := by
  exact Outcome.foldlM_induction hurls finiteFields_nil fun item hitem _ _ hbefore =>
    finiteFields_listUrl hbefore (h item hitem)

theorem finiteFields_spreadNetworks {props spread : Fields} (h : FiniteFields props)
    (hspread : spreadNetworks props = .ok spread) : FiniteFields spread := by
  obtain ⟨urls, hurls, hfold⟩ := Outcome.bind_eq_ok_iff.1 hspread
  have hlisted := finiteFields_listedUrls (fun _ => finite_of_mem_items (h.get "networks")) hurls
  rw [← Outcome.pure_eq_ok_iff.1 hfold]
  refine List.foldlRecOn _ _ (h.erase "networks") fun acc hacc name _ => ?_
  exact hacc.set _ (hlisted.getD name (hacc.getD _ rfl))

/-! ## Blocks -/

theorem finite_ofBlock {id : String} {fields : Fields} {node : Editor.Node}
    (h : FiniteFields fields) (hnode : Editor.Node.ofBlock id fields = .ok node) :
    finite node.toValue = node.toValue := by
  have made {props : Fields} (hprops : FiniteFields props) :
      finite (Editor.Node.toValue ⟨fields.get "type", Fields.set "id" (.text id) props⟩) = _ :=
    finite_object (finiteFields_cons (h.get "type")
      (finiteFields_cons (finite_object (hprops.set "id" rfl)) finiteFields_nil))
  have hgiven := finiteFields_fields (h.get "props")
  rw [Editor.Node.ofBlock] at hnode
  split_ifs at hnode
  · obtain ⟨props, hprops, hmade⟩ := Outcome.bind_eq_ok_iff.1 hnode
    exact Outcome.pure_eq_ok_iff.1 hmade ▸ made (finiteFields_spreadNetworks hgiven hprops)
  · rw [pure_bind, Outcome.pure_eq_ok_iff] at hnode
    exact hnode ▸ made hgiven

/-- The nodes of a forest and those in its zones are finite. -/
structure FiniteForest (forest : Data.Forest) : Prop where
  nodes : FiniteNodes forest.1
  zones : ∀ entry ∈ forest.2, FiniteNodes entry.2

theorem finiteForest_nil : FiniteForest ([], []) :=
  ⟨fun _ h => absurd h List.not_mem_nil, fun _ h => absurd h List.not_mem_nil⟩

theorem finiteForest_ofItems {items : List Value} {id : String} {index : Nat}
    {forest : Data.Forest}
    (each : ∀ v ∈ items, ∀ id first, Data.forestOf id v = .ok first → FiniteForest first)
    (h : Data.forestOfItems id index items = .ok forest) : FiniteForest forest := by
  induction items generalizing index forest with
  | nil =>
    rw [Data.forestOfItems] at h
    cases h
    exact finiteForest_nil
  | cons v rest ih =>
    obtain ⟨hv, each⟩ := List.forall_mem_cons.1 each
    rw [Data.forestOfItems] at h
    obtain ⟨first, hfirst, h⟩ := Outcome.bind_eq_ok_iff.1 h
    obtain ⟨more, hmore, h⟩ := Outcome.bind_eq_ok_iff.1 h
    have hone := hv _ first hfirst
    have hrest := ih each hmore
    rw [← Outcome.pure_eq_ok_iff.1 h]
    exact ⟨List.forall_mem_append.2 ⟨hone.nodes, hrest.nodes⟩,
      List.forall_mem_append.2 ⟨hone.zones, hrest.zones⟩⟩

theorem finiteForest_ofList {v : Value} {id : String} {forest : Data.Forest}
    (each : ∀ item ∈ v.items, ∀ id first, Data.forestOf id item = .ok first → FiniteForest first)
    (h : Data.forestOfList id v = .ok forest) : FiniteForest forest := by
  cases v with
  | list items =>
    rw [Data.forestOfList] at h
    exact finiteForest_ofItems each h
  | _ =>
    rw [Data.forestOfList] at h
    · cases h
      exact finiteForest_nil
    · intro items hitems
      cases hitems

theorem finiteForest_of {id : String} {v : Value} {forest : Data.Forest} (hv : finite v = v)
    (h : Data.forestOf id v = .ok forest) : FiniteForest forest := by
  induction v using Value.inductionOnChildren generalizing id forest with
  | step v ih =>
    cases v with
    | object fields =>
      have hfields := finite_object_iff.1 hv
      have hchildren : ∀ child ∈ (Fields.get fields "children").items, finite child = child :=
        fun _ => finite_of_mem_items (hfields.get "children")
      rw [Data.forestOf, forestOfChildrenIn_eq] at h
      obtain ⟨node, hnode, h⟩ := Outcome.bind_eq_ok_iff.1 h
      have hsingle : FiniteNodes [node] :=
        List.forall_mem_singleton.2 (finite_ofBlock hfields hnode)
      split_ifs at h
      · obtain ⟨below, hbelow, h⟩ := Outcome.bind_eq_ok_iff.1 h
        have hforest := finiteForest_ofList
          (fun child hchild _ _ => ih child hchild (hchildren child hchild)) hbelow
        rw [← Outcome.pure_eq_ok_iff.1 h]
        exact ⟨hsingle, List.forall_mem_append.2
          ⟨hforest.zones, List.forall_mem_singleton.2 hforest.nodes⟩⟩
      · rw [← Outcome.pure_eq_ok_iff.1 h]
        exact ⟨hsingle, finiteForest_nil.zones⟩
    | _ =>
      rw [Data.forestOf] at h
      · cases h
        exact finiteForest_nil
      · intro fields hfields
        cases hfields

/-- What the editor makes of a value that is finite is finite. -/
theorem finite_ofTemplate {template : Value} {data : Data} (h : finite template = template)
    (hdata : Data.ofTemplate template = .ok data) : finite data.toValue = data.toValue := by
  have hfields := finiteFields_fields h
  obtain ⟨forest, hforest, hmade⟩ := Outcome.bind_eq_ok_iff.1 hdata
  have hf := finiteForest_ofList (fun _ hitem _ _ => finiteForest_of
    (finite_of_mem_items (hfields.get "content") hitem)) hforest
  rw [← Outcome.pure_eq_ok_iff.1 hmade]
  have root : FiniteFields (Fields.update (Fields.update []
      (Fields.get template.fields "settings").fields)
      (Fields.get template.fields "metadata").fields) :=
    (finiteFields_nil.update (finiteFields_fields (hfields.get "settings"))).update
      (finiteFields_fields (hfields.get "metadata"))
  refine finite_object (finiteFields_cons (finite_list (List.forall_mem_map.2 hf.nodes)) <|
    finiteFields_cons (finite_object (finiteFields_cons (finite_object root) finiteFields_nil)) <|
    finiteFields_cons (finite_object (List.forall_mem_map.2 ?_)) finiteFields_nil)
  exact fun entry hentry => finite_list (List.forall_mem_map.2 (hf.zones entry hentry))

end EmailStudio.Api
