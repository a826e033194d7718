import EmailStudio.Proofs.Editor.Saving

/-!
# Loading what was saved

The editor shows a template and its canonical form alike: by `dataOf_canonical` they have the same
nodes and the same zones. So what the editor sends back loads as what it was given, and nothing is
left to change after the first time (`Template.IsStored.reloads`).
-/

namespace EmailStudio

namespace Editor

/-! ## The canonical form -/

theorem flatProps_canonical {b : Block} (h : b.PropsSound) :
    flatProps b.canonical = flatProps b := by
  cases b with
  | social props => exact SocialProps.Sound.flatFields_canonical h
  | _ => rfl

theorem nodeOf_canonical {b : Block} (h : b.PropsSound) (id : String) :
    nodeOf id b.canonical = nodeOf id b := by
  rw [nodeOf, nodeOf, Block.kind_canonical, flatProps_canonical h]

theorem nodesFrom_map_canonical {bs : List Block} (h : ∀ b ∈ bs, b.PropsSound) (id : String)
    (index : Nat) : nodesFrom id index (bs.map Block.canonical) = nodesFrom id index bs := by
  induction bs generalizing index with
  | nil => rfl
  | cons b rest ih =>
    obtain ⟨hb, h⟩ := List.forall_mem_cons.1 h
    rw [List.map_cons, nodesFrom, nodesFrom, nodeOf_canonical hb, ih h]

theorem zonesFrom_map_canonical {bs : List Block}
    (each : ∀ b ∈ bs, ∀ id, zonesOf id b.canonical = zonesOf id b) (id : String) (index : Nat) :
    zonesFrom id index (bs.map Block.canonical) = zonesFrom id index bs := by
  induction bs generalizing index with
  | nil => rfl
  | cons b rest ih =>
    obtain ⟨hb, each⟩ := List.forall_mem_cons.1 each
    rw [List.map_cons, zonesFrom, zonesFrom, hb, ih each]

theorem zonesOf_canonical {depth : Int} {b : Block} (h : b.Sound depth) (id : String) :
    zonesOf id b.canonical = zonesOf id b := by
  induction b using Block.inductionOnChildren generalizing depth id with
  | step b ih =>
    rw [zonesOf_eq, zonesOf_eq, Block.kind_canonical, Block.children_canonical,
      nodesFrom_map_canonical fun child hc => (h.child hc).props,
      zonesFrom_map_canonical fun child hc id => ih child hc (h.child hc) id]

/-- A template and its canonical form are shown alike. -/
theorem dataOf_canonical {t : Template} (h : t.Sound) : dataOf t.canonical = dataOf t := by
  have content : nodesFrom "block" 0 t.canonical.content = nodesFrom "block" 0 t.content :=
    nodesFrom_map_canonical (fun b hb => (h.content b hb).props) "block" 0
  have zones : zonesFrom "block" 0 t.canonical.content = zonesFrom "block" 0 t.content :=
    zonesFrom_map_canonical (fun b hb id => zonesOf_canonical (h.content b hb) id) "block" 0
  rw [dataOf, dataOf, content, zones]
  rfl

/-! ## What comes back -/

theorem isStoredForm_returned : IsStoredForm Block.returned Block.returnedProps where
  eq := Block.returned_eq
  flattens b h := by
    cases b with
    | social row => exact spreadNetworks_eq h rfl rfl
    | _ => rfl

theorem ofTemplate_returned {t : Template} (h : t.Sound) :
    Data.ofTemplate t.returned = .ok (dataOf t) := by
  have hlist : Fields.get t.returned.fields "content" = .list (t.content.map Block.returned) := rfl
  rw [Data.ofTemplate, hlist, isStoredForm_returned.forestOfList_content h]
  rfl

/-- What the editor sends back loads as what it was given. -/
theorem ofTemplate_canonical_returned {t : Template} (h : t.Sound) :
    Data.ofTemplate t.canonical.returned = .ok (dataOf t) :=
  dataOf_canonical h ▸ ofTemplate_returned h.canonical

theorem ofTemplate_canonical_toValue {t : Template} (h : t.Sound) :
    Data.ofTemplate t.canonical.toValue = .ok (dataOf t) :=
  dataOf_canonical h ▸ ofTemplate_toValue h.canonical

end Editor

/-- What the editor sends back for a published template is published as one that loads as before. -/
theorem Template.IsStored.reloads {template : Value} {markup : String}
    (h : Template.IsStored template markup) :
    ∃ data back, Editor.Data.ofTemplate template = .ok data ∧
      Editor.templateOf data.toValue = .ok back ∧
      ∀ {later : Value} {markup : String}, Publisher.compile back = .ok (later, markup) →
        Editor.Data.ofTemplate later = .ok data := by
  obtain ⟨hvalid, t, hread, rfl, -⟩ := h
  have hs := Template.sound_of_ofValue hvalid hread
  refine ⟨_, _, Editor.ofTemplate_toValue hs, Editor.templateOf_dataOf hs,
    fun {later markup} hcompile => ?_⟩
  obtain ⟨-, returned, hreturned, rfl, -⟩ := Publisher.compile_eq_ok_iff.1 hcompile
  have hreadable := Template.readable_canonical (Template.readable_of_ofValue hread)
  cases (Template.ofValue_returned hreadable).symm.trans hreturned
  exact Editor.ofTemplate_canonical_toValue hs

end EmailStudio
