import EmailStudio.Proofs.Markup.Filling
import EmailStudio.Proofs.Publishing.Publisher
import EmailStudio.Proofs.Value.Edit

/-!
# Free text

A candidate has free text in its metadata and settings, in props of its blocks and in the entries
of its rows of icons, at any depth: `Template.TextAt` says where, and how it is written. The main
result is `Publisher.compile_setAt`. Whatever text is put in such a place, the markup is made of the
same pieces, with the escaped text between them; and escaped text has neither tags nor quotes in it.
-/

namespace EmailStudio

/-! ## Filling a place -/

namespace Value

/-- The family of values that a value becomes when a place in it is filled. -/
def Fills (v : Value) (path : List Step) (family : Filling → Value) : Prop :=
  family none = v ∧ ∀ s : Filled, v.setAt path (.text s) = .ok (family (some s))

namespace Fills

variable {v inner : Value} {path : List Step} {family : Filling → Value}

theorem path_ne_nil (h : Fills v path family) : path ≠ [] := by
  rintro rfl
  cases h.2 ⟨"x", by decide⟩

/-- A field of an object. -/
theorem field (fields : Fields) (key : String) :
    Fills (.object fields) [.name key] fun i => .object (fields.fill key i) :=
  ⟨rfl, fun _ => rfl⟩

theorem below_field {fields : Fields} {key : String} (h : Fills inner path family)
    (hk : fields.get? key = some inner) :
    Fills (.object fields) (.name key :: path) fun i => .object (fields.set key (family i)) := by
  refine ⟨?_, fun s => ?_⟩
  · show object (fields.set key (family none)) = object fields
    rw [h.1, Fields.set_of_get? hk]
  · exact setAt_cons h.path_ne_nil (part_name hk) (h.2 s)

theorem below_item {items : List Value} {n : Nat} (h : Fills inner path family)
    (hn : items[n]? = some inner) :
    Fills (.list items) (.index n :: path) fun i => .list (items.set n (family i)) := by
  refine ⟨?_, fun s => ?_⟩
  · show list (items.set n (family none)) = list items
    rw [h.1, set_of_getElem? hn]
  · rw [setAt_cons h.path_ne_nil (part_index hn) (h.2 s),
      put_index (List.getElem?_eq_some_iff.1 hn).1]

end Fills

end Value

/-! ## Where free text is -/

/-- The places of a block and of the blocks below it that hold free text, and how it is written. -/
inductive Block.TextAt : Value → List Step → (String → String) → Prop
  | prop {fields props : Fields} {kind : Kind} {key : String} (hk : kindOf fields = .ok kind)
      (hp : fields.get? "props" = some (.object props)) (hkey : key ∈ kind.textProps) :
      TextAt (.object fields) [.name "props", .name key] (kind.writes key)
  | entry {fields props entry : Fields} {items : List Value} {n : Nat}
      (hk : kindOf fields = .ok .social) (hp : fields.get? "props" = some (.object props))
      (hn : props.get? "networks" = some (.list items)) (hi : items[n]? = some (.object entry)) :
      TextAt (.object fields) [.name "props", .name "networks", .index n, .name "url"] Text.escape
  | child {fields : Fields} {items : List Value} {n : Nat} {child : Value} {path : List Step}
      {write : String → String} (hk : kindOf fields = .ok .columns)
      (hc : fields.get? "children" = some (.list items)) (hn : items[n]? = some child)
      (h : TextAt child path write) :
      TextAt (.object fields) (.name "children" :: .index n :: path) write

/-- The places of a template that hold free text, and how that is written. -/
inductive Template.TextAt : Value → List Step → (String → String) → Prop
  | metadata {fields metadata : Fields} {key : String}
      (hm : fields.get? "metadata" = some (.object metadata))
      (hkey : key ∈ ["subject", "preheader"]) :
      TextAt (.object fields) [.name "metadata", .name key] Text.escape
  | settings {fields settings : Fields} {key : String}
      (hs : fields.get? "settings" = some (.object settings))
      (hkey : key ∈ ["backgroundColor", "fontFamily"]) :
      TextAt (.object fields) [.name "settings", .name key] Text.escape
  | block {fields : Fields} {items : List Value} {n : Nat} {block : Value} {path : List Step}
      {write : String → String} (hc : fields.get? "content" = some (.list items))
      (hn : items[n]? = some block) (h : Block.TextAt block path write) :
      TextAt (.object fields) (.name "content" :: .index n :: path) write

/-! ## Reading what was filled -/

theorem Fields.objectAt_set_of_ne {fields : Fields} {key name : String} (h : key ≠ name)
    (v : Value) : Fields.objectAt (fields.set key v) name = fields.objectAt name := by
  rw [objectAt, get_set_of_ne h, ← objectAt]

namespace Block

/-- The fields of a block that stand for its kind and its props. -/
theorem exists_ofProps {fields props : Fields} {kind : Kind} {b : Block}
    (hk : kindOf fields = .ok kind) (hp : fields.get? "props" = some (.object props))
    (hb : ofValue (.object fields) = .ok b) : ∃ bare, ofProps kind props = .ok bare := by
  have hprops : fields.objectAt "props" = .ok props :=
    Fields.objectAt_of_get (by rw [Fields.get, hp, Option.getD_some])
  obtain ⟨_, _, _, bare, hv, hk', hp', hbare, -⟩ := ofValue_eq_ok hb
  cases hv
  cases hk.symm.trans hk'
  cases hprops.symm.trans hp'
  exact ⟨bare, hbare⟩

theorem kindOf_set {fields : Fields} {kind : Kind} {key : String} (hk : kindOf fields = .ok kind)
    (h : key ≠ "type") (v : Value) : kindOf (fields.set key v) = .ok kind := by
  rw [kindOf_eq_ok_iff, Fields.get_set_of_ne h]
  exact kindOf_eq_ok_iff.1 hk

/-- A block with other props of its kind. -/
theorem ofValue_set_props {fields props : Fields} {kind : Kind} {b : Block}
    (hk : kindOf fields = .ok kind) (hcol : kind ≠ .columns) (hb : ofProps kind props = .ok b) :
    ofValue (.object (fields.set "props" (.object props))) = .ok b := by
  have hprops : Fields.objectAt (fields.set "props" (.object props)) "props" = .ok props :=
    Fields.objectAt_of_get (Fields.get_set_self _)
  rw [ofValue_object (kindOf_set hk (by decide) _) hprops hb, if_neg hcol]

/-- Columns hold what their children read as, whatever the children are. -/
theorem exists_columns {fields : Fields} {items : List Value} {b : Block}
    (hk : kindOf fields = .ok .columns) (hc : fields.get? "children" = some (.list items))
    (hb : ofValue (.object fields) = .ok b) :
    ∃ props bs, b = columns props bs ∧ ofItems items = .ok bs ∧
      ∀ {others : List Value} {read : List Block}, ofItems others = .ok read →
        ofValue (.object (fields.set "children" (.list others))) = .ok (columns props read) := by
  obtain ⟨_, _, inner, bare, hv, hk', hp, hbare, hread⟩ := ofValue_eq_ok hb
  cases hv
  cases hk.symm.trans hk'
  have hchildren : fields.get "children" = .list items := by
    rw [Fields.get, hc, Option.getD_some]
  cases hbare
  rw [if_pos rfl, hchildren] at hread
  obtain ⟨bs, hbs, rfl⟩ := Outcome.map_eq_ok_iff.1 hread
  refine ⟨_, bs, rfl, hbs, fun {others read} hothers => ?_⟩
  have hprops : Fields.objectAt (fields.set "children" (.list others)) "props" = .ok inner := by
    rw [Fields.objectAt_set_of_ne (by decide), hp]
  have hlist : listIn (.list others) = .ok read := hothers
  rw [ofValue_object (kindOf_set hk (by decide) _) hprops rfl, if_pos rfl, Fields.get_set_self,
    hlist]
  rfl

/-- If one block can be filled, so can a list of blocks that has it among them. -/
theorem exists_filled_item {items : List Value} {bs : List Block} {n : Nat} {v : Value}
    {path : List Step} {write : String → String}
    (h : ∀ {b : Block}, ofValue v = .ok b → ∃ (family : Filling → Value) (filled : Filling → Block),
      v.Fills path family ∧ (∀ i, ofValue (family i) = .ok (filled i)) ∧ IsHoled write filled)
    (hn : items[n]? = some v) (hbs : ofItems items = .ok bs) :
    ∃ (family : Filling → Value) (filled : List (Filling → Block)), v.Fills path family ∧
      (∀ i, ofItems (items.set n (family i)) = .ok (filled.map fun b => b i)) ∧
      ∀ b ∈ filled, IsHoled write b := by
  have hitems := ofItems_eq_ok_iff.1 hbs
  obtain ⟨b, -, hb⟩ := Outcome.exists_of_mem_right hitems.flip (List.mem_of_getElem? hn)
  obtain ⟨family, filled, hplace, hread, hholed⟩ := h hb
  refine ⟨family, replaced bs n filled, hplace, fun i => ?_, ?_⟩
  · rw [map_replaced, ofItems_eq_ok_iff]
    exact Outcome.forall₂_set hitems (hread i) n
  · exact forall_mem_replaced hholed fun b _ => .fixed b

theorem TextAt.exists_filled {v : Value} {path : List Step} {write : String → String} {b : Block}
    (h : TextAt v path write) (hb : ofValue v = .ok b) :
    ∃ (family : Filling → Value) (filled : Filling → Block), v.Fills path family ∧
      (∀ i, ofValue (family i) = .ok (filled i)) ∧ IsHoled write filled := by
  induction h generalizing b with
  | @prop fields props kind key hk hp hkey =>
    obtain ⟨bare, hbare⟩ := exists_ofProps hk hp hb
    obtain ⟨filled, hfilled, hholed⟩ := Block.exists_filled hkey hbare
    have hcol : kind ≠ .columns := by
      rintro rfl
      cases hkey
    exact ⟨_, filled, (Value.Fills.field props key).below_field hp,
      fun i => ofValue_set_props hk hcol (hfilled i), hholed⟩
  | @entry fields props entry items n hk hp hn hi =>
    obtain ⟨bare, hbare⟩ := exists_ofProps hk hp hb
    obtain ⟨filled, hfilled, hholed⟩ := Block.exists_filled_entry hn hi hbare
    have hplace := ((Value.Fills.field entry "url").below_item hi).below_field hn
    exact ⟨_, filled, hplace.below_field hp,
      fun i => ofValue_set_props hk nofun (hfilled i), hholed⟩
  | @child fields items n child path write hk hc hn _ ih =>
    obtain ⟨props, bs, rfl, hbs, hset⟩ := exists_columns hk hc hb
    obtain ⟨family, filled, hplace, hread, hholed⟩ := exists_filled_item ih hn hbs
    exact ⟨_, _, (hplace.below_item hn).below_field hc, fun i => hset (hread i),
      .columns props hholed⟩

end Block

namespace Template

variable {write : String → String}

theorem isHoled_assembled {fields metadata settings : Filling → Fields}
    {content : List (Filling → Block)}
    (hm : ∀ name default, Value.IsSlot write fun i => (metadata i).present name default)
    (hs : ∀ name default, Value.IsSlot write fun i => (settings i).present name default)
    (hwidth : ∀ i, (settings i).get? "contentWidth" = (settings none).get? "contentWidth")
    (hc : ∀ b ∈ content, Block.IsHoled write b) :
    IsHoled write fun i =>
      assembled (fields i) (metadata i) (settings i) (content.map fun b => b i) where
  subject := hm _ _
  preheader := hm _ _
  backgroundColor := hs _ _
  fontFamily := hs _ _
  contentWidth i := by simp only [assembled, Fields.present, hwidth i]
  content := ⟨content, hc, fun _ => rfl⟩

theorem TextAt.exists_filled {v : Value} {path : List Step} {t : Template}
    (h : TextAt v path write) (ht : ofValue v = .ok t) :
    ∃ (family : Filling → Value) (filled : Filling → Template), v.Fills path family ∧
      (∀ i, ofValue (family i) = .ok (filled i)) ∧ IsHoled write filled := by
  cases h with
  | @metadata fields metadata key hm hkey =>
    obtain ⟨_, -, settings, hsettings, content, hcontent, -⟩ := ofValue_eq_ok_iff.1 ht
    have hread (i : Filling) :
        ofValue (.object (fields.set "metadata" (.object (metadata.fill key i)))) =
          .ok (assembled (fields.set "metadata" (.object (metadata.fill key i)))
            (metadata.fill key i) settings ((content.map fun b _ => b).map fun b => b i)) := by
      refine ofValue_of (Fields.objectAt_of_get (Fields.get_set_self _)) ?_ ?_
      · rw [Fields.objectAt_set_of_ne (by decide), hsettings]
      · rw [Fields.get_set_of_ne (by decide), hcontent, map_constant]
    refine ⟨_, _, (Value.Fills.field metadata key).below_field hm, hread, ?_⟩
    refine isHoled_assembled (Fields.isSlot_present metadata key) (fun _ _ => .kept _)
      (fun _ => rfl) ?_
    exact List.forall_mem_map.2 fun b _ => .fixed b
  | @settings fields settings key hs hkey =>
    obtain ⟨metadata, hmetadata, _, -, content, hcontent, -⟩ := ofValue_eq_ok_iff.1 ht
    have hread (i : Filling) :
        ofValue (.object (fields.set "settings" (.object (settings.fill key i)))) =
          .ok (assembled (fields.set "settings" (.object (settings.fill key i)))
            metadata (settings.fill key i) ((content.map fun b _ => b).map fun b => b i)) := by
      refine ofValue_of ?_ (Fields.objectAt_of_get (Fields.get_set_self _)) ?_
      · rw [Fields.objectAt_set_of_ne (by decide), hmetadata]
      · rw [Fields.get_set_of_ne (by decide), hcontent, map_constant]
    have hwidth : key ≠ "contentWidth" := by
      rintro rfl
      exact absurd hkey (by decide)
    refine ⟨_, _, (Value.Fills.field settings key).below_field hs, hread, ?_⟩
    refine isHoled_assembled (fun _ _ => .kept _) (Fields.isSlot_present settings key)
      (fun i => ?_) ?_
    · rw [Fields.get?_fill_of_ne hwidth, Fields.get?_fill_of_ne hwidth]
    · exact List.forall_mem_map.2 fun b _ => .fixed b
  | @block fields items n block path write hc hn h =>
    obtain ⟨metadata, hmetadata, settings, hsettings, content, hcontent, -⟩ :=
      ofValue_eq_ok_iff.1 ht
    rw [Fields.get, hc, Option.getD_some] at hcontent
    obtain ⟨family, filled, hplace, hitems, hholed⟩ :=
      Block.exists_filled_item h.exists_filled hn hcontent
    have hread (i : Filling) :
        ofValue (.object (fields.set "content" (.list (items.set n (family i))))) =
          .ok (assembled (fields.set "content" (.list (items.set n (family i))))
            metadata settings (filled.map fun b => b i)) := by
      refine ofValue_of ?_ ?_ ?_
      · rw [Fields.objectAt_set_of_ne (by decide), hmetadata]
      · rw [Fields.objectAt_set_of_ne (by decide), hsettings]
      · rw [Fields.get_set_self]
        exact hitems i
    refine ⟨_, _, (hplace.below_item hn).below_field hc, hread, ?_⟩
    exact isHoled_assembled (fun _ _ => .kept _) (fun _ _ => .kept _) (fun _ => rfl) hholed

end Template

/-! ## The markup of what was filled -/

namespace Publisher

/-- Whatever text is put in a place for free text of a candidate that compiles: if the candidate
still has no issues, its markup is made of pieces that do not depend on the text, with the escaped
text between them. Escaped text has no tag and no quote in it, and no ampersand but in entities. -/
theorem compile_setAt {candidate : Value} {published : Value × String} {path : List Step}
    {write : String → String} (h : compile candidate = .ok published)
    (hplace : Template.TextAt candidate path write) :
    (∃ pieces : List String, pieces ≠ [] ∧ ∀ s, s ≠ "" →
      ∃ filled, candidate.setAt path (.text s) = .ok filled ∧
        (Template.isValid filled = true →
          ∃ template, compile filled = .ok (template, (write s).intercalate pieces))) ∧
    ∀ s, Text.IsPlain (Text.escape s) ∧ Text.HasOnlyEntities (Text.escape s) := by
  refine ⟨?_, fun s => ⟨Text.isPlain_escape s, Text.hasOnlyEntities_escape s⟩⟩
  obtain ⟨template, markup⟩ := published
  obtain ⟨-, t, ht, -, hmarkup⟩ := compile_eq_ok_iff.1 h
  obtain ⟨family, filled, ⟨hbefore, hset⟩, hread, hholed⟩ := hplace.exists_filled ht
  have hnone : filled none = t := by
    have hread := hread none
    rw [hbefore, ht] at hread
    exact (Except.ok.inj hread).symm
  rw [← hnone] at hmarkup
  obtain ⟨text, htext, hcompile⟩ := hholed.yields_compile markup hmarkup
  obtain ⟨pieces, hne, hpieces⟩ := htext.exists_pieces
  refine ⟨pieces, hne, fun s hs => ⟨family (some ⟨s, hs⟩), hset ⟨s, hs⟩, fun hvalid => ?_⟩⟩
  refine ⟨_, compile_eq_ok_iff.2 ⟨hvalid, _, hread _, rfl, ?_⟩⟩
  exact (hcompile ⟨s, hs⟩).trans (congrArg Except.ok (hpieces ⟨s, hs⟩))

def nestedFooter : Value :=
  Template.candidate [.object [
    ("type", .text "EmailColumns"), ("props", .object []),
    ("children", .list [.object [
      ("type", .text "EmailFooter"),
      ("props", .object [("companyName", .text "<ACME>"), ("address", .text "1 Way\nTown")])]])]]

def addressOfNestedFooter : List Step :=
  [.name "content", .index 0, .name "children", .index 0, .name "props", .name "address"]

/-- The address of a footer in a column, which is written with line breaks. -/
theorem compile_setAt_nestedFooter :
    (∃ published, compile nestedFooter = .ok published) ∧
      Template.TextAt nestedFooter addressOfNestedFooter (Kind.footer.writes "address") ∧
      (∃ filled, nestedFooter.setAt addressOfNestedFooter (.text "<b>\nTown") = .ok filled ∧
        Template.isValid filled = true) ∧
      ∃ pieces : List String, pieces ≠ [] ∧ ∀ s, s ≠ "" →
        ∃ filled, nestedFooter.setAt addressOfNestedFooter (.text s) = .ok filled ∧
          (Template.isValid filled = true → ∃ template, compile filled =
            .ok (template, (FooterProps.addressText (Text.escape s)).intercalate pieces)) := by
  have hcompiles : compile nestedFooter = .ok _ :=
    compile_eq_ok_iff.2 ⟨rfl, _, rfl, rfl, rfl⟩
  have hplace : Template.TextAt nestedFooter addressOfNestedFooter (Kind.footer.writes "address") :=
    .block rfl rfl (.child rfl rfl rfl (.prop rfl rfl (by decide)))
  exact ⟨⟨_, hcompiles⟩, hplace, ⟨_, rfl, rfl⟩, (compile_setAt hcompiles hplace).1⟩

end Publisher

end EmailStudio
