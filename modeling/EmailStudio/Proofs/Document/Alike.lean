import EmailStudio.Proofs.Document.Normal
import Mathlib.Data.List.Nodup

/-!
# Edits that do not count

A document is made of parts, and each part knows some fields. `Part.Edits` says of two values of a
part that one edit leads from the first to the second which only touches fields that are not known,
or leaves a null out or spells it out, in the part itself or in a part below it. `Part.Alike` is for
any number of such edits in any places at once: the known fields of two objects are alike, where a
field that is left out is as good as null, and so are the items of two lists.

By `Part.Edits.alike` each edit leads to an alike value, and by `Part.Alike.ofValue` alike blocks
are read as the same block.
-/

namespace EmailStudio

/-- A part of a document, by what it is for. -/
inductive Part where
  | template
  | metadata
  | settings
  | blocks
  | block
  /-- The props of a block, which may name no kind. -/
  | props (kind : Option Kind)
  | networks
  | network
  /-- A part without parts. -/
  | leaf

/-- The props that the blocks of a kind know. A row of icons has its networks in a list, in fields
of their own or in both. -/
def Kind.parts (kind : Kind) : List (String × Part) :=
  kind.knownProps.map (fun prop => (prop.1, .leaf)) ++
    if kind = .social then
      ("networks", .networks) ::
        Catalog.socialNetworks.map fun name => (Catalog.urlField name, .leaf)
    else []

namespace Part

/-- The fields that a part knows, if it is for an object. Only columns know children, and a block
that names no kind knows no props. -/
def known? (fields : Fields) : Part → Option (List (String × Part))
  | template => some [("version", leaf), ("metadata", metadata), ("settings", settings),
      ("content", blocks)]
  | metadata => some [("subject", leaf), ("preheader", leaf)]
  | settings => some [("backgroundColor", leaf), ("contentWidth", leaf), ("fontFamily", leaf)]
  | block => some ([("type", leaf), ("props", props (Kind.ofValue? (fields.get "type")))] ++
      if Kind.ofValue? (fields.get "type") = some .columns then [("children", blocks)] else [])
  | props kind => some (kind.elim [] Kind.parts)
  | network => some [("type", leaf), ("url", leaf)]
  | blocks | networks | leaf => none

/-- What the items of a part are, if it is for a list. -/
def item? : Part → Option Part
  | blocks => some block
  | networks => some network
  | _ => none

/-- One edit, in a part or below it. -/
inductive Edits : Part → Value → Value → Prop
  | set {part : Part} {fields : Fields} {known : List (String × Part)} (key : String) (v : Value)
      (object : part.known? fields = some known) (unknown : key ∉ known.map (·.1)) :
      Edits part (.object fields) (.object (fields.set key v))
  | erase {part : Part} {fields : Fields} {known : List (String × Part)} (key : String)
      (object : part.known? fields = some known) (unknown : key ∉ known.map (·.1)) :
      Edits part (.object fields) (.object (fields.erase key))
  | leaveOut {part : Part} {fields : Fields} {known : List (String × Part)} (key : String)
      (object : part.known? fields = some known) (null : fields.get? key = some .null) :
      Edits part (.object fields) (.object (fields.erase key))
  | spellOut {part : Part} {fields : Fields} {known : List (String × Part)} (key : String)
      (object : part.known? fields = some known) (absent : fields.get? key = none) :
      Edits part (.object fields) (.object (fields.set key .null))
  | field {part inner : Part} {fields : Fields} {known : List (String × Part)} {v w : Value}
      (key : String) (object : part.known? fields = some known) (mem : (key, inner) ∈ known)
      (found : fields.get? key = some v) (edits : Edits inner v w) :
      Edits part (.object fields) (.object (fields.set key w))
  | item {part inner : Part} {items : List Value} {v w : Value} (index : Nat)
      (list : part.item? = some inner) (found : items[index]? = some v) (edits : Edits inner v w) :
      Edits part (.list items) (.list (items.set index w))

section Edits

variable {fields : Fields} {items : List Value} {v w : Value}

theorem Edits.content (index : Nat) (list : fields.get? "content" = some (.list items))
    (found : items[index]? = some v) (h : Edits block v w) :
    Edits template (.object fields)
      (.object (fields.set "content" (.list (items.set index w)))) := by
  have hitem : Edits blocks (.list items) (.list (items.set index w)) := .item index rfl found h
  exact .field "content" rfl (by simp) list hitem

theorem Edits.child (index : Nat) (type : Kind.ofValue? (fields.get "type") = some .columns)
    (list : fields.get? "children" = some (.list items)) (found : items[index]? = some v)
    (h : Edits block v w) :
    Edits block (.object fields)
      (.object (fields.set "children" (.list (items.set index w)))) := by
  have hitem : Edits blocks (.list items) (.list (items.set index w)) := .item index rfl found h
  exact .field "children" rfl (by simp [type]) list hitem

theorem Edits.prop {kind : Option Kind} {given : List (String × Value)}
    (type : Kind.ofValue? (fields.get "type") = kind)
    (object : fields.get? "props" = some (.object given))
    (h : Edits (props kind) (.object given) w) :
    Edits block (.object fields) (.object (fields.set "props" w)) :=
  .field "props" rfl (by simp [type]) object h

end Edits

/-- Values that tell the same about a part. -/
inductive Alike : Part → Value → Value → Prop
  | same (part : Part) (v : Value) : Alike part v v
  | object {part : Part} {fields others : Fields} {known : List (String × Part)}
      (object : part.known? fields = some known)
      (each : ∀ entry ∈ known, Alike entry.2 (fields.get entry.1) (others.get entry.1)) :
      Alike part (.object fields) (.object others)
  | list {part inner : Part} {xs ys : List Value} (list : part.item? = some inner)
      (length : xs.length = ys.length) (each : ∀ pair ∈ xs.zip ys, Alike inner pair.1 pair.2) :
      Alike part (.list xs) (.list ys)

/-! ## Edits lead to alike values -/

theorem nodup_known {part : Part} {fields : Fields} {known : List (String × Part)}
    (h : part.known? fields = some known) : (known.map (·.1)).Nodup := by
  have hparts (kind : Kind) : (kind.parts.map (·.1)).Nodup := by
    cases kind <;> decide
  cases part with
  | block =>
    cases h
    generalize Kind.ofValue? (fields.get "type") = kind
    cases kind with
    | none => decide
    | some kind => cases kind <;> decide
  | props kind =>
    cases h
    cases kind with
    | none => exact .nil
    | some kind => exact hparts kind
  | blocks | networks | leaf => cases h
  | _ =>
    cases h
    decide

theorem alike_of_get {part : Part} {fields others : Fields} {known : List (String × Part)}
    (object : part.known? fields = some known)
    (h : ∀ entry ∈ known, others.get entry.1 = fields.get entry.1) :
    Alike part (.object fields) (.object others) :=
  .object object fun entry hentry => (h entry hentry).symm ▸ .same _ _

theorem Alike.of_forall₂ {part inner : Part} {xs ys : List Value} (list : part.item? = some inner)
    (h : List.Forall₂ (Alike inner) xs ys) : Alike part (.list xs) (.list ys) := by
  obtain ⟨length, each⟩ := List.forall₂_iff_zip.1 h
  exact .list list length fun _ hpair => each hpair

theorem Edits.alike {part : Part} {v w : Value} (h : Edits part v w) : Alike part v w := by
  induction h with
  | set key v object unknown =>
    refine alike_of_get object fun entry hentry => Fields.get_set_of_ne ?_ v
    exact fun heq => unknown (heq ▸ List.mem_map_of_mem hentry)
  | erase key object unknown =>
    refine alike_of_get object fun entry hentry => Fields.get_erase_of_ne ?_
    exact fun heq => unknown (heq ▸ List.mem_map_of_mem hentry)
  | leaveOut key object null =>
    exact alike_of_get object fun entry _ =>
      Fields.get_erase_of_null (by rw [Fields.get, null]; rfl) entry.1
  | spellOut key object absent =>
    exact alike_of_get object fun entry _ =>
      Fields.get_set_null (by rw [Fields.get, absent]; rfl) entry.1
  | @field part inner fields known v w key object mem found _ ih =>
    refine .object object fun entry hentry => ?_
    by_cases hkey : entry.1 = key
    · obtain rfl : entry = (key, inner) :=
        List.inj_on_of_nodup_map (nodup_known object) hentry mem hkey
      rw [Fields.get_set_self, Fields.get, found]
      exact ih
    · rw [Fields.get_set_of_ne (Ne.symm hkey)]
      exact .same _ _
  | @item part inner items v w index list found _ ih =>
    have hsame : List.Forall₂ (Alike inner) items items :=
      List.forall₂_same.2 fun x _ => .same inner x
    have hset := Outcome.forall₂_set hsame ih index
    obtain ⟨hindex, rfl⟩ := List.getElem?_eq_some_iff.1 found
    rw [List.set_getElem_self] at hset
    exact .of_forall₂ list hset

/-! ## What alike values have in common -/

namespace Alike

variable {part inner : Part} {fields others : Fields} {known : List (String × Part)}
  {key : String} {v w : Value}

theorem eq_of_leaf (h : Alike leaf v w) : v = w := by
  cases h with
  | same => rfl
  | object object => cases object
  | list list => cases list

theorem get (h : Alike part (.object fields) (.object others))
    (object : part.known? fields = some known) (mem : (key, inner) ∈ known) :
    Alike inner (fields.get key) (others.get key) := by
  cases h with
  | same => exact .same inner _
  | object object' each =>
    cases object.symm.trans object'
    exact each (key, inner) mem

theorem get_eq (h : Alike part (.object fields) (.object others))
    (object : part.known? fields = some known) (mem : (key, leaf) ∈ known) :
    fields.get key = others.get key :=
  (h.get object mem).eq_of_leaf

/-- Where a part is for an object, values that are alike but not the same are objects. -/
theorem eq_or_objects (h : Alike part v w) (list : part.item? = none) :
    v = w ∨ ∃ fields others : Fields, v = .object fields ∧ w = .object others ∧
      Alike part (.object fields) (.object others) := by
  cases h with
  | same => exact .inl rfl
  | object object each => exact .inr ⟨_, _, rfl, rfl, .object object each⟩
  | list list' => cases list.symm.trans list'

/-- Where a part is for a list, values that are alike but not the same are lists. -/
theorem eq_or_lists (h : Alike part v w) (list : part.item? = some inner) :
    v = w ∨ ∃ xs ys : List Value, v = .list xs ∧ w = .list ys ∧
      List.Forall₂ (Alike inner) xs ys := by
  cases h with
  | same => exact .inl rfl
  | object object =>
    cases part with
    | blocks | networks => cases object
    | _ => cases list
  | list list' length each =>
    cases list.symm.trans list'
    exact .inr ⟨_, _, rfl, rfl, List.forall₂_iff_zip.2 ⟨length, fun hpair => each _ hpair⟩⟩

/-- A part that is for an object is left out of both or of none. -/
theorem objectAt {inner : Fields} (h : Alike part (fields.get key) (others.get key))
    (list : part.item? = none) (hin : fields.objectAt key = .ok inner) :
    ∃ other, others.objectAt key = .ok other ∧ Alike part (.object inner) (.object other) := by
  obtain heq | ⟨given, other, hgiven, hother, h⟩ := h.eq_or_objects list
  · refine ⟨inner, ?_, .same part _⟩
    rw [Fields.objectAt, ← heq, ← Fields.objectAt, hin]
  · rw [Fields.objectAt_of_get hgiven] at hin
    cases hin
    exact ⟨other, Fields.objectAt_of_get hother, h⟩

theorem leaf_mem_parts {kind : Kind} (mem : key ∈ kind.knownProps.map (·.1)) :
    (key, leaf) ∈ kind.parts := by
  obtain ⟨prop, hprop, rfl⟩ := List.mem_map.1 mem
  exact List.mem_append_left _ (List.mem_map_of_mem hprop)

/-! ### Reading -/

theorem ofItem? (h : Alike network v w) : SocialNetwork.ofItem? v = SocialNetwork.ofItem? w := by
  obtain rfl | ⟨fields, others, rfl, rfl, h⟩ := h.eq_or_objects rfl
  · rfl
  · have htype : fields.get "type" = others.get "type" := h.get_eq rfl (by simp)
    have hurl : fields.get "url" = others.get "url" := h.get_eq rfl (by simp)
    simp only [SocialNetwork.ofItem?, htype, hurl]

theorem listed (h : Alike networks v w) :
    v.items.filterMap SocialNetwork.ofItem? = w.items.filterMap SocialNetwork.ofItem? := by
  obtain rfl | ⟨xs, ys, rfl, rfl, hitems⟩ := h.eq_or_lists rfl
  · rfl
  · have hread := Outcome.map_eq_map_iff.2 (hitems.imp fun _ _ hitem => hitem.ofItem?)
    have hmap (items : List Value) : items.filterMap SocialNetwork.ofItem? =
        (items.map SocialNetwork.ofItem?).filterMap id := by rw [List.filterMap_map]; rfl
    rw [Value.items, Value.items, hmap, hread, ← hmap]

theorem url_mem_parts {name : String} (mem : name ∈ Catalog.socialNetworks) :
    (Catalog.urlField name, leaf) ∈ Kind.social.parts :=
  List.mem_append_right _ (List.mem_cons_of_mem _ (List.mem_map.2 ⟨name, mem, rfl⟩))

theorem ofSocial (h : Alike (props (some .social)) (.object fields) (.object others)) :
    SocialProps.ofFields fields = SocialProps.ofFields others := by
  have hget : ∀ key ∈ Kind.social.knownProps.map (·.1), fields.get key = others.get key :=
    fun key hkey => h.get_eq rfl (leaf_mem_parts hkey)
  have hlist : Alike networks (fields.get "networks") (others.get "networks") :=
    h.get rfl (List.mem_append_right _ List.mem_cons_self)
  have hflat (entries : List SocialNetwork) :
      SocialProps.flatNetworks entries fields = SocialProps.flatNetworks entries others :=
    List.filterMap_congr fun name hname => by rw [h.get_eq rfl (url_mem_parts hname)]
  simp (disch := decide) only [SocialProps.ofFields, hlist.listed, hflat, hget]

theorem ofProps {kind : Kind} (h : Alike (props (some kind)) (.object fields) (.object others)) :
    Block.ofProps kind fields = Block.ofProps kind others := by
  have hget : ∀ key ∈ kind.knownProps.map (·.1), fields.get key = others.get key :=
    fun key hkey => h.get_eq rfl (leaf_mem_parts hkey)
  cases kind with
  | social => rw [Block.ofProps, Block.ofProps, h.ofSocial]
  | _ =>
    simp (disch := decide) only [Block.ofProps, HeaderProps.ofFields, TextProps.ofFields,
      ImageProps.ofFields, ButtonProps.ofFields, ColumnsProps.ofFields, SpacerProps.ofFields,
      DividerProps.ofFields, FooterProps.ofFields, Fields.given, hget]

/-- Lists of blocks are read the same if alike blocks in them are. -/
theorem listIn {bs : List Block} (h : Alike blocks v w) (hv : Block.listIn v = .ok bs)
    (read : ∀ item ∈ v.items, ∀ {other : Value} {b : Block}, Alike block item other →
      Block.ofValue item = .ok b → Block.ofValue other = .ok b) : Block.listIn w = .ok bs := by
  obtain rfl | ⟨items, others, rfl, rfl, hitems⟩ := h.eq_or_lists rfl
  · exact hv
  · have hmem : List.Forall₂ (fun item other => item ∈ items ∧ Alike block item other) items
        others := (List.forall₂_and_left _ _).2 ⟨fun _ hitem => hitem, hitems⟩
    have hback : List.Forall₂ (fun other item => item ∈ items ∧ Alike block item other) others
        items := hmem.flip
    have hread := Block.ofItems_eq_ok_iff.1 hv
    refine Block.ofItems_eq_ok_iff.2 (Outcome.forall₂_trans (fun other item b hother hb => ?_)
      hback hread)
    exact read item hother.1 hother.2 hb

/-- What a block is read as, every block like it is read as. -/
theorem ofValue {b : Block} (h : Alike block v w) (hb : Block.ofValue v = .ok b) :
    Block.ofValue w = .ok b := by
  induction v using Value.inductionOnChildren generalizing w b with
  | step v ih =>
    obtain rfl | ⟨fields, others, rfl, rfl, h⟩ := h.eq_or_objects rfl
    · exact hb
    · obtain ⟨_, kind, given, bare, heq, hk, hp, hbare, hrest⟩ := Block.ofValue_eq_ok hb
      cases heq
      have htype : fields.get "type" = others.get "type" := h.get_eq rfl (by simp)
      have hkind := Block.kindOf_eq_ok_iff.1 hk
      have hprops : Alike (props (Kind.ofValue? (fields.get "type"))) (fields.get "props")
          (others.get "props") := h.get rfl (by simp)
      rw [hkind] at hprops
      obtain ⟨inner, hinner, halike⟩ := hprops.objectAt rfl hp
      rw [Block.ofValue_object (Block.kindOf_eq_ok_iff.2 (htype ▸ hkind)) hinner
        (halike.ofProps ▸ hbare)]
      split_ifs at hrest ⊢ with hcol
      · obtain ⟨children, hl, rfl⟩ := Outcome.map_eq_ok_iff.1 hrest
        have hchildren : Alike blocks (fields.get "children") (others.get "children") :=
          h.get rfl (by rw [hkind, hcol]; simp)
        rw [hchildren.listIn hl fun item hitem _ _ => ih item hitem]
        rfl
      · exact hrest

end Alike

end Part

end EmailStudio
