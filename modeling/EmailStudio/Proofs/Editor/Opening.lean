import EmailStudio.Proofs.Editor.Zones

/-!
# Opening drafts

Drafts are stored as they come, so the editor has to open any value. What is no template, block,
props or list of networks is passed over or taken as empty. One thing is not: the entries of a row
of icons are looked up by their types, and a list or an object cannot be looked up.

`Stuck` says at which blocks opening comes to such an entry. The main result is
`Data.opens_ofTemplate`: a value opens with a node for every object of its content unless one of its
blocks is stuck, and that is the only fault there is.
-/

namespace EmailStudio.Editor

/-- A value that nothing can be looked up by. -/
def isCompound : Value → Bool
  | .list _ | .object _ => true
  | _ => false

/-- An entry of a row of icons whose network cannot be looked up. -/
def HasEntry (items : List Value) : Prop :=
  ∃ entry : Fields, .object entry ∈ items ∧ isCompound (entry.get "type") = true

/-- A block that does not open: a row of icons with such an entry, or columns around such a row. -/
inductive Stuck : Value → Prop
  | row {fields : Fields} (social : isOfKind .social (fields.get "type") = true)
      (entry : HasEntry (Fields.get (fields.get "props").fields "networks").items) :
      Stuck (.object fields)
  | columns {fields : Fields} {child : Value}
      (columns : isOfKind .columns (fields.get "type") = true)
      (mem : child ∈ (fields.get "children").items) (stuck : Stuck child) : Stuck (.object fields)

/-- What a step gives that has a result unless it comes to an entry that cannot be looked up. -/
inductive Opens {α : Type} (blocked : Prop) (result : α → Prop) : Except Fault α → Prop
  | ok {a : α} (free : ¬blocked) (holds : result a) : Opens blocked result (.ok a)
  | error (found : blocked) : Opens blocked result (.error .notKey)

namespace Opens

variable {α β : Type} {blocked other : Prop} {P : α → Prop} {Q : β → Prop} {x : Except Fault α}

theorem imp {P' : α → Prop} (h : Opens blocked P x) (hiff : other ↔ blocked)
    (himp : ∀ a, P a → P' a) : Opens other P' x := by
  cases h with
  | ok free holds => exact .ok (mt hiff.1 free) (himp _ holds)
  | error found => exact .error (hiff.2 found)

theorem pure {a : α} (free : ¬blocked) (holds : P a) : Opens blocked P (Pure.pure a) :=
  .ok free holds

/-- Of two steps, either may come to such an entry. -/
theorem bind {f : α → Except Fault β} (h : Opens blocked P x)
    (hf : ∀ a, P a → Opens other Q (f a)) : Opens (blocked ∨ other) Q (x >>= f) := by
  cases h with
  | @ok a free holds => exact (hf a holds).imp (or_iff_right free) fun _ => id
  | error found => exact .error (.inl found)

/-- What is made of the last result. -/
theorem result {f : α → β} (h : Opens blocked P x) (hf : ∀ a, P a → Q (f a)) :
    Opens blocked Q (x >>= fun a => Pure.pure (f a)) := by
  cases h with
  | ok free holds => exact .ok free (hf _ holds)
  | error found => exact .error found

end Opens

/-! ## Rows of icons -/

theorem opens_listUrl (urls : Fields) (item : Value) :
    Opens (HasEntry [item]) (fun _ => True) (listUrl urls item) := by
  cases item with
  | object entry =>
    have hentry : HasEntry [.object entry] ↔ isCompound (Fields.get entry "type") = true := by
      simp [HasEntry]
    unfold listUrl
    dsimp only
    cases htype : Fields.get entry "type" with
    | list _ | object _ => exact .error (hentry.2 (by rw [htype]; rfl))
    | _ => exact .ok (fun h => by rw [hentry, htype] at h; cases h) trivial
  | _ => exact .ok (by simp [HasEntry]) trivial

theorem opens_listedUrls (items : List Value) :
    Opens (HasEntry items) (fun _ => True) (listedUrls items) := by
  suffices h : ∀ urls, Opens (HasEntry items) (fun _ => True) (items.foldlM listUrl urls) from h []
  intro urls
  induction items generalizing urls with
  | nil => exact .ok (by simp [HasEntry]) trivial
  | cons item items ih =>
    rw [List.foldlM_cons]
    refine ((opens_listUrl urls item).bind fun urls _ => ih urls).imp ?_ fun _ => id
    simp only [HasEntry, List.mem_cons, List.not_mem_nil, or_false, or_and_right, exists_or]

/-- Every block that is no row of such entries has a node of its type. -/
theorem opens_ofBlock (id : String) (fields : Fields) :
    Opens (isOfKind .social (fields.get "type") = true ∧
        HasEntry (Fields.get (fields.get "props").fields "networks").items)
      (fun node => node.type = fields.get "type") (Node.ofBlock id fields) := by
  rw [Node.ofBlock]
  by_cases hsocial : isOfKind .social (fields.get "type") = true
  · rw [if_pos hsocial, spreadNetworks]
    simp only [bind_assoc, pure_bind]
    exact Opens.imp (P := fun node => node.type = fields.get "type")
      ((opens_listedUrls _).result fun _ _ => rfl) (and_iff_right hsocial) fun _ h => h
  · rw [if_neg hsocial, pure_bind]
    exact .pure (fun h => hsocial h.1) rfl

/-! ## Blocks -/

/-- The types of the blocks among some values. -/
def typesOf (items : List Value) : List Value :=
  (items.filter (·.isObject)).map fun block => Fields.get block.fields "type"

/-- The nodes are those of the blocks among some values, in order. -/
def Shows (items : List Value) (forest : Data.Forest) : Prop :=
  forest.1.map (·.type) = typesOf items

theorem Shows.append {items others : List Value} {first more : Data.Forest}
    (h : Shows items first) (hmore : Shows others more)
    (zones : List (String × List Node)) : Shows (items ++ others) (first.1 ++ more.1, zones) := by
  rw [Shows, List.map_append, h, hmore]
  simp only [typesOf, List.filter_append, List.map_append]

theorem opens_forestOfItems {items : List Value} (id : String) (index : Nat)
    (each : ∀ v ∈ items, ∀ id, Opens (Stuck v) (Shows [v]) (Data.forestOf id v)) :
    Opens (∃ v ∈ items, Stuck v) (Shows items) (Data.forestOfItems id index items) := by
  induction items generalizing index with
  | nil =>
    rw [Data.forestOfItems]
    exact .ok (by simp) rfl
  | cons v rest ih =>
    obtain ⟨hv, each⟩ := List.forall_mem_cons.1 each
    rw [Data.forestOfItems]
    refine Opens.imp (P := Shows (v :: rest))
      ((hv (childId id index)).bind fun first hfirst => (ih (index + 1) each).result
        fun more hmore => hfirst.append hmore _)
      (by simp only [List.mem_cons, exists_eq_or_imp]) fun _ h => h

theorem opens_forestOfList {v : Value} (id : String)
    (each : ∀ item ∈ v.items, ∀ id, Opens (Stuck item) (Shows [item]) (Data.forestOf id item)) :
    Opens (∃ item ∈ v.items, Stuck item) (Shows v.items) (Data.forestOfList id v) := by
  cases v with
  | list items =>
    rw [Data.forestOfList]
    exact opens_forestOfItems id 0 each
  | _ =>
    rw [Data.forestOfList]
    · exact .ok (by simp [Value.items]) rfl
    · intro items h
      cases h

theorem stuck_iff {fields : Fields} : Stuck (.object fields) ↔
    (isOfKind .social (fields.get "type") = true ∧
        HasEntry (Fields.get (fields.get "props").fields "networks").items) ∨
      (isOfKind .columns (fields.get "type") = true ∧
        ∃ child ∈ (fields.get "children").items, Stuck child) := by
  constructor
  · rintro (⟨social, entry⟩ | ⟨columns, mem, stuck⟩)
    · exact .inl ⟨social, entry⟩
    · exact .inr ⟨columns, _, mem, stuck⟩
  · rintro (⟨social, entry⟩ | ⟨columns, _, mem, stuck⟩)
    · exact .row social entry
    · exact .columns columns mem stuck

/-- A block opens as its node unless it is stuck, and anything else as nothing. -/
theorem opens_forestOf (id : String) (v : Value) :
    Opens (Stuck v) (Shows [v]) (Data.forestOf id v) := by
  induction v using Value.inductionOnChildren generalizing id with
  | step v ih =>
    cases v with
    | object fields =>
      rw [Data.forestOf, forestOfChildrenIn_eq]
      refine Opens.imp (P := Shows [.object fields]) ((opens_ofBlock id fields).bind
        fun node hnode => ?_) stuck_iff fun _ h => h
      rw [hnode]
      split_ifs with hcolumns
      · exact ((opens_forestOfList id ih).result fun forest _ => by
          rw [Shows, List.map_singleton, hnode]; rfl).imp (and_iff_right hcolumns) fun _ h => h
      · exact .pure (fun h => hcolumns h.1) (by rw [Shows, List.map_singleton, hnode]; rfl)
    | _ =>
      rw [Data.forestOf]
      · have free {v : Value} (h : v.isObject = false) : ¬Stuck v := by
          rintro (_ | _) <;> cases h
        exact .ok (free rfl) rfl
      · intro fields h
        cases h

/-- A block of the content is stuck. -/
def Data.IsStuck (template : Value) : Prop :=
  ∃ block ∈ (Fields.get template.fields "content").items, Stuck block

/-- A value opens with a node for each block of its content unless a block is stuck. -/
theorem Data.opens_ofTemplate (v : Value) :
    Opens (Data.IsStuck v)
      (fun data => data.content.map (·.type) = typesOf (Fields.get v.fields "content").items)
      (Data.ofTemplate v) :=
  (opens_forestOfList "block" fun item _ id => opens_forestOf id item).result fun _ h => h

end EmailStudio.Editor
