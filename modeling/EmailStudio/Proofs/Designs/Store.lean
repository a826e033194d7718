import EmailStudio.Designs.Store
import EmailStudio.Proofs.Number.Digits
import EmailStudio.Proofs.Publishing.Publisher
import Mathlib.Data.List.Nodup
import Mathlib.Order.Basic

/-!
# The store of designs

What each operation of the store does to the designs in it and to their identifiers. Identifiers are
taken from a count that only grows. By `DesignStore.Grows.not_mem_ids`, one that has left the store
does not come back, however the store grows.
-/

namespace EmailStudio

/-! ## Identifiers -/

theorem identifier_injective {m n : Nat} (h : identifier m = identifier n) : m = n := by
  have h : padZeros 12 (toString m) = padZeros 12 (toString n) := String.append_right_inj _ |>.1 h
  rw [← ofDigitChars_padZeros 12 m, h, ofDigitChars_padZeros]

/-! ## Times -/

instance : Preorder Time where
  le s t := s.microseconds ≤ t.microseconds
  le_refl t := Int.le_refl t.microseconds
  le_trans _ _ _ := Int.le_trans

instance (s t : Time) : Decidable (s ≤ t) :=
  inferInstanceAs (Decidable (s.microseconds ≤ t.microseconds))

/-- The database leaves the fraction of a second out. -/
theorem Stamp.time_ofDatabase_le (now : Time) : (Stamp.ofDatabase now).time ≤ now := by
  show Int.fdiv now.microseconds 1000000 * 1000000 ≤ now.microseconds
  rw [Int.fdiv_eq_ediv_of_nonneg _ (by decide)]
  omega

/-! ## Designs -/

namespace Design

/-- The columns of a design fit together: the stored template is sound and in its stored form, the
markup is compiled from it, a draft has a time and nothing else has one, and the times are in
order. -/
structure Coherent (design : Design) : Prop where
  stored : Template.IsStored design.template design.markup
  draft_iff : design.draft.template = none ↔ design.draft.savedAt = none
  created_le : design.createdAt.time ≤ design.updatedAt.time
  updated_le : ∀ savedAt ∈ design.draft.savedAt, design.updatedAt.time ≤ savedAt

/-- Nothing of a design was saved after a time. -/
structure SavedBy (design : Design) (t : Time) : Prop where
  updated_le : design.updatedAt.time ≤ t
  draft_le : ∀ savedAt ∈ design.draft.savedAt, savedAt ≤ t

theorem Coherent.created (id name : String) {template : Value} {markup : String}
    (hp : Template.IsStored template markup) (html : String) (now : Time) :
    (Design.created id name template markup html now).Coherent where
  stored := hp
  draft_iff := iff_of_true rfl rfl
  created_le := le_refl _
  updated_le := fun _ hd => absurd hd (Option.not_mem_none _)

theorem SavedBy.created {t u : Time} (ht : t ≤ u) (id name : String) (template : Value)
    (markup html : String) : (Design.created id name template markup html t).SavedBy u :=
  ⟨(Stamp.time_ofDatabase_le t).trans ht, fun _ hd => absurd hd (Option.not_mem_none _)⟩

theorem Coherent.republish {design : Design} {t : Time} (h : design.Coherent)
    (hs : design.SavedBy t) (name : Option String) {template : Value} {markup : String}
    (hp : Template.IsStored template markup) (html : String) :
    (design.republish name template markup html t).Coherent where
  stored := hp
  draft_iff := iff_of_true rfl rfl
  created_le := h.created_le.trans hs.updated_le
  updated_le := fun _ hd => absurd hd (Option.not_mem_none _)

theorem SavedBy.republish {design : Design} {t u : Time} (ht : t ≤ u) (name : Option String)
    (template : Value) (markup html : String) :
    (design.republish name template markup html t).SavedBy u :=
  ⟨ht, fun _ hd => absurd hd (Option.not_mem_none _)⟩

theorem Coherent.withDraft {design : Design} {t : Time} (h : design.Coherent)
    (hs : design.SavedBy t) (template : Value) : (design.withDraft template t).Coherent where
  stored := h.stored
  draft_iff := iff_of_false (Option.some_ne_none _) (Option.some_ne_none _)
  created_le := h.created_le
  updated_le := fun _ hd => Option.mem_some.1 hd ▸ hs.updated_le

theorem SavedBy.withDraft {design : Design} {t u : Time} (h : design.SavedBy u) (ht : t ≤ u)
    (template : Value) : (design.withDraft template t).SavedBy u :=
  ⟨h.updated_le, fun _ hd => Option.mem_some.1 hd ▸ ht⟩

end Design

namespace DesignStore

/-! ## Operations -/

variable {store : DesignStore} {design : Design} {id : String} {change : Design → Design}

theorem designs_update (store : DesignStore) (id : String) (change : Design → Design) :
    (store.update id change).1.designs =
      store.designs.map fun d => if d.id = id then change d else d := by
  rw [update]
  split
  · rename_i h
    have hid (d : Design) (hd : d ∈ store.designs) : ¬d.id = id := by
      simpa using List.find?_eq_none.1 h d hd
    conv_lhs => rw [← List.map_id store.designs]
    exact List.map_congr_left fun d hd => (if_neg (hid d hd)).symm
  · rfl

theorem created_update (store : DesignStore) (id : String) (change : Design → Design) :
    (store.update id change).1.created = store.created := by
  rw [update]
  split <;> rfl

/-- Each design of a changed store is a changed one, or it was there before. -/
theorem mem_designs_update (h : design ∈ (store.update id change).1.designs) :
    (design ∈ store.designs ∧ design.id ≠ id) ∨
      ∃ old ∈ store.designs, old.id = id ∧ design = change old := by
  rw [designs_update] at h
  obtain ⟨old, hold, rfl⟩ := List.mem_map.1 h
  by_cases hid : old.id = id
  · exact .inr ⟨old, hold, hid, if_pos hid⟩
  · rw [if_neg hid]
    exact .inl ⟨hold, hid⟩

theorem mem_designs_create {name : String} {template : Value} {markup html : String}
    {now : Time} :
    design ∈ (store.create name template markup html now).1.designs ↔
      design ∈ store.designs ∨ design =
        .created (identifier (store.created + 1)) name template markup html now := by
  rw [create, List.mem_append, List.mem_singleton]

theorem mem_designs_delete :
    design ∈ (store.delete id).1.designs ↔ design ∈ store.designs ∧ design.id ≠ id := by
  rw [delete, List.mem_filter, decide_eq_true_eq]

/-! ## Identifiers in the store -/

/-- The identifiers of the designs. -/
def ids (store : DesignStore) : List String :=
  store.designs.map (·.id)

theorem ids_update (h : ∀ d, (change d).id = d.id) :
    (store.update id change).1.ids = store.ids := by
  rw [ids, designs_update, List.map_map]
  refine List.map_congr_left fun d _ => ?_
  by_cases hid : d.id = id
  · rw [Function.comp_apply, if_pos hid, h]
  · rw [Function.comp_apply, if_neg hid]

theorem ids_create (store : DesignStore) (name : String) (template : Value) (markup html : String)
    (now : Time) :
    (store.create name template markup html now).1.ids =
      store.ids ++ [identifier (store.created + 1)] := by
  rw [ids, create, List.map_append]
  rfl

theorem ids_delete_sublist (store : DesignStore) (id : String) :
    (store.delete id).1.ids.Sublist store.ids :=
  (List.filter_sublist).map _

/-- The identifiers of a store are all different, and each was taken from the count. -/
structure Numbered (store : DesignStore) : Prop where
  nodup : store.ids.Nodup
  counted : ∀ id ∈ store.ids, ∃ k ≤ store.created, id = identifier k

theorem numbered_empty : empty.Numbered :=
  ⟨List.nodup_nil, fun _ h => absurd h List.not_mem_nil⟩

theorem Numbered.update (h : store.Numbered) (hc : ∀ d, (change d).id = d.id) :
    (store.update id change).1.Numbered := by
  refine ⟨?_, ?_⟩
  · rw [ids_update hc]
    exact h.nodup
  · rw [ids_update hc, created_update]
    exact h.counted

theorem Numbered.create (h : store.Numbered) (name : String) (template : Value)
    (markup html : String) (now : Time) :
    (store.create name template markup html now).1.Numbered := by
  refine ⟨?_, fun id hid => ?_⟩
  · rw [ids_create, ← List.concat_eq_append, List.nodup_concat]
    refine ⟨fun hid => ?_, h.nodup⟩
    obtain ⟨k, hk, heq⟩ := h.counted _ hid
    have := identifier_injective heq
    omega
  · rw [ids_create, List.mem_append, List.mem_singleton] at hid
    rcases hid with hid | rfl
    · obtain ⟨k, hk, rfl⟩ := h.counted id hid
      exact ⟨k, Nat.le_succ_of_le hk, rfl⟩
    · exact ⟨store.created + 1, Nat.le_refl _, rfl⟩

theorem Numbered.delete (h : store.Numbered) (id : String) : (store.delete id).1.Numbered :=
  ⟨h.nodup.sublist (ids_delete_sublist store id), fun other hother =>
    h.counted other ((ids_delete_sublist store id).mem hother)⟩

/-- A later store has only taken up identifiers that the earlier one had not given out yet. -/
structure Grows (store later : DesignStore) : Prop where
  created_le : store.created ≤ later.created
  fresh : ∀ id ∈ later.ids, id ∈ store.ids ∨ ∃ k, store.created < k ∧ id = identifier k

theorem Grows.refl (store : DesignStore) : store.Grows store :=
  ⟨Nat.le_refl _, fun _ h => .inl h⟩

theorem Grows.trans {first second third : DesignStore} (h : first.Grows second)
    (h' : second.Grows third) : first.Grows third := by
  refine ⟨Nat.le_trans h.created_le h'.created_le, fun id hid => ?_⟩
  rcases h'.fresh id hid with hid | ⟨k, hk, rfl⟩
  · exact h.fresh id hid
  · exact .inr ⟨k, Nat.lt_of_le_of_lt h.created_le hk, rfl⟩

theorem grows_update (hc : ∀ d, (change d).id = d.id) : store.Grows (store.update id change).1 := by
  refine ⟨(created_update store id change).symm ▸ Nat.le_refl _, fun id hid => .inl ?_⟩
  rwa [ids_update hc] at hid

theorem grows_create (store : DesignStore) (name : String) (template : Value)
    (markup html : String) (now : Time) :
    store.Grows (store.create name template markup html now).1 := by
  refine ⟨Nat.le_succ _, fun id hid => ?_⟩
  rw [ids_create, List.mem_append, List.mem_singleton] at hid
  exact hid.imp_right fun hid => ⟨store.created + 1, Nat.lt_succ_self _, hid⟩

theorem grows_delete (store : DesignStore) (id : String) : store.Grows (store.delete id).1 :=
  ⟨Nat.le_refl _, fun _ h => .inl ((ids_delete_sublist store id).mem h)⟩

/-- An identifier that has left a store does not come back. -/
theorem Grows.not_mem_ids {first second third : DesignStore} (hn : first.Numbered)
    (h : first.Grows second) (h' : second.Grows third) (hfirst : id ∈ first.ids)
    (hsecond : id ∉ second.ids) : id ∉ third.ids := by
  intro hthird
  obtain ⟨k, hk, rfl⟩ := hn.counted id hfirst
  rcases h'.fresh _ hthird with hid | ⟨j, hj, heq⟩
  · exact hsecond hid
  · have hkj := identifier_injective heq
    have hle := h.created_le
    omega

end DesignStore

end EmailStudio
