import EmailStudio.Proofs.Designs.Store
import Mathlib.Data.List.Basic
import Mathlib.Tactic.SplitIfs

/-!
# Listings

Designs are listed by their stamps and by name, and each page is a piece of the listing that one
query finds. Designs that agree in both come in any order, so pages that several queries find fit
together if designs that agree stand in one order for all of these queries (`SameTies`), as they do
where no two agree, and where rows are found by their places (`Scan.IsSteady`). Under this condition, by `DesignStore.pages_partition`, the pages of any size
that the database takes are the whole store, each design once; a saved draft leaves all pages as
they are, and a publication moves no other design.
-/

namespace EmailStudio

/-! ## Sorting and leaving out -/

section Sorting

variable {α β κ : Type} {le : α → α → Bool}

/-- A list is cut in one way only into elements without a property and elements that have it. -/
theorem eq_of_append_eq {q : α → Bool} {before after front back : List α}
    (h : before ++ after = front ++ back) (hbefore : ∀ b ∈ before, q b = false)
    (hafter : ∀ b ∈ after, q b = true) (hfront : ∀ b ∈ front, q b = false)
    (hback : ∀ b ∈ back, q b = true) : before = front ∧ after = back := by
  have hcut {xs ys : List α} (hxs : ∀ b ∈ xs, q b = false) (hys : ∀ b ∈ ys, q b = true) :
      (xs ++ ys).filter q = ys := by
    rw [List.filter_append, List.filter_eq_nil_iff.2 fun b hb => by simp [hxs b hb],
      List.filter_eq_self.2 hys, List.nil_append]
  have hback : after = back := by
    rw [← hcut hbefore hafter, h, hcut hfront hback]
  rw [hback] at h
  exact ⟨List.append_cancel_right h, hback⟩

/-- Elements that are alike keep their order when they are sorted, so it is the same to leave some
elements out before and afterwards. -/
theorem filter_mergeSort (trans : ∀ a b c, le a b = true → le b c = true → le a c = true)
    (total : ∀ a b, (le a b || le b a) = true) (p : α → Bool) (xs : List α) :
    (xs.mergeSort le).filter p = (xs.filter p).mergeSort le := by
  induction xs with
  | nil => simp
  | cons x xs ih =>
    obtain ⟨before, after, hsort, hrest, hbefore⟩ := List.mergeSort_cons trans total x xs
    rw [hrest, List.filter_append] at ih
    by_cases hx : p x = true
    · obtain ⟨front, back, hsort', hrest', hfront⟩ :=
        List.mergeSort_cons trans total x (xs.filter p)
      -- Both are cut before the first element that may stand behind the new one.
      have hbehind {xs ys zs : List α} (h : xs.mergeSort le = ys ++ x :: zs) :
          ∀ b ∈ zs, le x b = true := by
        have hpairwise := List.pairwise_mergeSort trans total xs
        rw [h] at hpairwise
        intro b hb
        exact List.rel_of_pairwise_cons (List.pairwise_append.1 hpairwise).2.1 hb
      obtain ⟨heq, heq'⟩ := eq_of_append_eq (ih.trans hrest')
        (fun b hb => by simpa using hbefore b (List.mem_filter.1 hb).1)
        (fun b hb => hbehind hsort b (List.mem_filter.1 hb).1)
        (fun b hb => by simpa using hfront b hb) (hbehind hsort')
      rw [hsort, List.filter_append, List.filter_cons_of_pos hx, List.filter_cons_of_pos hx, hsort',
        heq, heq']
    · rw [hsort, List.filter_append, List.filter_cons_of_neg hx, List.filter_cons_of_neg hx, ih]

/-- What is seen of a sorted list is known from what is seen of the elements of each key, in their
order, if elements of one key are those that may stand in both orders. -/
theorem map_eq_of_filter_key [DecidableEq κ] {key : α → κ} {view : α → β} {xs ys : List α}
    (trans : ∀ a b c, le a b = true → le b c = true → le a c = true)
    (le_iff : ∀ a b, key a = key b ↔ le a b = true ∧ le b a = true)
    (hxs : xs.Pairwise fun a b => le a b = true) (hys : ys.Pairwise fun a b => le a b = true)
    (h : ∀ k, (xs.filter (key · = k)).map view = (ys.filter (key · = k)).map view) :
    xs.map view = ys.map view := by
  have hkey {xs ys : List α} {a : α} (ha : a ∈ xs)
      (h : (xs.filter (key · = key a)).map view = (ys.filter (key · = key a)).map view) :
      ∃ b ∈ ys, key b = key a := by
    have hview : view a ∈ (xs.filter (key · = key a)).map view :=
      List.mem_map_of_mem (List.mem_filter.2 ⟨ha, decide_eq_true rfl⟩)
    rw [h] at hview
    obtain ⟨b, hb, -⟩ := List.mem_map.1 hview
    exact ⟨b, (List.mem_filter.1 hb).1, of_decide_eq_true (List.mem_filter.1 hb).2⟩
  have hfirst {z a b : α} {zs : List α}
      (hzs : (z :: zs).Pairwise fun a b => le a b = true) (hb : b ∈ z :: zs) (hba : key b = key a) :
      le z a = true := by
    have hle := ((le_iff b a).1 hba).1
    rcases List.mem_cons.1 hb with rfl | hb
    · exact hle
    · exact trans z b a (List.rel_of_pairwise_cons hzs hb) hle
  induction xs generalizing ys with
  | nil =>
    cases ys with
    | nil => rfl
    | cons y ys =>
      obtain ⟨b, hb, -⟩ := hkey List.mem_cons_self (h (key y)).symm
      exact absurd hb List.not_mem_nil
  | cons x xs ih =>
    cases ys with
    | nil =>
      obtain ⟨b, hb, -⟩ := hkey List.mem_cons_self (h (key x))
      exact absurd hb List.not_mem_nil
    | cons y ys =>
      obtain ⟨b, hb, hbx⟩ := hkey List.mem_cons_self (h (key x))
      obtain ⟨c, hc, hcy⟩ := hkey List.mem_cons_self (h (key y)).symm
      have hxy : key x = key y := (le_iff x y).2 ⟨hfirst hxs hc hcy, hfirst hys hb hbx⟩
      have hsame (k : κ) (hk : key y = k) : view x = view y ∧
          (xs.filter (key · = k)).map view = (ys.filter (key · = k)).map view := by
        have hcons := h k
        rw [List.filter_cons_of_pos (by simpa [hxy] using hk),
          List.filter_cons_of_pos (by simpa using hk), List.map_cons, List.map_cons] at hcons
        exact List.cons_eq_cons.1 hcons
      have hrest (k : κ) : (xs.filter (key · = k)).map view = (ys.filter (key · = k)).map view := by
        by_cases hk : key y = k
        · exact (hsame k hk).2
        · have hcons := h k
          rwa [List.filter_cons_of_neg (by simpa [hxy] using hk),
            List.filter_cons_of_neg (by simpa using hk)] at hcons
      rw [List.map_cons, List.map_cons, (hsame (key y) rfl).1, ih hxs.of_cons hys.of_cons hrest]

/-- It is the same whether lists are seen alike by the elements of each key before they are sorted
or afterwards. -/
theorem map_mergeSort_eq [DecidableEq κ] {key : α → κ} {view : α → β} {xs ys : List α}
    (trans : ∀ a b c, le a b = true → le b c = true → le a c = true)
    (total : ∀ a b, (le a b || le b a) = true)
    (le_iff : ∀ a b, key a = key b ↔ le a b = true ∧ le b a = true)
    (h : ∀ k, (xs.filter (key · = k)).map view = (ys.filter (key · = k)).map view) :
    (xs.mergeSort le).map view = (ys.mergeSort le).map view := by
  have hkept (zs : List α) (k : κ) :
      (zs.mergeSort le).filter (key · = k) = zs.filter (key · = k) := by
    rw [filter_mergeSort trans total]
    apply List.mergeSort_of_pairwise
    refine List.pairwise_of_forall_mem_list fun a ha b hb => ?_
    have ha := of_decide_eq_true (List.mem_filter.1 ha).2
    have hb := of_decide_eq_true (List.mem_filter.1 hb).2
    exact ((le_iff a b).1 (ha.trans hb.symm)).1
  apply map_eq_of_filter_key trans le_iff (List.pairwise_mergeSort trans total xs)
    (List.pairwise_mergeSort trans total ys)
  intro k
  rw [hkept, hkept, h]

end Sorting

/-! ## The order of a listing -/

namespace Stamp

/-- The place of a stamp among all others: two places for each time. -/
def rank (stamp : Stamp) : Int :=
  2 * stamp.time.microseconds + if stamp.isWhole then 0 else 1

theorem rank_mem_Icc (stamp : Stamp) : 2 * stamp.time.microseconds ≤ stamp.rank ∧
    stamp.rank ≤ 2 * stamp.time.microseconds + 1 := by
  unfold rank
  split_ifs <;> omega

theorem rank_whole (seconds : Int) : (whole seconds).rank = 2 * (seconds * 1000000) :=
  Int.add_zero _

theorem rank_exact (time : Time) : (exact time).rank = 2 * time.microseconds + 1 := rfl

theorem rank_injective {a b : Stamp} (h : a.rank = b.rank) : a = b := by
  cases a with
  | whole s =>
    cases b with
    | whole t =>
      rw [rank_whole, rank_whole] at h
      have hst : s = t := by omega
      rw [hst]
    | exact t =>
      rw [rank_whole, rank_exact] at h
      omega
  | exact s =>
    cases b with
    | whole t =>
      rw [rank_exact, rank_whole] at h
      omega
    | exact t =>
      rw [rank_exact, rank_exact] at h
      have hst : s.microseconds = t.microseconds := by omega
      exact congrArg (fun m => exact ⟨m⟩) hst

theorem isLess_iff {a b : Stamp} : a.isLess b = true ↔ a.rank < b.rank := by
  have htime : a.time = b.time ↔ a.time.microseconds = b.time.microseconds :=
    ⟨congrArg _, congrArg Time.mk⟩
  rw [isLess, rank, rank]
  cases a.isWhole <;> cases b.isWhole <;> simp [htime] <;> omega

end Stamp

namespace Design

/-- What designs are sorted by. -/
def key (design : Design) : Stamp × String :=
  (design.updatedAt, design.name)

theorem comesBefore_iff {a b : Design} : a.comesBefore b = true ↔
    b.updatedAt.rank < a.updatedAt.rank ∨
      a.updatedAt.rank = b.updatedAt.rank ∧ a.name ≤ b.name := by
  have hstamp : a.updatedAt = b.updatedAt ↔ a.updatedAt.rank = b.updatedAt.rank :=
    ⟨congrArg _, Stamp.rank_injective⟩
  simp [comesBefore, Stamp.isLess_iff, hstamp]

theorem comesBefore_trans (a b c : Design) (hab : a.comesBefore b = true)
    (hbc : b.comesBefore c = true) : a.comesBefore c = true := by
  rw [comesBefore_iff] at hab hbc ⊢
  rcases hab with hab | ⟨hab, hname⟩ <;> rcases hbc with hbc | ⟨hbc, hname'⟩
  · left; omega
  · left; omega
  · left; omega
  · exact .inr ⟨hab.trans hbc, String.le_trans hname hname'⟩

theorem comesBefore_total (a b : Design) : (a.comesBefore b || b.comesBefore a) = true := by
  rw [Bool.or_eq_true, comesBefore_iff, comesBefore_iff]
  rcases Int.lt_trichotomy a.updatedAt.rank b.updatedAt.rank with h | h | h
  · exact .inr (.inl h)
  · rcases String.le_total a.name b.name with hname | hname
    · exact .inl (.inr ⟨h, hname⟩)
    · exact .inr (.inr ⟨h.symm, hname⟩)
  · exact .inl (.inl h)

/-- A listing tells designs apart by what they are sorted by. -/
theorem key_eq_iff (a b : Design) :
    a.key = b.key ↔ a.comesBefore b = true ∧ b.comesBefore a = true := by
  rw [comesBefore_iff, comesBefore_iff, key, key, Prod.mk.injEq]
  constructor
  · rintro ⟨hstamp, hname⟩
    rw [hstamp, hname]
    exact ⟨.inr ⟨rfl, String.le_refl _⟩, .inr ⟨rfl, String.le_refl _⟩⟩
  · rintro ⟨hab | ⟨hab, hname⟩, hba | ⟨hba, hname'⟩⟩
    · omega
    · omega
    · omega
    · exact ⟨Stamp.rank_injective hab, String.le_antisymm hname hname'⟩

/-- The later stamp comes first, and of equal times in one form the first name. -/
theorem comesBefore_spec {a b : Design} (h : a.comesBefore b = true) :
    b.updatedAt.time.microseconds < a.updatedAt.time.microseconds ∨
      a.updatedAt.time = b.updatedAt.time ∧
        (a.updatedAt.isWhole = b.updatedAt.isWhole → a.name ≤ b.name) := by
  rcases comesBefore_iff.1 h with h | ⟨h, hname⟩
  · by_cases hlater : b.updatedAt.time.microseconds < a.updatedAt.time.microseconds
    · exact .inl hlater
    · have htime : a.updatedAt.time.microseconds = b.updatedAt.time.microseconds := by
        have ha := a.updatedAt.rank_mem_Icc
        have hb := b.updatedAt.rank_mem_Icc
        omega
      refine .inr ⟨congrArg Time.mk htime, fun hform => ?_⟩
      rw [Stamp.rank, Stamp.rank, hform] at h
      omega
  · rw [Stamp.rank_injective h]
    exact .inr ⟨rfl, fun _ => hname⟩

end Design

namespace Scan

/-- The row that was added first comes first. -/
def oldestFirst : Scan := ⟨id, .refl⟩

/-- Where a row is found depends on its place among the others, and not on what is in it. -/
structure IsSteady (scan : Scan) : Prop where
  map : ∀ (change : Design → Design) (designs : List Design),
    scan.rows (designs.map change) = (scan.rows designs).map change
  filter : ∀ (p : Design → Bool) (designs : List Design),
    (scan.rows designs).filter p = scan.rows (designs.filter p)

theorem isSteady_newestFirst : newestFirst.IsSteady where
  map _ _ := List.map_reverse.symm
  filter _ _ := List.filter_reverse

end Scan

namespace DesignStore

variable {store : DesignStore} {target : String}

theorem listing_perm (store : DesignStore) (scan : Scan) :
    (store.listing scan).Perm store.designs :=
  (List.mergeSort_perm _ _).trans (scan.perm _)

theorem pairwise_comesBefore_listing (store : DesignStore) (scan : Scan) :
    (store.listing scan).Pairwise fun a b => a.comesBefore b = true :=
  List.pairwise_mergeSort Design.comesBefore_trans Design.comesBefore_total _

theorem filter_listing (store : DesignStore) (scan : Scan) (p : Design → Bool) :
    (store.listing scan).filter p =
      ((scan.rows store.designs).filter p).mergeSort Design.comesBefore :=
  filter_mergeSort Design.comesBefore_trans Design.comesBefore_total _ _

/-! ## Ties -/

variable {α : Type} {view : Design → α} {xs ys : List Design}

/-- Designs that a listing does not tell apart stand in the same order in both lists, by what is
seen of them. -/
def SameTies (view : Design → α) (xs ys : List Design) : Prop :=
  ∀ key, (xs.filter (·.key = key)).map view = (ys.filter (·.key = key)).map view

/-- It is so for all designs but one. -/
def SameTiesBut (target : String) (xs ys : List Design) : Prop :=
  SameTies id (xs.filter (·.id ≠ target)) (ys.filter (·.id ≠ target))

theorem SameTies.map_mergeSort (h : SameTies view xs ys) :
    (xs.mergeSort Design.comesBefore).map view = (ys.mergeSort Design.comesBefore).map view :=
  map_mergeSort_eq Design.comesBefore_trans Design.comesBefore_total Design.key_eq_iff h

theorem SameTies.mergeSort_eq (h : SameTies id xs ys) :
    xs.mergeSort Design.comesBefore = ys.mergeSort Design.comesBefore := by
  have hmap := h.map_mergeSort
  rw [List.map_id, List.map_id] at hmap
  exact hmap

/-- If no two designs have one key there are no ties. -/
theorem SameTies.of_nodup
    (hperm : (xs.map fun d => (d.key, view d)).Perm (ys.map fun d => (d.key, view d)))
    (h : (xs.map Design.key).Nodup) : SameTies view xs ys := by
  intro key
  have hfilter (zs : List Design) :
      ((zs.map fun d => (d.key, view d)).filter fun entry => entry.1 = key).map Prod.snd =
        (zs.filter (·.key = key)).map view := by
    rw [List.filter_map, List.map_map]
    rfl
  have hperm := (hperm.filter fun entry => entry.1 = key).map Prod.snd
  rw [hfilter, hfilter] at hperm
  have hlength : (xs.filter (·.key = key)).length ≤ 1 := by
    rw [← List.countP_eq_length_filter]
    simpa [List.count, List.countP_map, Function.comp_def, beq_eq_decide] using
      List.nodup_iff_count_le_one.1 h key
  cases hxs : xs.filter (·.key = key) with
  | nil =>
    rw [hxs, List.map_nil] at hperm
    exact hperm.nil_eq
  | cons x rest =>
    rw [hxs, List.length_cons] at hlength
    have hrest : rest = [] := List.eq_nil_of_length_eq_zero (by omega)
    rw [hxs, hrest, List.map_singleton] at hperm
    rw [hrest, List.map_singleton]
    exact List.singleton_perm.1 hperm

/-! ## Pages -/

theorem isCountable_natCast {n : Nat} : isCountable n = true ↔ n < 0x8000000000000000 := by
  rw [isCountable, Bool.and_eq_true, decide_eq_true_eq, decide_eq_true_eq]
  omega

theorem isCountable_of_le {m n : Nat} (hmn : m ≤ n) (hn : isCountable n = true) :
    isCountable m = true :=
  isCountable_natCast.2 (hmn.trans_lt (isCountable_natCast.1 hn))

theorem page_natCast (store : DesignStore) (scan : Scan) {skip limit : Nat}
    (hskip : isCountable skip = true) (hlimit : isCountable limit = true) :
    store.page scan skip limit = some (((store.listing scan).drop skip).take limit) := by
  have hlimit' : ¬(limit : Int) < 0 := Int.not_lt.2 (Int.natCast_nonneg limit)
  simp only [page, hskip, hlimit, hlimit', Bool.and_true, if_true, if_false, Int.toNat_natCast]

/-- The pages of one size from the first on, put together. Each is found by a query of its own, and
there is a page as long as the database takes the numbers. -/
def pages? (store : DesignStore) (scans : Nat → Scan) (size : Nat) : Nat → Option (List Design)
  | 0 => some []
  | count + 1 => do
    let before ← pages? store scans size count
    let page ← store.page (scans count) (count * size : Nat) size
    return before ++ page

/-- Pages, put together, are as much of a listing as they cover. -/
theorem pages?_eq {scans : Nat → Scan} {size : Nat} (hsize : isCountable size = true)
    (hties : ∀ i, SameTies id ((scans 0).rows store.designs) ((scans i).rows store.designs)) :
    ∀ count : Nat, (∀ i < count, isCountable (i * size : Nat) = true) →
      store.pages? scans size count = some ((store.listing (scans 0)).take (count * size)) := by
  intro count hcount
  induction count with
  | zero => rw [pages?, Nat.zero_mul, List.take_zero]
  | succ count ih =>
    have hbefore := ih fun i hi => hcount i (Nat.lt_succ_of_lt hi)
    have hpage := page_natCast store (scans count) (hcount count count.lt_succ_self) hsize
    rw [listing, ← (hties count).mergeSort_eq, ← listing] at hpage
    simp only [pages?, hbefore, hpage, Option.bind_eq_bind, Option.bind_some, Option.pure_def]
    rw [Nat.succ_mul, List.take_add]

/-- The pages before the end of the store are enough. -/
theorem exists_pages? {scans : Nat → Scan} {size : Nat} (hpos : 1 ≤ size)
    (hsize : isCountable size = true) (hstore : isCountable store.designs.length = true)
    (hties : ∀ i, SameTies id ((scans 0).rows store.designs) ((scans i).rows store.designs)) :
    ∃ count, store.pages? scans size count = some (store.listing (scans 0)) ∧
      ∀ i, count ≤ i → isCountable (i * size : Nat) = true →
        store.page (scans i) (i * size : Nat) size = some [] := by
  have hlength (scan : Scan) : (store.listing scan).length = store.designs.length :=
    (store.listing_perm scan).length_eq
  let count := (store.designs.length + (size - 1)) / size
  have hcovered : store.designs.length ≤ count * size := by
    have hdiv := Nat.div_add_mod (store.designs.length + (size - 1)) size
    have hmod := Nat.mod_lt (store.designs.length + (size - 1)) hpos
    rw [Nat.mul_comm] at hdiv
    show store.designs.length ≤ (store.designs.length + (size - 1)) / size * size
    omega
  refine ⟨count, ?_, fun i hi hskip => ?_⟩
  · rw [pages?_eq hsize hties count, List.take_of_length_le]
    · rw [hlength]
      exact hcovered
    · intro i hi
      have hstart : i * size < store.designs.length := by
        have hnext : (i + 1) * size ≤ store.designs.length + (size - 1) :=
          (Nat.mul_le_mul_right size hi).trans (Nat.div_mul_le_self _ _)
        rw [Nat.succ_mul] at hnext
        omega
      exact isCountable_of_le hstart.le hstore
  · have hend : store.designs.length ≤ i * size :=
      hcovered.trans (Nat.mul_le_mul_right size hi)
    rw [page_natCast store (scans i) hskip hsize, List.drop_eq_nil_of_le, List.take_nil]
    rw [hlength]
    exact hend

/-! ## Drafts -/

theorem map_page (store : DesignStore) (scan : Scan) (skip limit : Int) (f : Design → String) :
    (store.page scan skip limit).map (List.map f) =
      if isCountable skip && isCountable limit then
        let rest := ((store.listing scan).map f).drop skip.toNat
        some (if limit < 0 then rest else rest.take limit.toNat)
      else none := by
  rw [page]
  split_ifs <;> simp [List.map_drop, List.map_take]

/-- A draft changes nothing that designs are sorted by or found by. -/
theorem key_drafted (target : String) (template : Value) (now : Time) (d : Design) :
    (if d.id = target then d.withDraft template now else d).key = d.key ∧
      (if d.id = target then d.withDraft template now else d).id = d.id := by
  split_ifs
  · exact ⟨rfl, rfl⟩
  · exact ⟨rfl, rfl⟩

theorem ids_page_saveDraft {template : Value} {now : Time} {scan scan' : Scan}
    (hties : SameTies (·.id) (scan.rows store.designs)
      (scan'.rows (store.saveDraft target template now).1.designs)) (skip limit : Int) :
    ((store.saveDraft target template now).1.page scan' skip limit).map (List.map (·.id)) =
      (store.page scan skip limit).map (List.map (·.id)) := by
  rw [map_page, map_page, listing, listing, hties.map_mergeSort]

/-! ## Publications -/

/-- The designs of other identifiers are the same, and stand in the same order. -/
theorem filter_ne_update (store : DesignStore) {change : Design → Design}
    (hid : ∀ d, (change d).id = d.id) :
    (store.update target change).1.designs.filter (·.id ≠ target) =
      store.designs.filter (·.id ≠ target) := by
  rw [designs_update, List.filter_map]
  have hkept : ((fun d : Design => decide (d.id ≠ target)) ∘
      fun d => if d.id = target then change d else d) = fun d => decide (d.id ≠ target) := by
    funext d
    rw [Function.comp_apply]
    split_ifs with h
    · rw [hid]
    · rfl
  rw [hkept]
  refine (List.map_congr_left fun d hd => ?_).trans (List.map_id _)
  exact if_neg (of_decide_eq_true (List.mem_filter.1 hd).2)

theorem filter_ne_republish (store : DesignStore) (target : String) (name : Option String)
    (template : Value) (markup html : String) (now : Time) :
    (store.republish target name template markup html now).1.designs.filter (·.id ≠ target) =
      store.designs.filter (·.id ≠ target) :=
  filter_ne_update store fun _ => rfl

/-- Where the queries agree on the others, they find them in one order before a publication and
behind it. -/
theorem filter_listing_eq {later : DesignStore} {scan scan' : Scan}
    (hties : SameTiesBut target (scan.rows store.designs) (scan'.rows later.designs)) :
    (later.listing scan').filter (·.id ≠ target) =
      (store.listing scan).filter (·.id ≠ target) := by
  rw [filter_listing, filter_listing, hties.mergeSort_eq]

/-- What comes before all else in the order stands at the front of a listing. -/
theorem listing_eq_append (store : DesignStore) (scan : Scan) (p : Design → Bool)
    (h : ∀ d ∈ store.designs, ∀ e ∈ store.designs, p d = true → p e = false →
      e.comesBefore d = false) :
    store.listing scan =
      (store.listing scan).filter p ++ (store.listing scan).filter fun d => !p d := by
  have hmem {d : Design} (hd : d ∈ store.listing scan) : d ∈ store.designs :=
    (listing_perm store scan).mem_iff.1 hd
  have hsorted := pairwise_comesBefore_listing store scan
  generalize store.listing scan = found at hmem hsorted
  induction found with
  | nil => rfl
  | cons d found ih =>
    have ih := ih (fun hd => hmem (List.mem_cons_of_mem _ hd)) hsorted.tail
    by_cases hd : p d = true
    · rw [List.filter_cons_of_pos hd, List.filter_cons_of_neg (by simp [hd]), List.cons_append,
        ← ih]
    · -- Nothing that has the property may follow a design without it.
      have hnone : found.filter p = [] := by
        rw [List.filter_eq_nil_iff]
        intro e he hpe
        have hbefore := List.rel_of_pairwise_cons hsorted he
        rw [h e (hmem (List.mem_cons_of_mem _ he)) d (hmem List.mem_cons_self) hpe
          (by simpa using hd)] at hbefore
        cases hbefore
      rw [hnone, List.nil_append] at ih
      rw [List.filter_cons_of_neg hd, List.filter_cons_of_pos (by simpa using hd), hnone,
        List.nil_append, ← ih]

theorem updatedAt_republished {name : Option String} {template : Value} {markup html : String}
    {now : Time} {d : Design}
    (h : d ∈ (store.republish target name template markup html now).1.designs)
    (hid : d.id = target) : d.updatedAt = .exact now := by
  rcases mem_designs_update h with ⟨-, hne⟩ | ⟨old, -, -, rfl⟩
  · exact absurd hid hne
  · rfl

theorem mem_of_mem_republished {name : Option String} {template : Value} {markup html : String}
    {now : Time} {d : Design}
    (h : d ∈ (store.republish target name template markup html now).1.designs)
    (hid : d.id ≠ target) : d ∈ store.designs := by
  rcases mem_designs_update h with ⟨hmem, -⟩ | ⟨old, -, hold, rfl⟩
  · exact hmem
  · exact absurd hold hid

/-- If it is later than every other publication, it comes first. -/
theorem listing_republish (store : DesignStore) (scan : Scan) (name : Option String)
    (template : Value) (markup html : String) {now : Time}
    (hlater : ∀ d ∈ store.designs, d.id ≠ target →
      d.updatedAt.time.microseconds < now.microseconds) :
    let found := (store.republish target name template markup html now).1.listing scan
    found = found.filter (·.id = target) ++ found.filter (·.id ≠ target) := by
  intro found
  have hfront := listing_eq_append (store.republish target name template markup html now).1 scan
    (fun d => decide (d.id = target)) fun d hd e he hid hne => ?_
  · simpa only [decide_not] using hfront
  · have htime : d.updatedAt = .exact now := updatedAt_republished hd (of_decide_eq_true hid)
    have hne : e.id ≠ target := of_decide_eq_false hne
    have hlater := hlater e (mem_of_mem_republished he hne) hne
    rw [← Bool.not_eq_true]
    intro hbefore
    rcases Design.comesBefore_spec hbefore with h | ⟨h, -⟩
    · rw [htime, Stamp.time] at h
      omega
    · rw [htime, Stamp.time] at h
      rw [h] at hlater
      exact absurd hlater (Int.lt_irrefl _)

/-! ## Where queries agree -/

/-- Without ties all queries find the designs in one order. -/
theorem sameTies_of_nodup (h : (store.designs.map Design.key).Nodup) (scan scan' : Scan) :
    SameTies id (scan.rows store.designs) (scan'.rows store.designs) := by
  have hrows := scan.perm store.designs
  refine .of_nodup (.map _ (hrows.trans (scan'.perm store.designs).symm)) ?_
  exact (hrows.map Design.key).nodup_iff.2 h

theorem sameTies_saveDraft_of_nodup (h : (store.designs.map Design.key).Nodup) (target : String)
    (template : Value) (now : Time) (scan scan' : Scan) :
    SameTies (·.id) (scan.rows store.designs)
      (scan'.rows (store.saveDraft target template now).1.designs) := by
  have hrows := scan.perm store.designs
  refine .of_nodup ?_ ((hrows.map Design.key).nodup_iff.2 h)
  refine (hrows.map _).trans (.trans ?_ ((scan'.perm _).map _).symm)
  rw [saveDraft, designs_update, List.map_map]
  refine .of_eq (List.map_congr_left fun d _ => ?_)
  obtain ⟨hkey, hid⟩ := key_drafted target template now d
  rw [Function.comp_apply, hkey, hid]

theorem sameTies_republish_of_nodup (h : (store.designs.map Design.key).Nodup) (target : String)
    (name : Option String) (template : Value) (markup html : String) (now : Time)
    (scan scan' : Scan) :
    SameTiesBut target (scan.rows store.designs)
      (scan'.rows (store.republish target name template markup html now).1.designs) := by
  have hrows := scan.perm store.designs
  refine .of_nodup (.map _ ?_) (((hrows.map Design.key).nodup_iff.2 h).sublist (.map _ ?_))
  · refine (hrows.filter _).trans (.trans ?_ ((scan'.perm _).filter _).symm)
    rw [filter_ne_republish]
  · exact List.filter_sublist

theorem sameTies_saveDraft_of_isSteady {scan : Scan} (h : scan.IsSteady) (store : DesignStore)
    (target : String) (template : Value) (now : Time) :
    SameTies (·.id) (scan.rows store.designs)
      (scan.rows (store.saveDraft target template now).1.designs) := by
  intro key
  rw [saveDraft, designs_update, h.map, List.filter_map, List.map_map]
  have hkey : ((fun d : Design => decide (d.key = key)) ∘
      fun d => if d.id = target then d.withDraft template now else d) =
        fun d => decide (d.key = key) := by
    funext d
    rw [Function.comp_apply, (key_drafted target template now d).1]
  rw [hkey]
  refine List.map_congr_left fun d _ => ?_
  rw [Function.comp_apply, (key_drafted target template now d).2]

theorem sameTies_republish_of_isSteady {scan : Scan} (h : scan.IsSteady) (store : DesignStore)
    (target : String) (name : Option String) (template : Value) (markup html : String)
    (now : Time) :
    SameTiesBut target (scan.rows store.designs)
      (scan.rows (store.republish target name template markup html now).1.designs) := by
  rw [SameTiesBut, h.filter, h.filter, filter_ne_republish]
  exact fun _ => rfl

/-! ## The main result -/

/-- A listing holds every stored design once, the one of the latest stamp first, and of those with
equal times in one form the one whose name is first. Pages of any size that the database takes, each
found by a query of its own, are a listing when they are put together, if designs with one stamp and
one name come in one order in all these queries; pages behind the end are empty. In the same way, to
save a draft leaves the designs of every page and their order as they are, and to publish a design
leaves all others in their order; if this is later than their publications, the design comes first.
The queries agree by themselves where no two designs have one stamp and one name, and with a database
that finds rows by their age or otherwise by their places only. -/
theorem pages_partition (store : DesignStore) :
    (∀ scan, (store.listing scan).Perm store.designs ∧
      (store.listing scan).Pairwise fun a b =>
        b.updatedAt.time.microseconds < a.updatedAt.time.microseconds ∨
          a.updatedAt.time = b.updatedAt.time ∧
            (a.updatedAt.isWhole = b.updatedAt.isWhole → a.name ≤ b.name)) ∧
    (∀ (scans : Nat → Scan) (size : Nat), 1 ≤ size → isCountable size = true →
      isCountable store.designs.length = true →
      (∀ i, SameTies id ((scans 0).rows store.designs) ((scans i).rows store.designs)) →
      ∃ count, store.pages? scans size count = some (store.listing (scans 0)) ∧
        ∀ i, count ≤ i → isCountable (i * size : Nat) = true →
          store.page (scans i) (i * size : Nat) size = some []) ∧
    (∀ target template now (scan scan' : Scan),
      let later := (store.saveDraft target template now).1
      SameTies (·.id) (scan.rows store.designs) (scan'.rows later.designs) →
      ∀ skip limit, (later.page scan' skip limit).map (List.map (·.id)) =
        (store.page scan skip limit).map (List.map (·.id))) ∧
    (∀ target name template markup html now (scan scan' : Scan),
      let later := (store.republish target name template markup html now).1
      SameTiesBut target (scan.rows store.designs) (scan'.rows later.designs) →
      (later.listing scan').filter (·.id ≠ target) =
        (store.listing scan).filter (·.id ≠ target) ∧
      ((∀ d ∈ store.designs, d.id ≠ target →
          d.updatedAt.time.microseconds < now.microseconds) →
        later.listing scan' = (later.listing scan').filter (·.id = target) ++
          (store.listing scan).filter (·.id ≠ target))) ∧
    (∀ {scan : Scan}, scan.IsSteady →
      (∀ target template now, SameTies (·.id) (scan.rows store.designs)
        (scan.rows (store.saveDraft target template now).1.designs)) ∧
      ∀ target name template markup html now,
        SameTiesBut target (scan.rows store.designs)
          (scan.rows (store.republish target name template markup html now).1.designs)) ∧
    ((store.designs.map Design.key).Nodup →
      (∀ scan scan' : Scan, SameTies id (scan.rows store.designs) (scan'.rows store.designs)) ∧
      (∀ target template now (scan scan' : Scan), SameTies (·.id) (scan.rows store.designs)
        (scan'.rows (store.saveDraft target template now).1.designs)) ∧
      ∀ target name template markup html now (scan scan' : Scan),
        SameTiesBut target (scan.rows store.designs)
          (scan'.rows (store.republish target name template markup html now).1.designs)) := by
  refine ⟨fun scan => ⟨listing_perm store scan, ?_⟩, ?_, ?_, ?_, fun h => ?_, fun h => ?_⟩
  · exact (pairwise_comesBefore_listing store scan).imp Design.comesBefore_spec
  · intro scans size hpos hsize hstore hties
    exact exists_pages? hpos hsize hstore hties
  · intro target template now scan scan' later hties skip limit
    exact ids_page_saveDraft hties skip limit
  · intro target name template markup html now scan scan' later hties
    have hothers := filter_listing_eq hties
    refine ⟨hothers, fun hlater => ?_⟩
    rw [← hothers]
    exact listing_republish store scan' name template markup html hlater
  · exact ⟨sameTies_saveDraft_of_isSteady h store, sameTies_republish_of_isSteady h store⟩
  · exact ⟨sameTies_of_nodup h, sameTies_saveDraft_of_nodup h, sameTies_republish_of_nodup h⟩

/-- Rows that are found in the order of a listing stay in it. -/
theorem listing_of_pairwise {store : DesignStore} {scan : Scan}
    (h : (scan.rows store.designs).Pairwise fun a b => a.comesBefore b = true) :
    store.listing scan = scan.rows store.designs :=
  List.mergeSort_of_pairwise h

/-- Three designs of one time, two of them of one name. -/
def tiedStore : DesignStore :=
  ["News", "News", "Ads"].foldl (fun store name => (store.create name .null "" "" ⟨5⟩).1) .empty

/-- Two pages hold the tied designs, and the oldest of them comes first when it is published
again. -/
theorem pages_partition_tied :
    (∃ count, tiedStore.pages? (fun _ => .newestFirst) 2 count = some tiedStore.designs.reverse ∧
      ∀ i, count ≤ i → isCountable (i * 2 : Nat) = true →
        tiedStore.page .newestFirst (i * 2 : Nat) 2 = some []) ∧
    (∀ d ∈ tiedStore.designs, d.id ≠ identifier 1 → d.updatedAt.time.microseconds < 9) ∧
    ((tiedStore.republish (identifier 1) none .null "" "" ⟨9⟩).1.listing .newestFirst).map (·.id) =
      [identifier 1, identifier 3, identifier 2] := by
  obtain ⟨-, hpages, -, hpublished, hsteady, -⟩ := pages_partition tiedStore
  have hlisting : tiedStore.listing .newestFirst = tiedStore.designs.reverse :=
    listing_of_pairwise (by decide +kernel)
  have hlater : ∀ d ∈ tiedStore.designs, d.id ≠ identifier 1 →
      d.updatedAt.time.microseconds < 9 := by
    decide +kernel
  refine ⟨?_, hlater, ?_⟩
  · rw [← hlisting]
    exact hpages (fun _ => .newestFirst) 2 (by decide) (by decide) (by decide) fun _ _ => rfl
  · have hties := (hsteady Scan.isSteady_newestFirst).2 (identifier 1) none .null "" "" ⟨9⟩
    have hfirst := (hpublished (identifier 1) none .null "" "" ⟨9⟩ .newestFirst .newestFirst
      hties).2 hlater
    have hone : (Scan.newestFirst.rows
        (tiedStore.republish (identifier 1) none .null "" "" ⟨9⟩).1.designs).filter
          (·.id = identifier 1) =
        [⟨identifier 1, "News", .null, "", "", .nothing, .whole 0, .exact ⟨9⟩⟩] := by
      rfl
    rw [hfirst, hlisting, filter_listing, hone, List.mergeSort_singleton]
    decide +kernel

/-- Two designs of one time and one name. -/
def twins : DesignStore :=
  (tiedStore.delete (identifier 3)).1

/-- A design that was created and one that was published at the beginning of the same second. -/
def republished : DesignStore :=
  ((tiedStore.delete (identifier 2)).1.republish (identifier 1) none .null "" "" ⟨0⟩).1

/-- Without these conditions it is wrong. There is no page of a size that the database does not
take. Where two queries find tied designs in two orders, one of the designs is on both pages and the
other on none. And a design that was published at the second at which another was created comes
first, whatever their names. -/
theorem not_forall_pages :
    twins.page .newestFirst 0 0x8000000000000000 = none ∧
    (twins.designs.map (·.id) = [identifier 1, identifier 2] ∧
      (twins.pages? (fun i => if i = 0 then .newestFirst else .oldestFirst) 1 2).map
        (List.map (·.id)) = some [identifier 2, identifier 2]) ∧
    (republished.listing .oldestFirst).map (fun d => (d.updatedAt.time, d.name)) =
      [(⟨0⟩, "News"), (⟨0⟩, "Ads")] := by
  have hnewest : twins.listing .newestFirst = twins.designs.reverse :=
    listing_of_pairwise (by decide +kernel)
  have holdest : twins.listing .oldestFirst = twins.designs :=
    listing_of_pairwise (by decide +kernel)
  have hrepublished : republished.listing .oldestFirst = republished.designs :=
    listing_of_pairwise (by decide +kernel)
  refine ⟨rfl, ⟨?_, ?_⟩, ?_⟩
  · decide +kernel
  · simp only [pages?, page, if_true, if_false, Nat.one_ne_zero, hnewest, holdest]
    decide +kernel
  · rw [hrepublished]
    decide +kernel

end DesignStore

end EmailStudio
