import Mathlib.Data.List.Forall2

/-!
# Outcomes

Rules for computations in `Except`: when a chain of steps, or the same step for every item of a
list, returns a given result.
-/

namespace EmailStudio.Outcome

variable {ε α β : Type}

theorem bind_eq_ok_iff {x : Except ε α} {f : α → Except ε β} {b : β} :
    (x >>= f) = .ok b ↔ ∃ a, x = .ok a ∧ f a = .ok b := by
  cases x <;> simp [bind, Except.bind]

theorem map_eq_ok_iff {x : Except ε α} {f : α → β} {b : β} :
    (f <$> x) = .ok b ↔ ∃ a, x = .ok a ∧ f a = b := by
  cases x <;> simp [Functor.map, Except.map]

theorem pure_eq_ok_iff {a b : α} : (pure a : Except ε α) = .ok b ↔ a = b := by
  simp [pure, Except.pure]

theorem mapError_eq_ok_iff {δ : Type} {x : Except ε α} {f : ε → δ} {a : α} :
    x.mapError f = .ok a ↔ x = .ok a := by
  cases x <;> simp [Except.mapError]

theorem mapError_map {δ : Type} (x : Except ε α) (f : α → β) (g : ε → δ) :
    (x.map f).mapError g = (x.mapError g).map f := by
  cases x <;> rfl

theorem ite_bind {c : Prop} [Decidable c] {x y : Except ε α} {f : α → Except ε β} :
    (if c then x else y) >>= f = if c then x >>= f else y >>= f := by
  by_cases h : c
  · rw [if_pos h, if_pos h]
  · rw [if_neg h, if_neg h]

theorem mapM_eq_ok_iff {f : α → Except ε β} {xs : List α} {ys : List β} :
    xs.mapM f = .ok ys ↔ List.Forall₂ (fun x y => f x = .ok y) xs ys := by
  induction xs generalizing ys with
  | nil => rw [List.mapM_nil, List.forall₂_nil_left_iff, pure_eq_ok_iff, eq_comm]
  | cons x xs ih =>
    rw [List.mapM_cons, List.forall₂_cons_left_iff, bind_eq_ok_iff]
    simp only [bind_eq_ok_iff, pure_eq_ok_iff, ih]
    constructor
    · rintro ⟨y, hy, ys, hys, rfl⟩
      exact ⟨y, ys, hy, hys, rfl⟩
    · rintro ⟨y, ys, hy, hys, rfl⟩
      exact ⟨y, hy, ys, hys, rfl⟩

/-- What every step of a fold keeps holds of what it returns. -/
theorem foldlM_induction {P : β → Prop} {f : β → α → Except ε β} {xs : List α} {start result : β}
    (h : xs.foldlM f start = .ok result) (hstart : P start)
    (hstep : ∀ x ∈ xs, ∀ before after, P before → f before x = .ok after → P after) :
    P result := by
  induction xs generalizing start with
  | nil =>
    rw [List.foldlM_nil, pure_eq_ok_iff] at h
    exact h ▸ hstart
  | cons x xs ih =>
    obtain ⟨hx, hstep⟩ := List.forall_mem_cons.1 hstep
    rw [List.foldlM_cons] at h
    obtain ⟨next, hnext, hrest⟩ := bind_eq_ok_iff.1 h
    exact ih hrest (hx start next hstart hnext) hstep

theorem mapM_congr {f g : α → Except ε β} {xs : List α} (h : ∀ x ∈ xs, f x = g x) :
    xs.mapM f = xs.mapM g := by
  induction xs with
  | nil => rfl
  | cons x xs ih =>
    obtain ⟨hx, h⟩ := List.forall_mem_cons.1 h
    rw [List.mapM_cons, List.mapM_cons, hx, ih h]

theorem map_eq_map_iff {γ : Type} {f : α → γ} {g : β → γ} {xs : List α} {ys : List β} :
    xs.map f = ys.map g ↔ List.Forall₂ (fun x y => f x = g y) xs ys := by
  rw [← List.forall₂_eq_eq_eq, List.forall₂_map_left_iff, List.forall₂_map_right_iff]

theorem forall₂_trans {γ : Type} {R : α → β → Prop} {S : β → γ → Prop} {T : α → γ → Prop}
    (h : ∀ x y z, R x y → S y z → T x z) {xs : List α} {ys : List β} {zs : List γ}
    (hr : List.Forall₂ R xs ys) (hs : List.Forall₂ S ys zs) : List.Forall₂ T xs zs := by
  induction hr generalizing zs with
  | nil =>
    cases hs
    exact .nil
  | cons hxy _ ih =>
    cases hs with
    | cons hyz hs => exact .cons (h _ _ _ hxy hyz) (ih hs)

theorem forall₂_set {R : α → β → Prop} {xs : List α} {ys : List β} {x : α} {y : β}
    (h : List.Forall₂ R xs ys) (hr : R x y) (n : Nat) :
    List.Forall₂ R (xs.set n x) (ys.set n y) := by
  induction h generalizing n with
  | nil => exact .nil
  | cons hhead htail ih =>
    cases n with
    | zero => exact .cons hr htail
    | succ n => exact .cons hhead (ih n)

theorem exists_of_mem_right {R : α → β → Prop} {xs : List α} {ys : List β}
    (h : List.Forall₂ R xs ys) {y : β} (hy : y ∈ ys) : ∃ x ∈ xs, R x y := by
  induction h with
  | nil => cases hy
  | cons hr _ ih =>
    rcases List.mem_cons.1 hy with rfl | hy
    · exact ⟨_, List.mem_cons_self, hr⟩
    · obtain ⟨x, hx, hr⟩ := ih hy
      exact ⟨x, List.mem_cons_of_mem _ hx, hr⟩

theorem exists_forall₂ {R : α → β → Prop} {P : β → Prop} {xs : List α}
    (h : ∀ x ∈ xs, ∃ y, R x y ∧ P y) : ∃ ys, List.Forall₂ R xs ys ∧ ∀ y ∈ ys, P y := by
  induction xs with
  | nil => exact ⟨[], .nil, by simp⟩
  | cons x xs ih =>
    obtain ⟨⟨y, hr, hp⟩, h⟩ := List.forall_mem_cons.1 h
    obtain ⟨ys, hrs, hps⟩ := ih h
    exact ⟨y :: ys, .cons hr hrs, List.forall_mem_cons.2 ⟨hp, hps⟩⟩

/-- A computation that gives a result under a condition, and otherwise fails for one of some
causes. -/
structure ReturnsIff (causes : ε → Prop) (p : Prop) (x : Except ε α) : Prop where
  returns : p → ∃ a, x = .ok a
  fails : ¬p → ∃ e, x = .error e ∧ causes e

namespace ReturnsIff

variable {causes : ε → Prop} {p q : Prop} {x : Except ε α}

theorem of_ok {a : α} (h : x = .ok a) : ReturnsIff causes True x :=
  ⟨fun _ => ⟨a, h⟩, fun hn => absurd trivial hn⟩

theorem of_error {e : ε} (h : x = .error e) (he : causes e) : ReturnsIff causes False x :=
  ⟨False.elim, fun _ => ⟨e, h, he⟩⟩

theorem congr (h : ReturnsIff causes p x) (hpq : p ↔ q) : ReturnsIff causes q x :=
  ⟨fun hq => h.returns (hpq.2 hq), fun hq => h.fails fun hp => hq (hpq.1 hp)⟩

theorem exists_ok_iff (h : ReturnsIff causes p x) : (∃ a, x = .ok a) ↔ p := by
  refine ⟨fun ⟨a, ha⟩ => by_contra fun hp => ?_, h.returns⟩
  obtain ⟨e, he, -⟩ := h.fails hp
  rw [ha] at he
  cases he

theorem bind {f : α → Except ε β} (hx : ReturnsIff causes p x)
    (hf : ∀ a, x = .ok a → ReturnsIff causes q (f a)) : ReturnsIff causes (p ∧ q) (x >>= f) := by
  by_cases hp : p
  · obtain ⟨a, ha⟩ := hx.returns hp
    rw [ha]
    exact (hf a ha).congr (iff_and_self.2 fun _ => hp)
  · obtain ⟨e, he, hcause⟩ := hx.fails hp
    rw [he]
    exact ⟨fun h => absurd h.1 hp, fun _ => ⟨e, rfl, hcause⟩⟩

theorem bind_pure {f : α → β} (hx : ReturnsIff causes p x) :
    ReturnsIff causes p (x >>= fun a => pure (f a)) :=
  (hx.bind fun a _ => of_ok (a := f a) rfl).congr (iff_of_eq (and_true p))

theorem mapM {p : α → Prop} {f : α → Except ε β} {xs : List α}
    (h : ∀ x ∈ xs, ReturnsIff causes (p x) (f x)) :
    ReturnsIff causes (∀ x ∈ xs, p x) (xs.mapM f) := by
  induction xs with
  | nil => exact (of_ok rfl).congr (by simp)
  | cons x xs ih =>
    obtain ⟨hx, h⟩ := List.forall_mem_cons.1 h
    rw [List.mapM_cons]
    exact (hx.bind fun _ _ => (ih h).bind_pure).congr List.forall_mem_cons.symm

end ReturnsIff

end EmailStudio.Outcome
