import EmailStudio.Proofs.Value.Fields
import EmailStudio.Value.Edit

/-!
# Replacing what is at a place

To put a value at a place, validation and editing alike go down to it step by step;
`Value.Replaced` follows the steps, down to a place that may be the whole value.
-/

namespace EmailStudio.Value

theorem setAt_cons {v inner later new : Value} {step : Step} {path : List Step} (hne : path ≠ [])
    (hp : v.part step = .ok inner) (hs : inner.setAt path new = .ok later) :
    v.setAt (step :: path) new = v.put step later := by
  cases path with
  | nil => exact absurd rfl hne
  | cons next rest =>
    rw [setAt] at hs
    rw [setAt, editAt, hp]
    · simp only [bind, Except.bind, hs]
    · simp

theorem position?_natCast {size n : Nat} (h : n < size) : Step.position? size n = some n := by
  have hneg : ¬(n : Int) < 0 := by omega
  rw [Step.position?, if_neg hneg]
  simp only [Int.toNat_natCast]
  exact if_pos ⟨by omega, by omega⟩

theorem part_name {fields : Fields} {key : String} {v : Value} (h : fields.get? key = some v) :
    (object fields).part (.name key) = .ok v := by
  simp only [part, h]

theorem part_index {items : List Value} {n : Nat} {v : Value} (h : items[n]? = some v) :
    (list items).part (.index n) = .ok v := by
  obtain ⟨hlt, -⟩ := List.getElem?_eq_some_iff.1 h
  simp only [part, position?_natCast hlt, Option.bind_some, h]

theorem put_index {items : List Value} {n : Nat} (h : n < items.length) (new : Value) :
    (list items).put (.index n) new = .ok (list (items.set n new)) := by
  rw [put, position?_natCast h]

/-- What a value becomes when another one is put at a place in it. -/
inductive Replaced (new : Value) : Value → List Step → Value → Prop
  | whole (v : Value) : Replaced new v [] new
  | under {v inner later edited : Value} {step : Step} {path : List Step}
      (part_eq : v.part step = .ok inner) (replaced : Replaced new inner path later)
      (put_eq : v.put step later = .ok edited) : Replaced new v (step :: path) edited

namespace Replaced

variable {new v inner later edited : Value} {path : List Step}

theorem setAt_eq (h : Replaced new v path edited) (hne : path ≠ []) :
    v.setAt path new = .ok edited := by
  induction h with
  | whole => exact absurd rfl hne
  | @under v inner later edited step path part_eq replaced put_eq ih =>
    cases replaced with
    | whole => exact put_eq
    | under => exact (setAt_cons (by simp) part_eq (ih (by simp))).trans put_eq

theorem under_field {fields : Fields} {key : String} (hk : fields.get? key = some inner)
    (h : Replaced new inner path later) :
    Replaced new (.object fields) (.name key :: path) (.object (fields.set key later)) :=
  .under (part_name hk) h rfl

theorem under_item {items : List Value} {n : Nat} (hn : items[n]? = some inner)
    (h : Replaced new inner path later) :
    Replaced new (.list items) (.index n :: path) (.list (items.set n later)) :=
  .under (part_index hn) h (put_index (List.getElem?_eq_some_iff.1 hn).1 later)

end Replaced

end EmailStudio.Value
