import EmailStudio.Proofs.Document.Normal
import EmailStudio.Proofs.Number.Exact

/-!
# Spellings of numbers

A number of a document may be spelled as an integer or as a binary number. `Value.Respells` says of
two values that they only differ in how their numbers are spelled, anywhere inside. Such values have
the same `Value.standard`, in which whole numbers are integers; what does not change when a value is
put in this form does not depend on the spelling of its numbers (`Value.apply_standard`).
-/

namespace EmailStudio

namespace Value

/-- Two values that are the same up to the spelling of the numbers in them. -/
inductive Respells : Value → Value → Prop
  | same (v : Value) : Respells v v
  | number {v w : Value} {q : Rat} (left : v.rat? = some q) (right : w.rat? = some q) :
      Respells v w
  | list {items others : List Value} (length : items.length = others.length)
      (each : ∀ pair ∈ items.zip others, Respells pair.1 pair.2) :
      Respells (.list items) (.list others)
  | object {fields others : List (String × Value)}
      (names : fields.map (·.1) = others.map (·.1))
      (each : ∀ pair ∈ fields.zip others, Respells pair.1.2 pair.2.2) :
      Respells (.object fields) (.object others)

namespace Respells

variable {fields others : List (String × Value)}

theorem of_object (h : Respells (.object fields) (.object others)) :
    fields.map (·.1) = others.map (·.1) ∧
      ∀ pair ∈ fields.zip others, Respells pair.1.2 pair.2.2 := by
  cases h with
  | same =>
    have each : List.Forall₂ (fun field other : String × Value => Respells field.2 other.2)
        fields fields := List.forall₂_same.2 fun field _ => .same field.2
    exact ⟨rfl, fun _ hpair => (List.forall₂_iff_zip.1 each).2 hpair⟩
  | number left => cases left
  | object names each => exact ⟨names, each⟩

/-- One more field, respelled. -/
theorem cons {key : String} {v w : Value} (h : Respells v w)
    (rest : Respells (.object fields) (.object others)) :
    Respells (.object ((key, v) :: fields)) (.object ((key, w) :: others)) := by
  obtain ⟨names, each⟩ := rest.of_object
  exact .object (congrArg (key :: ·) names) (List.forall_mem_cons.2 ⟨h, each⟩)

/-- One more field, spelled in the same way. -/
theorem keep {field : String × Value} (rest : Respells (.object fields) (.object others)) :
    Respells (.object (field :: fields)) (.object (field :: others)) :=
  .cons (.same field.2) rest

end Respells

mutual

/-- The value with an integer for every whole number. -/
def standard : Value → Value
  | float x =>
    match x.toInt? with
    | some n => int n
    | none => float x
  | list items => list (standardItems items)
  | object fields => object (standardFields fields)
  | v => v

def standardItems : List Value → List Value
  | [] => []
  | v :: rest => standard v :: standardItems rest

def standardFields : List (String × Value) → List (String × Value)
  | [] => []
  | (key, v) :: rest => (key, standard v) :: standardFields rest

end

theorem standardItems_eq_map : ∀ items : List Value, standardItems items = items.map standard
  | [] => rfl
  | v :: rest => congrArg (standard v :: ·) (standardItems_eq_map rest)

end Value

/-- The fields with integers for all whole numbers. -/
def Fields.standard (fields : Fields) : Fields :=
  fields.map fun field => (field.1, field.2.standard)

namespace Value

theorem standardFields_eq : ∀ fields : Fields, standardFields fields = fields.standard
  | [] => rfl
  | (key, v) :: rest => congrArg ((key, standard v) :: ·) (standardFields_eq rest)

@[simp] theorem standard_null : null.standard = null := rfl

@[simp] theorem standard_bool (b : Bool) : (bool b).standard = bool b := rfl

@[simp] theorem standard_int (n : Int) : (int n).standard = int n := rfl

@[simp] theorem standard_text (s : String) : (text s).standard = text s := rfl

@[simp] theorem standard_list (items : List Value) :
    (list items).standard = list (items.map standard) :=
  congrArg list (standardItems_eq_map items)

@[simp] theorem standard_object (fields : Fields) :
    (object fields).standard = object fields.standard :=
  congrArg object (standardFields_eq fields)

theorem toInt?_eq_some_iff {x : Binary64} {n : Int} :
    x.toInt? = some n ↔ x.toRat? = some (n : Rat) := by
  unfold Binary64.toInt?
  cases x.toRat? with
  | none => simp
  | some q =>
    simp only [Option.bind_some, Option.some.injEq]
    constructor
    · intro h
      split_ifs at h with hden
      rw [← Option.some.inj h, (Rat.den_eq_one_iff q).1 hden]
    · rintro rfl
      rw [if_pos (Rat.den_intCast n), Rat.num_intCast]

theorem standard_float (x : Binary64) : (float x).standard = float x ∨
    ∃ n : Int, x.toRat? = some (n : Rat) ∧ (float x).standard = int n := by
  cases hx : x.toInt? with
  | none => exact .inl (by simp only [standard, hx])
  | some n => exact .inr ⟨n, toInt?_eq_some_iff.1 hx, by simp only [standard, hx]⟩

/-- What is the same for a binary number that is whole as for the integer does not depend on the
spelling of numbers, when it does not for lists and objects. -/
theorem apply_standard {α : Type} {f : Value → α}
    (whole : ∀ {x : Binary64} {n : Int}, x.toRat? = some (n : Rat) → f (.int n) = f (.float x))
    (list : ∀ items : List Value, f (.list (items.map standard)) = f (.list items))
    (object : ∀ fields : Fields, f (.object fields.standard) = f (.object fields)) (v : Value) :
    f v.standard = f v := by
  cases v with
  | float x =>
    rcases standard_float x with h | ⟨n, hx, h⟩ <;> rw [h]
    exact whole hx
  | list items => rw [standard_list, list]
  | object fields => rw [standard_object, object]
  | _ => rfl

/-! ## Respelled values have the same standard form -/

theorem standard_of_rat? {v : Value} {q : Rat} (h : v.rat? = some q) :
    v.standard = if q.den = 1 then int q.num else v := by
  cases v with
  | int n =>
    cases h
    rw [if_pos (Rat.den_intCast n), Rat.num_intCast]
    rfl
  | float x =>
    have hx : x.toInt? = if q.den = 1 then some q.num else none := by
      rw [Binary64.toInt?, show x.toRat? = some q from h, Option.bind_some]
    simp only [standard, hx]
    split_ifs <;> rfl
  | _ => cases h

theorem standard_number {v w : Value} {q : Rat} (hv : v.rat? = some q) (hw : w.rat? = some q) :
    v.standard = w.standard := by
  rw [standard_of_rat? hv, standard_of_rat? hw]
  split_ifs with hden
  · rfl
  · have hq : q ≠ 0 := fun hq => hden (by rw [hq]; rfl)
    cases v with
    | int n =>
      cases hv
      exact absurd (Rat.den_intCast n) hden
    | float x =>
      cases w with
      | int n =>
        cases hw
        exact absurd (Rat.den_intCast n) hden
      | float y => rw [Binary64.eq_of_toRat? hv hw hq]
      | _ => cases hw
    | _ => cases hv

theorem Respells.standard_eq {v w : Value} (h : Respells v w) : v.standard = w.standard := by
  induction h with
  | same => rfl
  | number left right => exact standard_number left right
  | list length each ih =>
    rw [standard_list, standard_list]
    have each := List.forall₂_iff_zip.2 ⟨length, fun hpair => ih _ hpair⟩
    exact congrArg Value.list (Outcome.map_eq_map_iff.2 each)
  | @object fields others names each ih =>
    obtain ⟨length, keys⟩ := List.forall₂_iff_zip.1 (Outcome.map_eq_map_iff.1 names)
    have each : List.Forall₂ (fun field other : String × Value =>
        (field.1, field.2.standard) = (other.1, other.2.standard)) fields others :=
      List.forall₂_iff_zip.2 ⟨length, fun {field other} hpair =>
        Prod.ext (@keys field other hpair) (ih (field, other) hpair)⟩
    rw [standard_object, standard_object]
    exact congrArg Value.object (Outcome.map_eq_map_iff.2 each)

/-! ## What does not depend on the spelling -/

theorem truthy_of_toRat? {x : Binary64} {n : Int} (h : x.toRat? = some (n : Rat)) :
    (int n).truthy = (float x).truthy := by
  have hzero : x.isZero = decide (n = 0) := by
    rw [Bool.eq_iff_iff, decide_eq_true_iff]
    constructor
    · intro hx
      exact Rat.intCast_inj.1 (Option.some.inj (h.symm.trans (Binary64.toRat?_of_isZero hx)))
    · rintro rfl
      exact Binary64.isZero_of_toRat? h
  simp only [truthy, hzero, ne_eq, decide_not]

section

variable (v : Value)

@[simp] theorem rat?_standard : v.standard.rat? = v.rat? :=
  apply_standard (fun h => h.symm) (fun _ => rfl) (fun _ => rfl) v

@[simp] theorem isNull_standard : v.standard.isNull = v.isNull :=
  apply_standard (fun _ => rfl) (fun _ => rfl) (fun _ => rfl) v

@[simp] theorem isText_standard : v.standard.isText = v.isText :=
  apply_standard (fun _ => rfl) (fun _ => rfl) (fun _ => rfl) v

@[simp] theorem isBool_standard : v.standard.isBool = v.isBool :=
  apply_standard (fun _ => rfl) (fun _ => rfl) (fun _ => rfl) v

@[simp] theorem isObject_standard : v.standard.isObject = v.isObject :=
  apply_standard (fun _ => rfl) (fun _ => rfl) (fun _ => rfl) v

@[simp] theorem isNumber_standard : v.standard.isNumber = v.isNumber :=
  apply_standard (fun _ => rfl) (fun _ => rfl) (fun _ => rfl) v

@[simp] theorem isWhole_standard (n : Int) : v.standard.isWhole n = v.isWhole n := by
  rw [isWhole, isWhole, rat?_standard]

@[simp] theorem isBetween_standard (low high : Int) :
    v.standard.isBetween low high = v.isBetween low high := by
  rw [isBetween, isBetween, rat?_standard]

@[simp] theorem kind_standard : Kind.ofValue? v.standard = Kind.ofValue? v :=
  apply_standard (fun _ => rfl) (fun _ => rfl) (fun _ => rfl) v

@[simp] theorem items_standard : v.standard.items = v.items.map standard := by
  cases v with
  | float x => simp only [standard]; split <;> rfl
  | list items => rw [standard_list]; rfl
  | _ => rfl

@[simp] theorem truthy_standard : v.standard.truthy = v.truthy := by
  refine apply_standard truthy_of_toRat? (fun items => ?_) (fun fields => ?_) v
  · simp [truthy]
  · simp [truthy, Fields.standard]

end

end Value

namespace Fields

variable (fields : Fields) (key : String)

@[simp] theorem get?_standard : fields.standard.get? key = (fields.get? key).map (·.standard) := by
  induction fields with
  | nil => rfl
  | cons field rest ih =>
    obtain ⟨name, v⟩ := field
    show Fields.get? key ((name, v.standard) :: standard rest) = _
    rw [get?, get?]
    split_ifs
    · rfl
    · exact ih

@[simp] theorem get_standard : fields.standard.get key = (fields.get key).standard := by
  rw [get, get, get?_standard]
  cases fields.get? key <;> rfl

theorem given_standard (default : Value) :
    fields.standard.given key default.standard = (fields.given key default).standard := by
  by_cases hnull : fields.get key = .null
  · simp only [given, get_standard, hnull, Value.standard_null]
  · have hstandard : (fields.get key).standard ≠ .null := fun heq => by
      have hisNull := (fields.get key).isNull_standard
      rw [heq] at hisNull
      exact hnull (Value.isNull_iff.1 hisNull.symm)
    rw [given_eq_of_get (get_standard fields key) hstandard, given_eq_of_get rfl hnull]

@[simp] theorem given_text_standard (s : String) :
    fields.standard.given key (.text s) = (fields.given key (.text s)).standard :=
  given_standard fields key (.text s)

@[simp] theorem given_int_standard (n : Int) :
    fields.standard.given key (.int n) = (fields.given key (.int n)).standard :=
  given_standard fields key (.int n)

@[simp] theorem given_bool_standard (b : Bool) :
    fields.standard.given key (.bool b) = (fields.given key (.bool b)).standard :=
  given_standard fields key (.bool b)

theorem present_standard (default : Value) :
    fields.standard.present key default.standard = (fields.present key default).standard := by
  rw [present, present, get?_standard]
  cases fields.get? key <;> rfl

end Fields

namespace Value

variable (v : Value)

theorem orElse_standard (default : Value) :
    v.standard.orElse default.standard = (v.orElse default).standard := by
  rw [orElse, orElse, truthy_standard]
  split_ifs <;> rfl

@[simp] theorem orElse_text_standard (s : String) :
    v.standard.orElse (.text s) = (v.orElse (.text s)).standard :=
  orElse_standard v (.text s)

@[simp] theorem orElse_int_standard (n : Int) :
    v.standard.orElse (.int n) = (v.orElse (.int n)).standard :=
  orElse_standard v (.int n)

end Value

end EmailStudio
