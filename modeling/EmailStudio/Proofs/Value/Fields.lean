import EmailStudio.Value.Basic
import Mathlib.Data.List.Forall2
import Mathlib.Tactic.SplitIfs

/-!
# Fields of objects

How the operations on fields show when one looks a name up. `Value.Same` compares values as
documents are compared: the order of the fields of an object does not count.
-/

namespace EmailStudio

theorem Value.isNull_iff {v : Value} : v.isNull = true ↔ v = .null := by
  cases v <;> simp [isNull]

theorem Value.ne_null_of_isText {v : Value} (h : v.isText = true) : v ≠ .null := by
  intro hn
  rw [hn] at h
  cases h

/-- A text that does not count as given is empty. -/
theorem Value.orElse_of_isText {v : Value} (h : v.isText = true) : v.orElse (.text "") = v := by
  cases v with
  | text s =>
    unfold orElse
    split_ifs with hs
    · rfl
    · rw [show s = "" by simpa [truthy] using hs]
  | _ => cases h

namespace Fields

variable {fields : Fields} {key : String}

theorem get?_eq_none_iff : ∀ {fields : Fields}, fields.get? key = none ↔ key ∉ fields.map (·.1)
  | [] => by simp [get?]
  | (k, v) :: rest => by
    unfold get?
    split_ifs with hk
    · simp [hk]
    · rw [get?_eq_none_iff, List.map_cons, List.mem_cons, not_or]
      exact (and_iff_right (Ne.symm hk)).symm

theorem mem_map_of_has (h : fields.has key = true) : key ∈ fields.map (·.1) := by
  by_contra hn
  rw [has, get?_eq_none_iff.2 hn] at h
  cases h

theorem get?_eq_none_of_has (h : fields.has key = false) : fields.get? key = none := by
  rw [has] at h
  exact Option.isSome_eq_false_iff.1 h |> Option.isNone_iff_eq_none.1

theorem get_eq_null_of_has (h : fields.has key = false) : fields.get key = .null := by
  rw [get, get?_eq_none_of_has h, Option.getD_none]

theorem get?_set (key : String) (v : Value) (name : String) : ∀ fields : Fields,
    (fields.set key v).get? name = if key = name then some v else fields.get? name
  | [] => rfl
  | (k, w) :: rest => by
    have ih := get?_set key v name rest
    by_cases hk : k = key
    · rw [set, if_pos hk, get?, get?, hk]
      split_ifs <;> rfl
    · rw [set, if_neg hk, get?, get?, ih]
      split_ifs with hname hkey
      · exact absurd (hname.trans hkey.symm) hk
      · rfl
      · rfl
      · rfl

theorem get_set_self (v : Value) : (fields.set key v).get key = v := by
  rw [get, get?_set, if_pos rfl, Option.getD_some]

theorem get_set_of_ne {name : String} (h : key ≠ name) (v : Value) :
    (fields.set key v).get name = fields.get name := by
  rw [get, get?_set, if_neg h, get]

/-- An absent field is as good as null. -/
theorem get_set_null (h : fields.get key = .null) (name : String) :
    (fields.set key .null).get name = fields.get name := by
  by_cases hname : key = name
  · rw [← hname, get_set_self, h]
  · exact get_set_of_ne hname .null

/-- A field that is given its own value. -/
theorem set_of_get? {v : Value} : ∀ {fields : Fields}, fields.get? key = some v →
    fields.set key v = fields
  | (k, w) :: rest, h => by
    unfold get? at h
    unfold set
    split_ifs at h ⊢ with hk
    · rw [Option.some.inj h]
    · rw [set_of_get? h]

theorem set_eq_append (h : key ∉ fields.map (·.1)) (v : Value) :
    fields.set key v = fields ++ [(key, v)] := by
  induction fields with
  | nil => rfl
  | cons field rest ih =>
    obtain ⟨hk, h⟩ := not_or.1 (mt List.mem_cons.2 h)
    rw [set, if_neg (Ne.symm hk), ih h, List.cons_append]

/-! ## Leaving names out -/

section Without

variable {keys : List String}

/-- The fields of all other names. -/
def without (fields : Fields) (keys : List String) : Fields :=
  fields.filter fun field => field.1 ∉ keys

theorem get?_without (key : String) (keys : List String) (fields : Fields) :
    (fields.without keys).get? key = if key ∈ keys then none else fields.get? key := by
  induction fields with
  | nil => rw [without, List.filter_nil, get?, ite_self]
  | cons field rest ih =>
    obtain ⟨name, v⟩ := field
    rw [without] at ih
    by_cases hname : name ∈ keys
    · rw [without, List.filter_cons_of_neg (by simpa using hname), ih, get?]
      split_ifs with hkey heq
      · rfl
      · exact absurd (heq ▸ hname) hkey
      · rfl
    · rw [without, List.filter_cons_of_pos (by simpa using hname), get?, ih, get?]
      split_ifs with heq hkey
      · exact absurd (heq ▸ hkey) hname
      all_goals rfl

@[simp] theorem without_nil (fields : Fields) : fields.without [] = fields := by
  simp [without]

theorem without_without (fields : Fields) (keys more : List String) :
    (fields.without keys).without more = fields.without (keys ++ more) := by
  rw [without, without, without, List.filter_filter]
  apply List.filter_congr
  simp [Bool.and_comm]

theorem without_append_comm (fields : Fields) (keys more : List String) :
    fields.without (keys ++ more) = fields.without (more ++ keys) := by
  apply List.filter_congr
  simp [and_comm]

theorem without_eq_self_iff :
    fields.without keys = fields ↔ ∀ key ∈ keys, key ∉ fields.map (·.1) := by
  rw [without, List.filter_eq_self]
  constructor
  · intro h key hkey hmem
    obtain ⟨field, hfield, rfl⟩ := List.mem_map.1 hmem
    exact of_decide_eq_true (h field hfield) hkey
  · intro h field hfield
    apply decide_eq_true
    intro hkey
    exact h field.1 hkey (List.mem_map_of_mem hfield)

theorem without_set (h : key ∈ keys) (v : Value) (fields : Fields) :
    (fields.set key v).without keys = fields.without keys := by
  induction fields with
  | nil => simp [set, without, h]
  | cons field rest ih =>
    obtain ⟨name, w⟩ := field
    rw [set]
    split_ifs with hname
    · simp [without, hname, h]
    · rw [without, List.filter_cons, ← without, ih, without, without, List.filter_cons]

theorem update_cons (k : String) (v : Value) (fields changes : Fields) :
    fields.update ((k, v) :: changes) = (fields.set k v).update changes :=
  rfl

theorem without_update {changes : Fields} (h : ∀ key ∈ changes.map (·.1), key ∈ keys)
    (fields : Fields) : (fields.update changes).without keys = fields.without keys := by
  induction changes generalizing fields with
  | nil => rfl
  | cons change rest ih =>
    obtain ⟨hkey, hrest⟩ := List.forall_mem_cons.1 h
    rw [update_cons, ih hrest, without_set hkey]

end Without

theorem erase_eq_without (key : String) (fields : Fields) :
    fields.erase key = fields.without [key] := by
  simp [erase, without]

theorem erase_eq_self (h : key ∉ fields.map (·.1)) : fields.erase key = fields := by
  rw [erase_eq_without, without_eq_self_iff]
  intro name hname
  rwa [List.mem_singleton.1 hname]

theorem erase_set (h : key ∉ fields.map (·.1)) (v : Value) :
    (fields.set key v).erase key = fields := by
  rw [erase_eq_without, without_set List.mem_cons_self, ← erase_eq_without, erase_eq_self h]

theorem get?_erase (name : String) (fields : Fields) :
    (fields.erase key).get? name = if key = name then none else fields.get? name := by
  rw [erase_eq_without, get?_without]
  simp only [List.mem_singleton, eq_comm]

theorem get_erase_of_ne {name : String} (h : key ≠ name) :
    (fields.erase key).get name = fields.get name := by
  rw [get, get?_erase, if_neg h, get]

theorem get_erase_of_null (h : fields.get key = .null) (name : String) :
    (fields.erase key).get name = fields.get name := by
  by_cases hname : key = name
  · rw [← hname, get, get?_erase, if_pos rfl, h]
    rfl
  · exact get_erase_of_ne hname

/-! ## Different names -/

/-- What is set last under a name counts. -/
theorem get?_update {changes : Fields} (nodup : (changes.map (·.1)).Nodup) :
    (fields.update changes).get? key = (changes.get? key).or (fields.get? key) := by
  induction changes generalizing fields with
  | nil => rfl
  | cons change rest ih =>
    obtain ⟨name, v⟩ := change
    obtain ⟨hname, nodup⟩ := List.nodup_cons.1 nodup
    rw [update_cons, ih nodup, get?_set, get?]
    split_ifs with hkey
    · rw [get?_eq_none_iff.2 (hkey ▸ hname)]
      rfl
    · rfl

theorem nodup_set (nodup : (fields.map (·.1)).Nodup) (v : Value) :
    ((fields.set key v).map (·.1)).Nodup := by
  induction fields with
  | nil => exact List.pairwise_singleton _ key
  | cons field rest ih =>
    obtain ⟨name, w⟩ := field
    obtain ⟨hname, hrest⟩ := List.nodup_cons.1 nodup
    rw [set]
    split_ifs with hkey
    · exact nodup
    · refine List.nodup_cons.2 ⟨get?_eq_none_iff.1 ?_, ih hrest⟩
      rw [get?_set, if_neg (Ne.symm hkey), get?_eq_none_iff.2 hname]

theorem nodup_update {changes : Fields} (nodup : (fields.map (·.1)).Nodup) :
    ((fields.update changes).map (·.1)).Nodup := by
  induction changes generalizing fields with
  | nil => exact nodup
  | cons change rest ih => exact ih (nodup_set nodup change.2)

/-- Of fields with different names, a filter keeps the value of a name or drops it. -/
theorem get?_filter (nodup : (fields.map (·.1)).Nodup) (p : String × Value → Bool) :
    Fields.get? key (fields.filter p) = (fields.get? key).filter fun v => p (key, v) := by
  induction fields with
  | nil => rfl
  | cons field rest ih =>
    obtain ⟨name, v⟩ := field
    obtain ⟨hname, nodup⟩ := List.nodup_cons.1 nodup
    have ih := ih nodup
    rw [List.filter_cons, get?]
    by_cases hkey : name = key
    · subst hkey
      rw [get?_eq_none_iff.2 hname] at ih
      rw [if_pos rfl, Option.filter_some]
      split_ifs
      · rw [get?, if_pos rfl]
      · exact ih
    · rw [if_neg hkey, ← ih]
      split_ifs
      · rw [get?, if_neg hkey]
      · rfl

/-- Of fields with different names, each is found by its name. -/
theorem get?_of_mem {v : Value} (nodup : (fields.map (·.1)).Nodup) (h : (key, v) ∈ fields) :
    fields.get? key = some v := by
  induction fields with
  | nil => cases h
  | cons field rest ih =>
    obtain ⟨name, w⟩ := field
    obtain ⟨hname, nodup⟩ := List.nodup_cons.1 nodup
    rw [get?]
    rcases List.mem_cons.1 h with heq | h
    · cases heq
      rw [if_pos rfl]
    · have hkey : key ∈ rest.map (·.1) := List.mem_map.2 ⟨_, h, rfl⟩
      have hne : name ≠ key := fun heq => hname (heq ▸ hkey)
      rw [if_neg hne, ih nodup h]

theorem get_map_of_mem {α : Type} {entries : List (String × α)} {name : String} {x : α}
    (nodup : (entries.map (·.1)).Nodup) (h : (name, x) ∈ entries) (f : α → Value) :
    Fields.get (entries.map fun entry => (entry.1, f entry.2)) name = f x := by
  have hnames : (entries.map fun entry => (entry.1, f entry.2)).map (·.1) = entries.map (·.1) :=
    List.map_map
  rw [get, get?_of_mem (hnames ▸ nodup) (List.mem_map.2 ⟨_, h, rfl⟩), Option.getD_some]

/-! ## Changes under one name -/

variable {others changes : Fields} {name : String}

/-- A change that is made last. -/
theorem update_set (h : key ∉ changes.map (·.1)) (v : Value) (fields : Fields) :
    fields.update (changes.set key v) = (fields.update changes).set key v := by
  rw [set_eq_append h, update, List.foldl_append]
  rfl

theorem get?_update_of_notMem (h : key ∉ changes.map (·.1)) (fields : Fields) :
    (fields.update changes).get? key = fields.get? key := by
  induction changes generalizing fields with
  | nil => rfl
  | cons change rest ih =>
    obtain ⟨hk, h⟩ := not_or.1 (mt List.mem_cons.2 h)
    rw [update_cons, ih h, get?_set, if_neg (Ne.symm hk)]

/-! ## Fields that agree -/

/-- Fields that differ in one name at most. -/
def AgreeBut (key : String) (fields others : Fields) : Prop :=
  ∀ name, name ≠ key → Fields.get? name others = Fields.get? name fields

namespace AgreeBut

theorem symm (h : AgreeBut key fields others) : AgreeBut key others fields :=
  fun name hname => (h name hname).symm

theorem set (key : String) (v : Value) (fields : Fields) :
    AgreeBut key fields (fields.set key v) := by
  intro name hname
  rw [get?_set, if_neg (Ne.symm hname)]

theorem set_both (h : AgreeBut key fields others) (name : String) (v : Value) :
    AgreeBut key (fields.set name v) (others.set name v) := by
  intro other hother
  rw [get?_set, get?_set, h other hother]

theorem update_both (h : AgreeBut key fields others) (changes : Fields) :
    AgreeBut key (fields.update changes) (others.update changes) := by
  induction changes generalizing fields others with
  | nil => exact h
  | cons change rest ih => exact ih (h.set_both change.1 change.2)

theorem update {changes more : Fields} (h : AgreeBut key changes more)
    (nodup : (changes.map (·.1)).Nodup) (nodup' : (more.map (·.1)).Nodup) (fields : Fields) :
    AgreeBut key (fields.update changes) (fields.update more) := by
  intro name hname
  rw [get?_update nodup, get?_update nodup', h name hname]

end AgreeBut

end Fields

namespace Value

/-- Values that are equal but for the order of the fields of their objects. -/
inductive Same : Value → Value → Prop
  | refl (v : Value) : Same v v
  | list {xs ys : List Value} (items : List.Forall₂ Same xs ys) : Same (.list xs) (.list ys)
  | object {fields others reordered : Fields} (order : fields.Perm reordered)
      (names : reordered.map (·.1) = others.map (·.1))
      (values : List.Forall₂ Same (reordered.map (·.2)) (others.map (·.2))) :
      Same (.object fields) (.object others)

end Value

end EmailStudio
