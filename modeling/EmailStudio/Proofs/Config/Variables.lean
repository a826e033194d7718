import EmailStudio.Proofs.Config.Settings
import EmailStudio.Proofs.Value.Fields

/-!
# Settings from variables

Variables are taken up field after field. By `fieldsOfVariables_cases`, in the end each field holds
what its variable gives it, or the variable of some field cannot be read. With one more variable
only the field of that variable changes.
-/

namespace EmailStudio.Settings

variable {bindings : List (String × String)} {key name text : String}

/-- What variables give a field. A list that is written as null is not given. -/
def givenBy (bindings : List (String × String)) (key : String) :
    Except SettingsFault (Option Value) :=
  match lastVariable? key bindings with
  | none => .ok none
  | some text => (variableValue key text).map fun v => if v.isNull then none else some v

theorem givenBy_of_none (h : lastVariable? key bindings = none) :
    givenBy bindings key = .ok none := by
  rw [givenBy, h]

/-! ## Field after field -/

/-- Fields with what is given under each of some names. -/
structure Holds (given : String → Except SettingsFault (Option Value)) (names : List String)
    (fields : Fields) : Prop where
  sublist : (fields.map (·.1)).Sublist names
  get? : ∀ key ∈ names, given key = .ok (Fields.get? key fields)

section TakingUp

variable {given : String → Except SettingsFault (Option Value)} {names : List String}
  {fields : Fields}

theorem Holds.get?_of_notMem (h : Holds given names fields) (hkey : key ∉ names) :
    Fields.get? key fields = none :=
  Fields.get?_eq_none_iff.2 fun hmem => hkey (h.sublist.subset hmem)

theorem Holds.nodup (h : Holds given names fields) (nodup : names.Nodup) :
    (fields.map (·.1)).Nodup :=
  nodup.sublist h.sublist

theorem Holds.cons (h : Holds given names fields) (hkey : key ∉ names) {v? : Option Value}
    (hgiven : given key = .ok v?) :
    Holds given (key :: names) ((v?.map (Prod.mk key)).toList ++ fields) := by
  cases v? with
  | none =>
    refine ⟨h.sublist.cons key, List.forall_mem_cons.2 ⟨?_, h.get?⟩⟩
    rw [hgiven, Option.map_none, Option.toList_none, List.nil_append, h.get?_of_notMem hkey]
  | some v =>
    refine ⟨h.sublist.cons_cons key, List.forall_mem_cons.2 ⟨?_, fun other hother => ?_⟩⟩
    · rw [hgiven, Option.map_some, Option.toList_some, List.singleton_append, Fields.get?,
        if_pos rfl]
    · have hne : key ≠ other := fun heq => hkey (heq ▸ hother)
      rw [h.get? other hother, Option.map_some, Option.toList_some, List.singleton_append,
        Fields.get?, if_neg hne]

/-- Takes up what is given under a name. -/
def takeUp (given : String → Except SettingsFault (Option Value)) (acc : Fields) (key : String) :
    Except SettingsFault Fields :=
  (given key).map fun v? => acc ++ (v?.map (Prod.mk key)).toList

/-- Taking up field after field ends with all of them, or at one that cannot be read. -/
theorem foldlM_takeUp_cases (nodup : names.Nodup) (acc : Fields) :
    (∃ fields, names.foldlM (takeUp given) acc = .ok (acc ++ fields) ∧ Holds given names fields) ∨
      ∃ fault, names.foldlM (takeUp given) acc = .error fault ∧
        ∃ key ∈ names, given key = .error fault := by
  induction names generalizing acc with
  | nil => exact .inl ⟨[], by rw [List.append_nil]; rfl, List.Sublist.slnil, nofun⟩
  | cons key rest ih =>
    obtain ⟨hkey, hrest⟩ := List.nodup_cons.1 nodup
    rw [List.foldlM_cons, takeUp]
    cases hgiven : given key with
    | error fault => exact .inr ⟨fault, rfl, key, List.mem_cons_self, hgiven⟩
    | ok v? =>
      obtain ⟨fields, hfields, holds⟩ | ⟨fault, hfault, other, hother, hgiven'⟩ :=
        ih hrest (acc ++ (v?.map (Prod.mk key)).toList)
      · exact .inl ⟨_, by rw [← List.append_assoc]; exact hfields, holds.cons hkey hgiven⟩
      · exact .inr ⟨fault, hfault, other, List.mem_cons_of_mem key hother, hgiven'⟩

end TakingUp

/-! ## The fields of variables -/

theorem fieldsOfVariables_eq (bindings : List (String × String)) :
    fieldsOfVariables bindings = keys.foldlM (takeUp (givenBy bindings)) [] := by
  unfold fieldsOfVariables
  congr 1
  funext acc key
  unfold takeUp givenBy
  cases lastVariable? key bindings with
  | none => simp [Except.map]
  | some text =>
    cases hvalue : variableValue key text with
    | error fault => simp [hvalue, Except.map, bind, Except.bind]
    | ok v =>
      cases v <;>
        simp [hvalue, Except.map, bind, Except.bind, pure, Except.pure, Value.isNull]

theorem nodup_keys : keys.Nodup := by decide +kernel

theorem fieldsOfVariables_cases (bindings : List (String × String)) :
    (∃ fields, fieldsOfVariables bindings = .ok fields ∧ Holds (givenBy bindings) keys fields) ∨
      ∃ fault, fieldsOfVariables bindings = .error fault ∧
        ∃ key ∈ keys, givenBy bindings key = .error fault := by
  rw [fieldsOfVariables_eq]
  exact foldlM_takeUp_cases nodup_keys []

theorem holds_of_fieldsOfVariables {fields : Fields} (h : fieldsOfVariables bindings = .ok fields) :
    Holds (givenBy bindings) keys fields := by
  obtain ⟨read, hread, holds⟩ | ⟨fault, hfault, -⟩ := fieldsOfVariables_cases bindings
  · cases hread.symm.trans h
    exact holds
  · cases hfault.symm.trans h

/-! ## Variables that differ in one field -/

section Differing

variable {others : List (String × String)} {fields : Fields}

/-- If the fields of some variables are read, and other variables give the same but to one field,
then their fields are read if this one is. -/
theorem fieldsOfVariables_of_same (h : fieldsOfVariables bindings = .ok fields)
    (hsame : ∀ other, other ≠ key → givenBy others other = givenBy bindings other)
    {v? : Option Value} (hgiven : givenBy others key = .ok v?) :
    ∃ more, fieldsOfVariables others = .ok more ∧ Fields.AgreeBut key fields more := by
  have holds := holds_of_fieldsOfVariables h
  obtain ⟨more, hmore, holds'⟩ | ⟨fault, -, other, hother, hfault⟩ := fieldsOfVariables_cases others
  · refine ⟨more, hmore, fun other hne => ?_⟩
    by_cases hother : other ∈ keys
    · have hread := (holds'.get? other hother).symm.trans ((hsame other hne).trans
        (holds.get? other hother))
      exact Except.ok.inj hread
    · rw [holds.get?_of_notMem hother, holds'.get?_of_notMem hother]
  · by_cases hne : other = key
    · rw [hne, hgiven] at hfault
      cases hfault
    · rw [hsame other hne, holds.get? other hother] at hfault
      cases hfault

theorem fieldsOfVariables_of_same_of_error (hkey : key ∈ keys)
    (h : fieldsOfVariables bindings = .ok fields)
    (hsame : ∀ other, other ≠ key → givenBy others other = givenBy bindings other)
    {fault : SettingsFault} (hgiven : givenBy others key = .error fault) :
    fieldsOfVariables others = .error fault := by
  have holds := holds_of_fieldsOfVariables h
  obtain ⟨more, -, holds'⟩ | ⟨found, herror, other, hother, hfound⟩ :=
    fieldsOfVariables_cases others
  · cases (holds'.get? key hkey).symm.trans hgiven
  · by_cases hne : other = key
    · rw [hne, hgiven] at hfound
      cases hfound
      exact herror
    · rw [hsame other hne, holds.get? other hother] at hfound
      cases hfound

end Differing

/-! ## One more variable -/

theorem lastVariable?_append (key name text : String) (bindings : List (String × String)) :
    lastVariable? key (bindings ++ [(name, text)]) =
      if Text.lower name = variableOf key then some text else lastVariable? key bindings := by
  unfold lastVariable?
  rw [List.reverse_append, List.reverse_singleton, List.singleton_append, List.find?_cons]
  by_cases hname : Text.lower name = variableOf key
  · simp only [hname, decide_true, if_pos, Option.map_some]
  · simp only [hname, decide_false, if_neg, not_false_eq_true]

theorem variableOf_injective : Function.Injective variableOf :=
  fun _ _ h => (String.append_right_inj _).1 h

theorem givenBy_append_of_ne (hname : Text.lower name = variableOf key) {other : String}
    (hother : other ≠ key) :
    givenBy (bindings ++ [(name, text)]) other = givenBy bindings other := by
  have hne : ¬Text.lower name = variableOf other := fun h =>
    hother (variableOf_injective (h.symm.trans hname))
  rw [givenBy, lastVariable?_append, if_neg hne, givenBy]

theorem givenBy_append_self (hname : Text.lower name = variableOf key)
    (bindings : List (String × String)) (text : String) :
    givenBy (bindings ++ [(name, text)]) key =
      (variableValue key text).map fun v => if v.isNull then none else some v := by
  rw [givenBy, lastVariable?_append, if_pos hname]

end EmailStudio.Settings
