import EmailStudio.Log.Entry
import EmailStudio.Proofs.Value.Fields
import Mathlib.Tactic.SplitIfs

/-!
# Scopes of the log

A scope binds its pairs over what is bound, and takes their keys back without giving back what they
were bound to before. So what is bound at a moment, apart from the keys of the open scopes, is what
was bound at the start, apart from every key that any scope has bound since
(`Context.bound_run`). By `Context.scopes_outcome` scopes are therefore balanced exactly if no scope
binds a key of the context that they begin in, or of a scope around it.
-/

namespace EmailStudio

namespace Log

/-- The pairs that a scope binds. No key is given twice. -/
structure Scope where
  pairs : Fields
  nodup : (pairs.map (·.1)).Nodup

def Scope.keys (scope : Scope) : List String :=
  scope.pairs.map (·.1)

/-- A scope is entered, or the innermost one is left. -/
inductive Step where
  | enter (scope : Scope)
  | leave

def Step.keys : Step → List String
  | enter scope => scope.keys
  | leave => []

/-- Every key that a scope binds in some steps. -/
def boundKeys (steps : List Step) : List String :=
  steps.flatMap Step.keys

namespace Context

def step (context : Context) : Step → Context
  | .enter scope => context.enter scope.pairs
  | .leave => context.leave

def run (context : Context) (steps : List Step) : Context :=
  steps.foldl step context

end Context

/-! ## Nesting -/

/-- Steps that are properly nested as far as they go, with the scopes that are open after them, the
innermost first. They grow at their end, as a program goes on. -/
inductive Opened : List Step → List Scope → Prop
  | start : Opened [] []
  | enter {steps : List Step} {scopes : List Scope} (h : Opened steps scopes) (scope : Scope) :
    Opened (steps ++ [.enter scope]) (scope :: scopes)
  | leave {steps : List Step} {scope : Scope} {scopes : List Scope}
    (h : Opened steps (scope :: scopes)) : Opened (steps ++ [.leave]) scopes

/-- Each scope that is entered is left again, and the one that was entered last is left first. -/
def IsNested (steps : List Step) : Prop :=
  Opened steps []

namespace Opened

variable {steps past inside : List Step} {scopes inner outer : List Scope} {scope : Scope}

theorem append (h : Opened past outer) (hinside : Opened inside inner) :
    Opened (past ++ inside) (inner ++ outer) := by
  induction hinside with
  | start => rwa [List.append_nil]
  | enter _ scope ih =>
    rw [← List.append_assoc]
    exact ih.enter scope
  | leave _ ih =>
    rw [← List.append_assoc]
    exact ih.leave

theorem of_prefix (h : Opened steps scopes) (hpast : past <+: steps) :
    ∃ scopes, Opened past scopes := by
  induction h with
  | start => exact ⟨[], List.prefix_nil.1 hpast ▸ start⟩
  | enter h scope ih =>
    rcases List.prefix_concat_iff.1 hpast with rfl | hpast
    · exact ⟨_, h.enter scope⟩
    · exact ih hpast
  | leave h ih =>
    rcases List.prefix_concat_iff.1 hpast with rfl | hpast
    · exact ⟨_, h.leave⟩
    · exact ih hpast

/-- An open scope was entered when those around it were open, and those inside it since. -/
theorem split (h : Opened steps (inner ++ scope :: outer)) : ∃ past inside,
    steps = past ++ .enter scope :: inside ∧ Opened past outer ∧ Opened inside inner := by
  generalize hscopes : inner ++ scope :: outer = scopes at h
  induction h generalizing inner with
  | start => simp at hscopes
  | @enter steps scopes h last ih =>
    cases inner with
    | nil =>
      cases hscopes
      exact ⟨steps, [], rfl, h, start⟩
    | cons first inner =>
      cases hscopes
      obtain ⟨past, inside, rfl, hpast, hinside⟩ := ih rfl
      exact ⟨past, inside ++ [.enter last], by simp, hpast, hinside.enter last⟩
  | @leave steps last scopes h ih =>
    have hopen : (last :: inner) ++ scope :: outer = last :: scopes := by
      rw [List.cons_append, hscopes]
    obtain ⟨past, inside, rfl, hpast, hinside⟩ := ih hopen
    exact ⟨past, inside ++ [.leave], by simp, hpast, hinside.leave⟩

/-- A scope that was entered is open still, or was left. -/
theorem open_or_left (h : Opened steps scopes) (hentered : past ++ [.enter scope] <+: steps) :
    (∃ inside inner outer, steps = past ++ .enter scope :: inside ∧ Opened inside inner ∧
      scopes = inner ++ scope :: outer) ∨
    ∃ body, IsNested body ∧ past ++ .enter scope :: (body ++ [.leave]) <+: steps := by
  induction h with
  | start => simp at hentered
  | @enter steps scopes h last ih =>
    rcases List.prefix_concat_iff.1 hentered with heq | hentered
    · obtain ⟨rfl, heq⟩ := List.append_inj' heq rfl
      obtain rfl : scope = last := by simpa using heq
      exact .inl ⟨[], [], scopes, rfl, start, rfl⟩
    · rcases ih hentered with ⟨inside, inner, outer, rfl, hinside, rfl⟩ | ⟨body, hbody, hleft⟩
      · exact .inl ⟨inside ++ [.enter last], last :: inner, outer, by simp, hinside.enter last, rfl⟩
      · exact .inr ⟨body, hbody, hleft.trans (List.prefix_append _ _)⟩
  | @leave steps last scopes h ih =>
    rcases List.prefix_concat_iff.1 hentered with heq | hentered
    · cases (List.append_inj' heq rfl).2
    · rcases ih hentered with ⟨inside, inner, outer, rfl, hinside, heq⟩ | ⟨body, hbody, hleft⟩
      · cases inner with
        | nil =>
          cases heq
          exact .inr ⟨inside, hinside, by simp⟩
        | cons first inner =>
          cases heq
          exact .inl ⟨inside ++ [.leave], inner, outer, by simp, hinside.leave, rfl⟩
      · exact .inr ⟨body, hbody, hleft.trans (List.prefix_append _ _)⟩

end Opened

namespace IsNested

variable {steps past body : List Step} {scope : Scope}

theorem exists_left (h : IsNested steps) (hentered : past ++ [.enter scope] <+: steps) :
    ∃ body, IsNested body ∧ past ++ .enter scope :: (body ++ [.leave]) <+: steps := by
  rcases Opened.open_or_left h hentered with ⟨_, inner, _, _, _, hscopes⟩ | hleft
  · simp at hscopes
  · exact hleft

theorem enclose (h : IsNested body) (scope : Scope) :
    IsNested (.enter scope :: (body ++ [.leave])) := by
  have hopen : Opened ([.enter scope] ++ body) [scope] := (Opened.start.enter scope).append h
  exact hopen.leave

end IsNested

/-! ## Keys -/

/-- Of the elements of a list that have a property, there is a first one. -/
theorem exists_first {α : Type} {p : α → Prop} [DecidablePred p] {xs : List α}
    (h : ∃ x ∈ xs, p x) : ∃ before x after, xs = before ++ x :: after ∧ p x ∧
      ∀ y ∈ before, ¬p y := by
  obtain ⟨x, hx, hpx⟩ := h
  have hfound : (xs.find? fun x => p x).isSome = true :=
    List.find?_isSome.2 ⟨x, hx, decide_eq_true hpx⟩
  obtain ⟨first, hfirst⟩ := Option.isSome_iff_exists.1 hfound
  obtain ⟨hp, before, after, heq, hbefore⟩ := List.find?_eq_some_iff_append.1 hfirst
  exact ⟨before, first, after, heq, of_decide_eq_true hp, by simpa using hbefore⟩

theorem boundKeys_append (steps more : List Step) :
    boundKeys (steps ++ more) = boundKeys steps ++ boundKeys more :=
  List.flatMap_append

theorem boundKeys_singleton (step : Step) : boundKeys [step] = step.keys :=
  List.flatMap_singleton _ _

/-- A key that is bound at all is bound by a first scope. -/
theorem exists_first_of_mem_boundKeys {steps : List Step} {key : String}
    (h : key ∈ boundKeys steps) : ∃ past scope, past ++ [.enter scope] <+: steps ∧
      key ∉ boundKeys past ∧ key ∈ scope.keys := by
  obtain ⟨past, step, rest, rfl, hkey, hpast⟩ := exists_first (List.mem_flatMap.1 h)
  cases step with
  | enter scope =>
    refine ⟨past, scope, by simp, ?_, hkey⟩
    rw [boundKeys, List.mem_flatMap]
    rintro ⟨step, hstep, hkey⟩
    exact hpast step hstep hkey
  | leave => cases hkey

theorem Opened.mem_boundKeys {steps : List Step} {scopes : List Scope} (h : Opened steps scopes)
    {key : String} (hkey : key ∈ scopes.flatMap Scope.keys) : key ∈ boundKeys steps := by
  induction h with
  | start => exact hkey
  | enter _ scope ih =>
    rw [List.flatMap_cons, List.mem_append] at hkey
    rw [boundKeys_append, boundKeys_singleton, List.mem_append]
    exact hkey.symm.imp_left ih
  | leave _ ih =>
    rw [boundKeys_append, List.mem_append]
    rw [List.flatMap_cons] at ih
    exact .inl (ih (List.mem_append_right _ hkey))

/-! ## What is bound -/

namespace Context

variable {context : Context} {steps past inside body : List Step} {scope : Scope}
  {scopes inner : List Scope} {keys : List String} {key : String}

theorem run_append (context : Context) (steps more : List Step) :
    context.run (steps ++ more) = (context.run steps).run more :=
  List.foldl_append

theorem run_enter (context : Context) (scope : Scope) (inside : List Step) :
    context.run (.enter scope :: inside) = (context.enter scope.pairs).run inside := rfl

theorem run_concat_enter (context : Context) (steps : List Step) (scope : Scope) :
    context.run (steps ++ [.enter scope]) = (context.run steps).enter scope.pairs :=
  run_append context steps [.enter scope]

theorem run_concat_leave (context : Context) (steps : List Step) :
    context.run (steps ++ [.leave]) = (context.run steps).leave :=
  run_append context steps [.leave]

theorem bound_unbind (context : Context) (keys : List String) :
    (context.unbind keys).bound = context.bound.without keys := by
  simp [unbind, Fields.without]

theorem unbind_eq_self_iff :
    context.unbind keys = context ↔ ∀ key ∈ keys, key ∉ context.bound.map (·.1) := by
  rw [← Fields.without_eq_self_iff, ← bound_unbind]
  constructor
  · intro h
    rw [h]
  · intro h
    show { context with bound := (context.unbind keys).bound } = context
    rw [h]

theorem leave_of_scopes {rest : List (List String)} (h : context.scopes = keys :: rest) :
    context.leave = { context.unbind keys with scopes := rest } := by
  rw [leave, h]

/-- The scopes that a context begins with stay below those that are opened later. -/
theorem scopes_run (h : Opened steps scopes) (context : Context) :
    (context.run steps).scopes = scopes.map Scope.keys ++ context.scopes := by
  induction h with
  | start => rfl
  | enter _ scope ih =>
    rw [run_concat_enter, enter, List.map_cons, List.cons_append, ← ih]
    rfl
  | leave _ ih =>
    rw [run_concat_leave, leave_of_scopes ih]
    rfl

/-- Entering a scope changes nothing under other keys. -/
theorem without_enter (context : Context) (scope : Scope) (keys : List String) :
    (context.enter scope.pairs).bound.without (scope.keys ++ keys) =
      context.bound.without (scope.keys ++ keys) :=
  Fields.without_update (fun _ hkey => List.mem_append_left keys hkey) context.bound

/-- Leaving a scope takes its keys away. -/
theorem without_leave {rest : List (List String)} (h : context.scopes = scope.keys :: rest)
    (keys : List String) :
    context.leave.bound.without keys = context.bound.without (scope.keys ++ keys) := by
  rw [leave_of_scopes h, ← Fields.without_without]
  exact congrArg (Fields.without · keys) (bound_unbind context scope.keys)

/-- What is bound, apart from the keys of the open scopes, is what was bound at the start, apart
from all keys that were bound since. -/
theorem bound_run (h : Opened steps scopes) (context : Context) :
    (context.run steps).bound.without (scopes.flatMap Scope.keys) =
      context.bound.without (boundKeys steps) := by
  induction h with
  | start => rfl
  | @enter steps scopes _ scope ih =>
    -- The keys of the new scope count on both sides, so its pairs may be left out.
    calc (context.run (steps ++ [.enter scope])).bound.without
          ((scope :: scopes).flatMap Scope.keys)
      _ = (context.run steps).bound.without (scope.keys ++ scopes.flatMap Scope.keys) := by
        rw [run_concat_enter, List.flatMap_cons, without_enter]
      _ = ((context.run steps).bound.without (scopes.flatMap Scope.keys)).without scope.keys := by
        rw [Fields.without_without, Fields.without_append_comm]
      _ = context.bound.without (boundKeys (steps ++ [.enter scope])) := by
        rw [ih, Fields.without_without, boundKeys_append, boundKeys_singleton]
        rfl
  | @leave steps scope scopes h ih =>
    rw [run_concat_leave, without_leave (scopes_run h context), ← List.flatMap_cons, ih,
      boundKeys_append, boundKeys_singleton]
    exact congrArg context.bound.without (List.append_nil _).symm

/-- A key that no open scope binds is gone if a scope has bound it, and else as at the start. -/
theorem get?_run (h : Opened steps scopes) (hkey : key ∉ scopes.flatMap Scope.keys)
    (context : Context) : (context.run steps).bound.get? key =
      if key ∈ boundKeys steps then none else context.bound.get? key := by
  rw [← Fields.get?_without, ← bound_run h, Fields.get?_without, if_neg hkey]

/-- A pair of an open scope that no scope inside it overrides is gone if a scope that was left
inside it has bound its key, and else bound. -/
theorem get?_run_enter (h : Opened inside inner) {v : Value} (hpair : (key, v) ∈ scope.pairs)
    (hkey : key ∉ inner.flatMap Scope.keys) (context : Context) (past : List Step) :
    (context.run (past ++ .enter scope :: inside)).bound.get? key =
      if key ∈ boundKeys inside then none else some v := by
  have hbound : ((context.run past).enter scope.pairs).bound.get? key = some v := by
    show ((context.run past).bound.update scope.pairs).get? key = some v
    rw [Fields.get?_update scope.nodup, Fields.get?_of_mem scope.nodup hpair, Option.some_or]
  rw [run_append, run_enter, get?_run h hkey, hbound]

/-- Nested scopes take away every key that they bind and leave all else. -/
theorem run_of_isNested (h : IsNested steps) (context : Context) :
    context.run steps = context.unbind (boundKeys steps) := by
  have hbound := bound_run h context
  rw [List.flatMap_nil, Fields.without_nil, ← bound_unbind] at hbound
  have hscopes := scopes_run h context
  calc context.run steps = ⟨(context.run steps).bound, (context.run steps).scopes⟩ := rfl
    _ = context.unbind (boundKeys steps) := by
      rw [hbound, hscopes]
      rfl

theorem run_scope (h : IsNested body) (context : Context) (past : List Step) (scope : Scope) :
    context.run (past ++ .enter scope :: (body ++ [.leave])) =
      (context.run past).unbind (scope.keys ++ boundKeys body) := by
  have hkeys : boundKeys (.enter scope :: (body ++ [.leave])) = scope.keys ++ boundKeys body := by
    rw [boundKeys, List.flatMap_cons, ← boundKeys, boundKeys_append, boundKeys_singleton]
    exact congrArg (scope.keys ++ ·) (List.append_nil _)
  rw [run_append, run_of_isNested (h.enclose scope), hkeys]

end Context

/-! ## Balance -/

/-- The pairs of each open scope are bound at every moment, unless a scope that was opened inside it
and is still open binds the key, and a scope that is left gives back the context in which it was
entered. -/
structure IsBalanced (context : Context) (steps : List Step) : Prop where
  contains : ∀ past inner scope outer, past <+: steps → Opened past (inner ++ scope :: outer) →
    ∀ key v, (key, v) ∈ scope.pairs → (∀ other ∈ inner, key ∉ other.keys) →
      (context.run past).bound.get? key = some v
  restores : ∀ past scope body, IsNested body →
    past ++ .enter scope :: (body ++ [.leave]) <+: steps →
      context.run (past ++ .enter scope :: (body ++ [.leave])) = context.run past

/-- No scope binds a key of the context that the steps begin with, or of a scope that is open where
it is entered. -/
structure IsUnshadowed (context : Context) (steps : List Step) : Prop where
  start : ∀ key ∈ boundKeys steps, key ∉ context.bound.map (·.1)
  around : ∀ past scope scopes, past ++ [.enter scope] <+: steps → Opened past scopes →
    ∀ outer ∈ scopes, ∀ key ∈ scope.keys, key ∉ outer.keys

section Balance

variable {context : Context} {steps past inside body : List Step} {scope : Scope}
  {scopes inner : List Scope} {key : String}

theorem notMem_flatMap_keys (h : ∀ scope ∈ scopes, key ∉ scope.keys) :
    key ∉ scopes.flatMap Scope.keys := by
  rw [List.mem_flatMap]
  rintro ⟨scope, hscope, hkey⟩
  exact h scope hscope hkey

namespace IsUnshadowed

/-- Nothing that is bound inside an open scope is a key of it. -/
theorem notMem_keys (h : IsUnshadowed context steps) (hpast : Opened past scopes)
    (hinside : Opened inside inner) (hsteps : past ++ inside <+: steps)
    (hkey : key ∈ boundKeys inside) : ∀ outer ∈ scopes, key ∉ outer.keys := by
  intro outer houter
  obtain ⟨before, scope, hentered, -, hscope⟩ := exists_first_of_mem_boundKeys hkey
  obtain ⟨opened, hbefore⟩ := hinside.of_prefix ((List.prefix_append _ _).trans hentered)
  have hsteps : past ++ before ++ [.enter scope] <+: steps := by
    rw [List.append_assoc]
    exact ((List.prefix_append_right_inj past).2 hentered).trans hsteps
  exact h.around _ _ _ hsteps (hpast.append hbefore) outer (List.mem_append_right _ houter) key
    hscope

theorem contains (h : IsUnshadowed context steps) {outer : List Scope} {v : Value}
    (hsteps : past <+: steps) (hpast : Opened past (inner ++ scope :: outer))
    (hpair : (key, v) ∈ scope.pairs) (hkey : ∀ other ∈ inner, key ∉ other.keys) :
    (context.run past).bound.get? key = some v := by
  obtain ⟨before, inside, rfl, hbefore, hinside⟩ := hpast.split
  rw [Context.get?_run_enter hinside hpair (notMem_flatMap_keys hkey), if_neg]
  intro hinner
  have hentered : before ++ [.enter scope] ++ inside <+: steps := by simpa using hsteps
  exact h.notMem_keys (hbefore.enter scope) hinside hentered hinner scope List.mem_cons_self
    (List.mem_map_of_mem hpair)

theorem restores (h : IsUnshadowed context steps) (hnested : IsNested steps) (hbody : IsNested body)
    (hsteps : past ++ .enter scope :: (body ++ [.leave]) <+: steps) :
    context.run (past ++ .enter scope :: (body ++ [.leave])) = context.run past := by
  rw [Context.run_append, Context.run_of_isNested (hbody.enclose scope),
    Context.unbind_eq_self_iff]
  obtain ⟨scopes, hpast⟩ := Opened.of_prefix hnested ((List.prefix_append _ _).trans hsteps)
  intro key hkey hbound
  have hopen : key ∉ scopes.flatMap Scope.keys :=
    notMem_flatMap_keys (h.notMem_keys hpast (hbody.enclose scope) hsteps hkey)
  have hstart : key ∉ context.bound.map (·.1) := by
    obtain ⟨rest, rfl⟩ := hsteps
    apply h.start key
    rw [boundKeys_append, boundKeys_append]
    exact List.mem_append_left _ (List.mem_append_right _ hkey)
  refine Fields.get?_eq_none_iff.1 ?_ hbound
  rw [Context.get?_run hpast hopen, Fields.get?_eq_none_iff.2 hstart, ite_self]

end IsUnshadowed

namespace IsBalanced

/-- A scope binds no key that is bound where it is entered. -/
theorem notMem_bound (h : IsBalanced context steps) (hnested : IsNested steps)
    (hentered : past ++ [.enter scope] <+: steps) (hkey : key ∈ scope.keys) :
    key ∉ (context.run past).bound.map (·.1) := by
  obtain ⟨body, hbody, hleft⟩ := hnested.exists_left hentered
  have hrestored := h.restores past scope body hbody hleft
  rw [Context.run_scope hbody, Context.unbind_eq_self_iff] at hrestored
  exact hrestored key (List.mem_append_left _ hkey)

theorem isUnshadowed (h : IsBalanced context steps) (hnested : IsNested steps) :
    IsUnshadowed context steps where
  start := by
    intro key hkey hstart
    -- Until a first scope binds the key, it is bound as at the start.
    obtain ⟨past, scope, hentered, hfirst, hkey⟩ := exists_first_of_mem_boundKeys hkey
    obtain ⟨scopes, hpast⟩ := Opened.of_prefix hnested ((List.prefix_append _ _).trans hentered)
    have hrun := Context.get?_run hpast (mt hpast.mem_boundKeys hfirst) context
    rw [if_neg hfirst] at hrun
    have hnone := Fields.get?_eq_none_iff.2 (h.notMem_bound hnested hentered hkey)
    exact Fields.get?_eq_none_iff.1 (hrun ▸ hnone) hstart
  around := by
    intro past scope scopes hentered hpast outer houter key hkey houterKey
    -- The innermost of the scopes around that bind the key has bound it at this moment.
    have hshadows : ∃ outer ∈ scopes, key ∈ outer.keys := ⟨outer, houter, houterKey⟩
    obtain ⟨inner, found, rest, rfl, hfound, hinner⟩ := exists_first hshadows
    obtain ⟨⟨_, v⟩, hpair, rfl⟩ := List.mem_map.1 hfound
    have hbound := h.contains past inner found rest ((List.prefix_append _ _).trans hentered) hpast
      _ v hpair hinner
    have hnone := Fields.get?_eq_none_iff.2 (h.notMem_bound hnested hentered hkey)
    rw [hbound] at hnone
    cases hnone

end IsBalanced

theorem isBalanced_iff (hnested : IsNested steps) :
    IsBalanced context steps ↔ IsUnshadowed context steps := by
  constructor
  · intro h
    exact h.isUnshadowed hnested
  · intro h
    constructor
    · intro past inner scope outer hsteps hpast key v hpair hkey
      exact h.contains hsteps hpast hpair hkey
    · intro past scope body hbody hsteps
      exact h.restores hnested hbody hsteps

/-- A scope that stands alone shadows nothing in an empty context. -/
theorem isUnshadowed_alone (scope : Scope) :
    IsUnshadowed Context.empty [.enter scope, .leave] where
  start := by
    intro key _
    exact List.not_mem_nil
  around := by
    intro past other scopes hentered hpast outer houter key _ hkey
    cases past with
    | nil =>
      have hbound := hpast.mem_boundKeys (List.mem_flatMap.2 ⟨outer, houter, hkey⟩)
      cases hbound
    | cons step past =>
      obtain ⟨-, hentered⟩ := List.cons_prefix_cons.1 hentered
      cases past <;> simp at hentered

/-- At every moment of nested scopes a key that no open scope binds is bound as at the start, unless
a scope has bound it, and then it is gone. A pair of an open scope that no open scope inside it
overrides is bound, unless a scope inside it has bound the key and was left, and then it is gone. A
scope that is left takes away its own keys and those of all scopes inside it. So the scopes are
balanced exactly if none of them binds a key of the context that they begin in, or of a scope around
it. -/
theorem Context.scopes_outcome (hnested : IsNested steps) (context : Context) :
    (∀ past scopes, past <+: steps → Opened past scopes →
      ∀ key, (∀ scope ∈ scopes, key ∉ scope.keys) → (context.run past).bound.get? key =
        if key ∈ boundKeys past then none else context.bound.get? key) ∧
    (∀ past scope inside inner, past ++ .enter scope :: inside <+: steps → Opened inside inner →
      ∀ key v, (key, v) ∈ scope.pairs → (∀ other ∈ inner, key ∉ other.keys) →
        (context.run (past ++ .enter scope :: inside)).bound.get? key =
          if key ∈ boundKeys inside then none else some v) ∧
    (∀ past scope body, past ++ .enter scope :: (body ++ [.leave]) <+: steps → IsNested body →
      context.run (past ++ .enter scope :: (body ++ [.leave])) =
        (context.run past).unbind (scope.keys ++ boundKeys body)) ∧
    (IsBalanced context steps ↔ IsUnshadowed context steps) := by
  refine ⟨?_, ?_, ?_, isBalanced_iff hnested⟩
  · intro past scopes _ hpast key hkey
    exact Context.get?_run hpast (notMem_flatMap_keys hkey) context
  · intro past scope inside inner _ hinside key v hpair hkey
    exact Context.get?_run_enter hinside hpair (notMem_flatMap_keys hkey) context past
  · intro past scope body _ hbody
    exact Context.run_scope hbody context past scope

end Balance

/-! ## A key that is bound twice -/

/-- The context of a request. -/
def requestContext : Context := Context.empty.bindCorrelation (.text "req-1")

def welcomeScope : Scope := ⟨[("template_file", .text "welcome.json")], by decide⟩

/-- A scope that binds a key of the scope around it, and the key of the request. -/
def footerScope : Scope :=
  ⟨[("template_file", .text "footer.json"), ("correlation_id", .text "job-7")], by decide⟩

def shadowingInside : List Step := [.enter footerScope, .leave]

def shadowingSteps : List Step := .enter welcomeScope :: (shadowingInside ++ [.leave])

theorem isNested_shadowingInside : IsNested shadowingInside :=
  (Opened.start.enter footerScope).leave

theorem isNested_shadowingSteps : IsNested shadowingSteps :=
  isNested_shadowingInside.enclose welcomeScope

/-- When the inner scope is left, the outer one is without its pair and the request without its
id; the outer scope alone is balanced. -/
theorem Context.scopes_outcome_shadowing : IsNested shadowingSteps ∧
    (requestContext.run (.enter welcomeScope :: shadowingInside)).bound.get? "template_file" =
      none ∧
    (requestContext.run (.enter welcomeScope :: shadowingInside)).bound.get? "correlation_id" =
      none ∧
    requestContext.run shadowingSteps =
      requestContext.unbind ["template_file", "template_file", "correlation_id"] ∧
    ¬IsBalanced requestContext shadowingSteps ∧
    IsBalanced Context.empty [.enter welcomeScope, .leave] := by
  obtain ⟨hother, hpair, hleft, hbalanced⟩ :=
    Context.scopes_outcome isNested_shadowingSteps requestContext
  have hpast : Opened (.enter welcomeScope :: shadowingInside) [welcomeScope] :=
    (Opened.start.enter welcomeScope).append isNested_shadowingInside
  have hprefix : .enter welcomeScope :: shadowingInside <+: shadowingSteps := ⟨[.leave], rfl⟩
  refine ⟨isNested_shadowingSteps, ?_, ?_, ?_, ?_, ?_⟩
  · exact (hpair [] welcomeScope shadowingInside [] hprefix isNested_shadowingInside
      "template_file" _ List.mem_cons_self (by simp)).trans (if_pos (by decide))
  · exact (hother _ _ hprefix hpast "correlation_id" (by decide)).trans (if_pos (by decide))
  · exact hleft [] welcomeScope shadowingInside List.prefix_rfl isNested_shadowingInside
  · intro h
    exact (hbalanced.1 h).start "correlation_id" (by decide) (by decide)
  · have halone : IsNested [.enter welcomeScope, .leave] :=
      IsNested.enclose .start welcomeScope
    exact (Context.scopes_outcome halone Context.empty).2.2.2.2 (isUnshadowed_alone welcomeScope)

/-- Nested scopes are not always balanced: an outer scope loses a pair to an inner one. -/
theorem not_forall_isBalanced :
    ¬∀ (context : Context) (steps : List Step), IsNested steps → IsBalanced context steps := by
  intro h
  have hbalanced := h requestContext shadowingSteps isNested_shadowingSteps
  have hpast : Opened (.enter welcomeScope :: shadowingInside) [welcomeScope] :=
    (Opened.start.enter welcomeScope).append isNested_shadowingInside
  have hbound := hbalanced.contains _ [] welcomeScope [] ⟨[.leave], rfl⟩ hpast "template_file" _
    List.mem_cons_self (by simp)
  have hgone : (requestContext.run (.enter welcomeScope :: shadowingInside)).bound.get?
      "template_file" = none := by
    rfl
  rw [hgone] at hbound
  cases hbound

end Log

end EmailStudio
