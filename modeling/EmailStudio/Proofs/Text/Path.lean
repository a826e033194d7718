import EmailStudio.Text.Path
import Mathlib.Tactic.SplitIfs

/-!
# Paths of plain names

A name that is neither empty nor a dot nor two dots, and that holds no slash, leads one directory
down. By `Path.absolute_of_plain` a path of such names leads to where they stand; wherever a path
leads from a place of such names, there is one again.
-/

namespace EmailStudio

theorem Text.splitAll_append (mark : Char) (cs ds : List Char) :
    splitAll mark (cs ++ mark :: ds) = splitAll mark cs ++ splitAll mark ds := by
  induction cs with
  | nil => simp [splitAll]
  | cons c cs ih =>
    rw [List.cons_append, splitAll, splitAll, ih]
    obtain ⟨part, parts, hparts⟩ := List.exists_cons_of_ne_nil (splitAll_ne_nil mark cs)
    rw [hparts]
    split_ifs <;> rfl

theorem Text.splitAll_of_notMem {mark : Char} {cs : List Char} (h : mark ∉ cs) :
    splitAll mark cs = [cs] := by
  induction cs with
  | nil => rfl
  | cons c cs ih =>
    obtain ⟨hc, hcs⟩ := not_or.1 (mt List.mem_cons.2 h)
    rw [splitAll, if_neg (Ne.symm hc), ih hcs]

theorem Text.notMem_of_mem_splitAll {mark : Char} {cs part : List Char}
    (h : part ∈ splitAll mark cs) : mark ∉ part := by
  induction cs generalizing part with
  | nil =>
    cases List.mem_singleton.1 h
    exact List.not_mem_nil
  | cons c cs ih =>
    rw [splitAll] at h
    split_ifs at h with hc
    · obtain rfl | h := List.mem_cons.1 h
      · exact List.not_mem_nil
      · exact ih h
    · obtain ⟨first, parts, hparts⟩ := List.exists_cons_of_ne_nil (splitAll_ne_nil mark cs)
      rw [hparts] at h ih
      obtain rfl | h := List.mem_cons.1 h
      · exact List.not_mem_cons_of_ne_of_not_mem (Ne.symm hc) (ih List.mem_cons_self)
      · exact ih (List.mem_cons_of_mem _ h)

theorem Text.joinAll_eq_intercalate (mark : Char) :
    ∀ parts : List (List Char), joinAll mark parts = [mark].intercalate parts
  | [] => rfl
  | [part] => by simp [joinAll]
  | part :: next :: parts => by
    rw [joinAll, joinAll_eq_intercalate mark (next :: parts), List.intercalate_cons_cons,
      List.append_assoc]
    · rfl
    · simp

namespace Path

/-- A name that leads one directory down. -/
structure IsPlain (name : String) : Prop where
  ne_empty : name ≠ ""
  ne_dot : name ≠ "."
  ne_dots : name ≠ ".."
  slash : '/' ∉ name.toList

instance (name : String) : Decidable (IsPlain name) :=
  decidable_of_iff (name ≠ "" ∧ name ≠ "." ∧ name ≠ ".." ∧ '/' ∉ name.toList)
    ⟨fun ⟨empty, dot, dots, slash⟩ => ⟨empty, dot, dots, slash⟩,
      fun h => ⟨h.ne_empty, h.ne_dot, h.ne_dots, h.slash⟩⟩

/-- A path is its names with slashes between them. -/
theorem intercalate_names (s : String) : "/".intercalate (names s) = s := by
  have hnames : (names s).map String.toList = Text.splitAll '/' s.toList := by
    rw [names, List.map_map, show String.toList ∘ String.ofList = id from
      funext fun _ => String.toList_ofList, List.map_id]
  rw [← String.toList_inj, String.toList_intercalate, hnames]
  exact (Text.joinAll_eq_intercalate '/' _).symm.trans (Text.joinAll_splitAll '/' s.toList)

theorem names_append (s t : String) : names (s ++ "/" ++ t) = names s ++ names t := by
  have hchars : (s ++ "/" ++ t).toList = s.toList ++ '/' :: t.toList := by
    rw [String.toList_append, String.toList_append, List.append_assoc]
    rfl
  rw [names, hchars, Text.splitAll_append, List.map_append, names, names]

theorem names_ne_nil (s : String) : names s ≠ [] :=
  mt List.map_eq_nil_iff.1 (Text.splitAll_ne_nil '/' s.toList)

theorem names_of_notMem {s : String} (h : '/' ∉ s.toList) : names s = [s] := by
  rw [names, Text.splitAll_of_notMem h, List.map_singleton, String.ofList_toList]

theorem foldl_follow {plain : List String} (h : ∀ name ∈ plain, IsPlain name)
    (place : List String) : plain.foldl follow place = plain.reverse ++ place := by
  induction plain generalizing place with
  | nil => rfl
  | cons name rest ih =>
    obtain ⟨hname, h⟩ := List.forall_mem_cons.1 h
    have hfollow : follow place name = name :: place := by
      rw [follow, if_neg (not_or.2 ⟨hname.ne_empty, hname.ne_dot⟩), if_neg hname.ne_dots]
    rw [List.foldl_cons, hfollow, ih h, List.reverse_cons, List.append_assoc, List.singleton_append]

theorem startsWith_slash (s : String) : s.startsWith "/" = decide (['/'] <+: s.toList) := by
  rw [Bool.eq_iff_iff, decide_eq_true_iff]
  exact String.startsWith_string_iff

/-- A path with a slash at its start has an empty name there. -/
theorem not_startsWith_of_plain {s : String} (h : ∀ name ∈ names s, IsPlain name) :
    s.startsWith "/" = false := by
  refine String.startsWith_string_eq_false_iff.2 fun hstart => ?_
  obtain ⟨rest, hrest⟩ := hstart
  have hempty : "" ∈ names s := by
    rw [names, ← hrest]
    exact List.mem_cons_self
  exact (h "" hempty).ne_empty rfl

theorem absolute_of_plain {s : String} (h : ∀ name ∈ names s, IsPlain name)
    (directory : List String) : absolute directory s = directory ++ names s := by
  rw [absolute, not_startsWith_of_plain h, if_neg Bool.false_ne_true, foldl_follow h,
    List.reverse_append, List.reverse_reverse, List.reverse_reverse]

theorem isPlain_follow {place : List String} (h : ∀ step ∈ place, IsPlain step) {name : String}
    (hslash : '/' ∉ name.toList) : ∀ step ∈ follow place name, IsPlain step := by
  rw [follow]
  split_ifs with hskip hdots
  · exact h
  · exact fun step hstep => h step (List.mem_of_mem_tail hstep)
  · obtain ⟨hempty, hdot⟩ := not_or.1 hskip
    exact List.forall_mem_cons.2 ⟨⟨hempty, hdot, hdots, hslash⟩, h⟩

/-- Following a path from a place of plain names leads to such a place. -/
theorem isPlain_absolute {directory : List String} (h : ∀ name ∈ directory, IsPlain name)
    (s : String) : ∀ name ∈ absolute directory s, IsPlain name := by
  have hfollow (steps : List String) (hsteps : ∀ step ∈ steps, '/' ∉ step.toList) :
      ∀ start : List String, (∀ name ∈ start, IsPlain name) →
        ∀ name ∈ steps.foldl follow start, IsPlain name := by
    induction steps with
    | nil => exact fun _ hstart => hstart
    | cons step steps ih =>
      obtain ⟨hstep, hsteps⟩ := List.forall_mem_cons.1 hsteps
      exact fun start hstart => ih hsteps _ (isPlain_follow hstart hstep)
  have hnames : ∀ name ∈ names s, '/' ∉ name.toList := by
    intro name hname
    obtain ⟨part, hpart, rfl⟩ := List.mem_map.1 hname
    rw [String.toList_ofList]
    exact Text.notMem_of_mem_splitAll hpart
  intro name hname
  refine hfollow (names s) hnames _ ?_ name (List.mem_reverse.1 hname)
  split_ifs
  · exact fun _ hnil => absurd hnil List.not_mem_nil
  · exact fun step hstep => h step (List.mem_reverse.1 hstep)

end Path

end EmailStudio
