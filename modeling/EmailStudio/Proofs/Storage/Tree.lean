import EmailStudio.Proofs.Outcome
import EmailStudio.Storage.Tree
import Mathlib.Tactic.SplitIfs

/-!
# Writing into a tree

What is found in a tree after a file was written or removed. By `Tree.fileAt?_write` it is the new
file at its place, and what was found before at every other place; by `Tree.fileAt?_remove` it is
nothing at the place of the file that was removed. A file can be written where no file stands in the
way and no directory lies. What lies below a place changes as if there were nothing else.
-/

namespace EmailStudio.Tree

variable {content : Bytes} {name : String} {path : List String}

/-! ## Entries -/

theorem child?_cons (other first : String) (tree : Tree) (rest : List (String × Tree)) :
    child? other ((first, tree) :: rest) = if other = first then some tree else child? other rest := by
  rw [child?, List.lookup_cons]
  by_cases h : other = first
  · rw [if_pos h, beq_iff_eq.2 h]
  · rw [if_neg h, beq_eq_false_iff_ne.2 h, child?]

theorem child?_setEntry (name : String) (tree : Tree) (other : String) :
    ∀ entries : List (String × Tree), child? other (setEntry name tree entries) =
      if other = name then some tree else child? other entries
  | [] => child?_cons other name tree []
  | (first, t) :: rest => by
    rw [setEntry]
    by_cases hfirst : first = name
    · rw [if_pos hfirst, child?_cons, child?_cons, hfirst]
      split_ifs <;> rfl
    · rw [if_neg hfirst, child?_cons, child?_cons, child?_setEntry name tree other rest]
      split_ifs with hother hname
      · exact absurd (hother.symm.trans hname) hfirst
      all_goals rfl

/-! ## Files -/

theorem fileAt?_cons_directory {entries : List (String × Tree)} :
    fileAt? (name :: path) (directory entries) = (child? name entries).bind (fileAt? path) := by
  rw [fileAt?, at?]
  cases child? name entries <;> rfl

/-- Nothing is above a file that lies in a directory, and beside it is what was there before. -/
theorem fileAt?_setEntry (entries : List (String × Tree)) {tree : Tree}
    (hbelow : ∀ place, fileAt? place tree =
      if place = path then some content else (child? name entries).bind (fileAt? place)) :
    ∀ place, fileAt? place (directory (setEntry name tree entries)) =
      if place = name :: path then some content else fileAt? place (directory entries)
  | [] => by rw [if_neg (List.cons_ne_nil _ _).symm]; rfl
  | first :: rest => by
    rw [fileAt?_cons_directory, fileAt?_cons_directory, child?_setEntry]
    by_cases hfirst : first = name
    · rw [if_pos hfirst, Option.bind_some, hbelow rest, hfirst]
      simp only [List.cons.injEq, true_and]
    · rw [if_neg hfirst, if_neg fun h => hfirst (List.cons.inj h).1]

theorem exists_write_none (content : Bytes) (path : List String) :
    ∃ tree, write content path none = .ok tree := by
  induction path with
  | nil => exact ⟨_, rfl⟩
  | cons name rest ih =>
    obtain ⟨below, hbelow⟩ := ih
    rw [write, hbelow]
    exact ⟨_, rfl⟩

/-- A written file is found at its place, and everywhere else what was found before. -/
theorem fileAt?_write {tree : Option Tree} {later : Tree}
    (h : write content path tree = .ok later) (place : List String) :
    fileAt? place later = if place = path then some content else tree.bind (fileAt? place) := by
  induction path generalizing tree later place with
  | nil =>
    cases tree with
    | none =>
      cases h
      cases place <;> rfl
    | some t =>
      cases t with
      | file =>
        cases h
        cases place <;> rfl
      | directory => cases h
  | cons name rest ih =>
    cases tree with
    | none =>
      rw [write] at h
      obtain ⟨below, hbelow, hmade⟩ := Outcome.bind_eq_ok_iff.1 h
      cases hmade
      have hempty : fileAt? place (directory [(name, below)]) = _ :=
        fileAt?_setEntry [] (ih hbelow) place
      rw [hempty]
      cases place <;> rfl
    | some t =>
      cases t with
      | file => cases rest <;> cases h
      | directory entries =>
        rw [write] at h
        obtain ⟨below, hbelow, hmade⟩ := Outcome.bind_eq_ok_iff.1 h
        cases hmade
        exact fileAt?_setEntry entries (ih hbelow) place

/-! ## Removing a file -/

theorem child?_filter (name other : String) :
    ∀ entries : List (String × Tree), child? other (entries.filter fun e => e.1 ≠ name) =
      if other = name then none else child? other entries
  | [] => by split_ifs <;> rfl
  | (first, t) :: rest => by
    by_cases hfirst : first = name
    · rw [List.filter_cons_of_neg (by simp [hfirst]), child?_filter name other rest, child?_cons,
        hfirst]
      split_ifs <;> rfl
    · rw [List.filter_cons_of_pos (by simp [hfirst]), child?_cons, child?_cons,
        child?_filter name other rest]
      split_ifs with hother hname
      · exact absurd (hother.symm.trans hname) hfirst
      all_goals rfl

/-- A directory stays where something below it is removed, with what is left of its entry. -/
theorem remove_cons (path : List String) {entries : List (String × Tree)} {tree : Tree}
    (h : child? name entries = some tree) :
    ∃ left, remove (name :: path) (directory entries) = some (directory left) ∧
      ∀ other, child? other left =
        if other = name then remove path tree else child? other entries := by
  simp only [remove, h]
  cases remove path tree with
  | none => exact ⟨_, rfl, fun other => child?_filter name other entries⟩
  | some below => exact ⟨_, rfl, fun other => child?_setEntry name below other entries⟩

/-- A removed file is gone from its place, and everywhere else is what was found before. -/
theorem fileAt?_remove {tree : Tree} (h : fileAt? path tree = some content) (place : List String) :
    (remove path tree).bind (fileAt? place) =
      if place = path then none else fileAt? place tree := by
  induction path generalizing tree place with
  | nil =>
    cases tree with
    | directory => cases h
    | file => cases place <;> rfl
  | cons name rest ih =>
    cases tree with
    | file => cases h
    | directory entries =>
      rw [fileAt?_cons_directory] at h
      obtain ⟨below, hbelow, hfile⟩ := Option.bind_eq_some_iff.1 h
      obtain ⟨left, hremove, hleft⟩ := remove_cons rest hbelow
      rw [hremove, Option.bind_some]
      cases place with
      | nil => rfl
      | cons other place =>
        rw [fileAt?_cons_directory, fileAt?_cons_directory, hleft]
        by_cases hother : other = name
        · rw [if_pos hother, ih hfile, hother, hbelow, Option.bind_some]
          simp only [List.cons.injEq, true_and]
        · rw [if_neg hother, if_neg fun hplace => hother (List.cons.inj hplace).1]

/-! ## What stands in the way of a file -/

/-- No file stands on the way to a place. -/
def HasWay (path : List String) (tree : Option Tree) : Prop :=
  ∀ front, front <+: path → front ≠ path → tree.bind (fileAt? front) = none

theorem hasWay_nil (tree : Option Tree) : HasWay [] tree :=
  fun _ hfront hne => absurd (List.prefix_nil.1 hfront) hne

theorem hasWay_none (path : List String) : HasWay path none :=
  fun _ _ _ => rfl

theorem not_hasWay_file : ¬HasWay (name :: path) (some (file content)) := fun h => by
  cases h [] List.nil_prefix (List.cons_ne_nil _ _).symm

theorem hasWay_directory {entries : List (String × Tree)} :
    HasWay (name :: path) (some (directory entries)) ↔ HasWay path (child? name entries) := by
  constructor
  · intro h front hfront hne
    have hcons := h (name :: front) (List.cons_prefix_cons.2 ⟨rfl, hfront⟩) (by simpa using hne)
    rwa [Option.bind_some, fileAt?_cons_directory] at hcons
  · intro h front hfront hne
    obtain rfl | ⟨inner, rfl, hinner⟩ := List.prefix_cons_iff.1 hfront
    · rfl
    · rw [Option.bind_some, fileAt?_cons_directory]
      exact h inner hinner (by simpa using hne)

/-- A file can be written exactly where no file is on the way and no directory in its place. -/
theorem exists_write_iff {tree : Option Tree} : (∃ later, write content path tree = .ok later) ↔
    HasWay path tree ∧ ∀ entries, tree.bind (at? path) ≠ some (directory entries) := by
  induction path generalizing tree with
  | nil =>
    refine Iff.trans ?_ (and_iff_right (hasWay_nil tree)).symm
    rcases tree with _ | _ | entries
    · exact iff_of_true ⟨_, rfl⟩ (fun _ h => by cases h)
    · exact iff_of_true ⟨_, rfl⟩ (fun _ h => by cases h)
    · exact iff_of_false (fun ⟨_, h⟩ => by cases h) (fun h => h entries rfl)
  | cons name rest ih =>
    rcases tree with _ | _ | entries
    · exact iff_of_true (exists_write_none content _) ⟨hasWay_none _, fun _ h => by cases h⟩
    · refine iff_of_false ?_ fun h => not_hasWay_file h.1
      rintro ⟨later, hlater⟩
      cases rest <;> cases hlater
    · rw [hasWay_directory, Option.bind_some, at?, ← ih, write]
      constructor
      · rintro ⟨later, hlater⟩
        obtain ⟨below, hbelow, -⟩ := Outcome.bind_eq_ok_iff.1 hlater
        exact ⟨below, hbelow⟩
      · rintro ⟨below, hbelow⟩
        rw [hbelow]
        exact ⟨_, rfl⟩

/-! ## What lies below a place -/

theorem at?_append (root place : List String) (tree : Tree) :
    at? (root ++ place) tree = (at? root tree).bind (at? place) := by
  induction root generalizing tree with
  | nil => rfl
  | cons name rest ih =>
    cases tree with
    | file => cases rest <;> rfl
    | directory entries =>
      rw [List.cons_append, at?, at?, Option.bind_assoc]
      exact congrArg _ (funext ih)

theorem fileAt?_append (root place : List String) (tree : Tree) :
    fileAt? (root ++ place) tree = (at? root tree).bind (fileAt? place) := by
  rw [fileAt?, at?_append]
  cases at? root tree <;> rfl

theorem HasWay.of_append {root place : List String} {tree : Option Tree}
    (h : HasWay (root ++ place) tree) : HasWay root tree := by
  intro front hfront hne
  refine h front (hfront.trans (List.prefix_append _ _)) ?_
  rintro rfl
  exact hne (hfront.eq_of_length_le (by simp))

/-- The way to what lies somewhere is free. -/
theorem hasWay_of_at? {tree below : Tree} (h : at? path tree = some below) :
    HasWay path (some tree) := by
  rintro front ⟨rest, rfl⟩ hne
  obtain ⟨name, rest, rfl⟩ := List.exists_cons_of_ne_nil fun hnil : rest = [] => by simp [hnil] at hne
  rw [at?_append] at h
  obtain ⟨middle, hmiddle, hrest⟩ := Option.bind_eq_some_iff.1 h
  rw [Option.bind_some, fileAt?, hmiddle]
  cases middle with
  | file => cases hrest
  | directory => rfl

/-- Where the way is free, what is written below a place is written into what lies there. -/
theorem write_append (content : Bytes) {root : List String} (place : List String)
    {tree : Option Tree} (h : HasWay root tree) :
    (∀ fault, write content place (tree.bind (at? root)) = .error fault →
      write content (root ++ place) tree = .error fault) ∧
    ∀ below, write content place (tree.bind (at? root)) = .ok below →
      ∃ later, write content (root ++ place) tree = .ok later ∧ at? root later = some below := by
  induction root generalizing tree with
  | nil =>
    rw [List.nil_append, show tree.bind (at? []) = tree by cases tree <;> rfl]
    exact ⟨fun _ => id, fun below hbelow => ⟨below, hbelow, rfl⟩⟩
  | cons name rest ih =>
    rw [List.cons_append]
    rcases tree with _ | _ | entries
    · obtain ⟨herror, hok⟩ := ih (hasWay_none rest)
      rw [write]
      refine ⟨fun fault hfault => ?_, fun below hbelow => ?_⟩
      · rw [herror fault hfault]
        rfl
      · obtain ⟨later, hlater, hat⟩ := hok below hbelow
        rw [hlater]
        refine ⟨_, rfl, ?_⟩
        rw [at?, child?_cons, if_pos rfl, Option.bind_some, hat]
    · exact absurd h not_hasWay_file
    · obtain ⟨herror, hok⟩ := ih (hasWay_directory.1 h)
      rw [Option.bind_some, at?, write]
      refine ⟨fun fault hfault => ?_, fun below hbelow => ?_⟩
      · rw [herror fault hfault]
        rfl
      · obtain ⟨later, hlater, hat⟩ := hok below hbelow
        rw [hlater]
        refine ⟨_, rfl, ?_⟩
        rw [at?, child?_setEntry, if_pos rfl, Option.bind_some, hat]

/-- What is removed below a place is removed from what lies there. -/
theorem remove_append {root place : List String} {tree : Tree}
    (h : fileAt? (root ++ place) tree = some content) :
    (remove (root ++ place) tree).bind (at? root) = (at? root tree).bind (remove place) := by
  induction root generalizing tree with
  | nil =>
    rw [List.nil_append, at?, Option.bind_some]
    cases remove place tree <;> rfl
  | cons name rest ih =>
    cases tree with
    | file => cases h
    | directory entries =>
      rw [List.cons_append] at h ⊢
      rw [fileAt?_cons_directory] at h
      obtain ⟨below, hbelow, hfile⟩ := Option.bind_eq_some_iff.1 h
      obtain ⟨left, hremove, hleft⟩ := remove_cons (rest ++ place) hbelow
      rw [hremove, Option.bind_some, at?, at?, hleft, if_pos rfl, hbelow, Option.bind_some]
      exact ih hfile

end EmailStudio.Tree
