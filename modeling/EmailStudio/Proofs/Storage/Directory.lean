import EmailStudio.Proofs.Storage.Tree
import EmailStudio.Proofs.Text.Path
import EmailStudio.Storage.Directory

/-!
# Files by their paths

A path leads through a working directory name by name, while a file is written at the place that
comes of all its names. By `Directory.Takes.exists_writeText` the two meet: a file that a path can
name and that may be written is written, and by the same path it is found. What can be written stays
so, whatever file is written before.
-/

namespace EmailStudio

/-! ## Directories in a tree -/

namespace Tree

variable {name : String} {entries : List (String × Tree)}

/-- At a place there is a directory. -/
def HoldsDirectory (place : List String) (tree : Tree) : Prop :=
  ∃ entries, at? place tree = some (directory entries)

theorem holdsDirectory_cons {place : List String} :
    HoldsDirectory (name :: place) (directory entries) ↔
      ∃ child, child? name entries = some child ∧ HoldsDirectory place child := by
  unfold HoldsDirectory
  rw [at?]
  cases child? name entries <;> simp

theorem not_holdsDirectory_file {content : Bytes} (place : List String) :
    ¬HoldsDirectory place (file content) := by
  rintro ⟨_, h⟩
  cases place <;> cases h

/-- An entry with the same directories below it changes no directory. -/
theorem holdsDirectory_setEntry {tree : Tree}
    (h : ∀ place, HoldsDirectory place tree ↔
      ∃ child, child? name entries = some child ∧ HoldsDirectory place child) :
    ∀ place, HoldsDirectory place (directory (setEntry name tree entries)) ↔
      HoldsDirectory place (directory entries)
  | [] => iff_of_true ⟨_, rfl⟩ ⟨_, rfl⟩
  | other :: place => by
    rw [holdsDirectory_cons, holdsDirectory_cons, child?_setEntry]
    by_cases hother : other = name
    · rw [if_pos hother, hother, ← h]
      simp
    · rw [if_neg hother]

/-- A file that is written into a directory brings no directory and takes none away. -/
theorem holdsDirectory_write {content : Bytes} {front : List String} {tree later : Tree}
    (hfront : HoldsDirectory front tree)
    (hwrite : write content (front ++ [name]) (some tree) = .ok later) (place : List String) :
    HoldsDirectory place later ↔ HoldsDirectory place tree := by
  induction front generalizing tree later place with
  | nil =>
    obtain ⟨entries, hentries⟩ := hfront
    cases hentries
    rw [List.nil_append, write] at hwrite
    obtain ⟨below, hbelow, hlater⟩ := Outcome.bind_eq_ok_iff.1 hwrite
    cases hlater
    refine holdsDirectory_setEntry (fun place => ?_) place
    cases hchild : child? name entries with
    | none =>
      rw [hchild] at hbelow
      cases hbelow
      simp [not_holdsDirectory_file]
    | some child =>
      rw [hchild] at hbelow
      cases child with
      | directory => cases hbelow
      | file =>
        cases hbelow
        simp [not_holdsDirectory_file]
  | cons first front ih =>
    cases tree with
    | file => exact absurd hfront (not_holdsDirectory_file _)
    | directory entries =>
      obtain ⟨child, hchild, hfront⟩ := holdsDirectory_cons.1 hfront
      rw [List.cons_append, write, hchild] at hwrite
      obtain ⟨below, hbelow, hlater⟩ := Outcome.bind_eq_ok_iff.1 hwrite
      cases hlater
      refine holdsDirectory_setEntry (fun place => ?_) place
      rw [ih hfront hbelow, hchild]
      simp

/-- A file can be written into a directory that has no directory of its name. -/
theorem exists_write_child (content : Bytes)
    (free : ∀ inner, child? name entries ≠ some (directory inner)) :
    ∃ later, write content [name] (some (directory entries)) = .ok later := by
  rw [write]
  cases hchild : child? name entries with
  | none => exact ⟨_, rfl⟩
  | some child =>
    cases child with
    | file => exact ⟨_, rfl⟩
    | directory inner => exact absurd hchild (free inner)

theorem at?_concat {place : List String} {tree : Tree}
    (h : at? place tree = some (directory entries)) :
    at? (place ++ [name]) tree = child? name entries := by
  rw [at?_append, h, Option.bind_some, at?]
  cases child? name entries <;> rfl

theorem fileAt?_eq_some_iff {content : Bytes} {place : List String} {tree : Tree} :
    fileAt? place tree = some content ↔ at? place tree = some (file content) := by
  rw [fileAt?]
  cases at? place tree with
  | none => simp
  | some found => cases found <;> simp

end Tree

namespace Directory

/-! ## Following names -/

section Walk

variable {name : String} {rest : List String} {tree : Tree} {above : List Tree}
  {entries : List (String × Tree)}

theorem walk_skip (h : name = "" ∨ name = ".") :
    walk (.directory entries :: above) (name :: rest) = walk (.directory entries :: above) rest := by
  rw [walk, if_pos h]

theorem walk_up : walk (.directory entries :: above) (".." :: rest) = walk above rest := by
  rw [walk, if_neg (by decide), if_pos rfl]

theorem walk_down (h : ¬(name = "" ∨ name = ".")) (hup : name ≠ "..")
    (hchild : Tree.child? name entries = some tree) :
    walk (.directory entries :: above) (name :: rest) =
      walk (tree :: .directory entries :: above) rest := by
  rw [walk, if_neg h, if_neg hup, hchild]

/-- Where a first name leads to. -/
theorem walk_cons {stack : List Tree} (h : walk stack (name :: rest) = some tree) :
    ∃ entries above, stack = .directory entries :: above ∧
      ((name = "" ∨ name = ".") ∧ walk stack rest = some tree ∨
        name = ".." ∧ walk above rest = some tree ∨
        ¬(name = "" ∨ name = ".") ∧ name ≠ ".." ∧ ∃ child, Tree.child? name entries = some child ∧
          walk (child :: stack) rest = some tree) := by
  match stack, h with
  | .directory entries :: above, h =>
    refine ⟨entries, above, rfl, ?_⟩
    rw [walk] at h
    split_ifs at h with hskip hup
    · exact .inl ⟨hskip, h⟩
    · exact .inr (.inl ⟨hup, h⟩)
    · cases hchild : Tree.child? name entries with
      | none =>
        rw [hchild] at h
        cases h
      | some child =>
        rw [hchild] at h
        exact .inr (.inr ⟨hskip, hup, child, rfl, h⟩)

/-- Only from a directory is there a way to a directory. -/
theorem exists_directory_of_walk {stack : List Tree} {names : List String}
    (h : walk stack names = some (.directory entries)) :
    ∃ entries above, stack = .directory entries :: above := by
  cases names with
  | nil =>
    match stack, h with
    | _ :: above, h =>
      cases h
      exact ⟨entries, above, rfl⟩
  | cons =>
    obtain ⟨entries, above, hstack, -⟩ := walk_cons h
    exact ⟨entries, above, hstack⟩

/-- Names that lead nowhere may be left out on the way to a directory. -/
theorem walk_filter {stack : List Tree} {names : List String}
    (h : walk stack names = some (.directory entries)) :
    walk stack (names.filter fun name => name ≠ "" && name ≠ ".") =
      some (.directory entries) := by
  induction names generalizing stack with
  | nil => exact h
  | cons name rest ih =>
    obtain ⟨_, above, rfl, ⟨hskip, h⟩ | ⟨rfl, h⟩ | ⟨hskip, hup, child, hchild, h⟩⟩ := walk_cons h
    · rw [List.filter_cons_of_neg (by simpa using or_iff_not_imp_left.1 hskip)]
      exact ih h
    · rw [List.filter_cons_of_pos (by decide), walk_up]
      exact ih h
    · rw [List.filter_cons_of_pos (by simpa using hskip), walk_down hskip hup hchild]
      exact ih h

/-- From a directory, a plain name leads to the entry of this name. -/
theorem walk_concat {stack : List Tree} {names : List String}
    (h : walk stack names = some (.directory entries)) (hname : Path.IsPlain name) :
    walk stack (names ++ [name]) = Tree.child? name entries := by
  have hskip : ¬(name = "" ∨ name = ".") := not_or.2 ⟨hname.ne_empty, hname.ne_dot⟩
  induction names generalizing stack with
  | nil =>
    match stack, h with
    | _ :: above, h =>
      cases h
      rw [List.nil_append, walk, if_neg hskip, if_neg hname.ne_dots]
      cases Tree.child? name entries <;> rfl
  | cons first rest ih =>
    rw [List.cons_append]
    obtain ⟨_, above, rfl, ⟨hfirst, h⟩ | ⟨rfl, h⟩ | ⟨hfirst, hup, child, hchild, h⟩⟩ := walk_cons h
    · rw [walk_skip hfirst, ih h]
    · rw [walk_up, ih h]
    · rw [walk_down hfirst hup hchild, ih h]

end Walk

/-! ## Places -/

section Places

/-- A stack of trees holds what lies on the way to a place, whose names are in reverse. -/
inductive Stands (root : Tree) : List String → List Tree → Prop
  | top : Stands root [] [root]
  | inner {place : List String} {name : String} {entries : List (String × Tree)}
      {above : List Tree} {tree : Tree} (stands : Stands root place (.directory entries :: above))
      (child : Tree.child? name entries = some tree) :
      Stands root (name :: place) (tree :: .directory entries :: above)

variable {root later : Tree} {place names : List String} {stack : List Tree} {tree : Tree}

theorem Stands.at?_eq (h : Stands root place stack) :
    stack.head? = Tree.at? place.reverse root := by
  induction h with
  | top => rfl
  | @inner place name entries above tree _ child ih =>
    rw [List.reverse_cons, Tree.at?_append, ← ih, List.head?_cons, List.head?_cons,
      Option.bind_some, Tree.at?, child]
    rfl

/-- Names lead to where the place stands that comes of them. -/
theorem Stands.at?_walk (h : Stands root place stack) (hwalk : walk stack names = some tree) :
    Tree.at? (names.foldl Path.follow place).reverse root = some tree := by
  induction names generalizing place stack with
  | nil =>
    match stack, hwalk with
    | _ :: _, rfl => exact h.at?_eq.symm
  | cons name rest ih =>
    rw [List.foldl_cons]
    obtain ⟨_, above, rfl, ⟨hskip, hrest⟩ | ⟨rfl, hrest⟩ | ⟨hskip, hup, child, hchild, hrest⟩⟩ :=
      walk_cons hwalk
    · rw [Path.follow, if_pos hskip]
      exact ih h hrest
    · cases h with
      | top => cases rest <;> cases hrest
      | inner stands _ => exact ih stands hrest
    · rw [Path.follow, if_neg hskip, if_neg hup]
      exact ih (.inner h hchild) hrest

theorem Stands.exists_directory {others : List Tree} {entries : List (String × Tree)}
    {above : List Tree}
    (hkeeps : ∀ place, Tree.HoldsDirectory place root → Tree.HoldsDirectory place later)
    (h : Stands root place (.directory entries :: above)) (hlater : Stands later place others) :
    ∃ kept below, others = .directory kept :: below := by
  obtain ⟨kept, hkept⟩ := hkeeps _ ⟨entries, h.at?_eq.symm⟩
  rw [← hlater.at?_eq, List.head?_eq_some_iff] at hkept
  obtain ⟨below, hbelow⟩ := hkept
  exact ⟨kept, below, hbelow⟩

/-- The way to a directory stays open as long as no directory is taken away. -/
theorem Stands.exists_walk {others : List Tree} {entries : List (String × Tree)}
    (hkeeps : ∀ place, Tree.HoldsDirectory place root → Tree.HoldsDirectory place later)
    (h : Stands root place stack) (hlater : Stands later place others)
    (hwalk : walk stack names = some (.directory entries)) :
    ∃ kept, walk others names = some (.directory kept) := by
  induction names generalizing place stack others with
  | nil =>
    obtain ⟨_, above, rfl⟩ := exists_directory_of_walk hwalk
    obtain ⟨kept, below, rfl⟩ := h.exists_directory hkeeps hlater
    exact ⟨kept, rfl⟩
  | cons name rest ih =>
    obtain ⟨_, above, rfl, hway⟩ := walk_cons hwalk
    obtain ⟨kept, below, rfl⟩ := h.exists_directory hkeeps hlater
    obtain ⟨hskip, hrest⟩ | ⟨rfl, hrest⟩ | ⟨hskip, hup, child, hchild, hrest⟩ := hway
    · rw [walk_skip hskip]
      exact ih h hlater hrest
    · rw [walk_up]
      cases h with
      | top => cases rest <;> cases hrest
      | inner stands _ =>
        cases hlater with
        | inner standsLater _ => exact ih stands standsLater hrest
    · obtain ⟨sub, _, hsub⟩ := exists_directory_of_walk hrest
      obtain ⟨rfl, -⟩ := List.cons.inj hsub
      obtain ⟨keptSub, hkeptSub⟩ := hkeeps _ ⟨sub, (h.inner hchild).at?_eq.symm⟩
      rw [List.reverse_cons, Tree.at?_append, ← hlater.at?_eq, List.head?_cons, Option.bind_some,
        Tree.at?] at hkeptSub
      obtain ⟨kept, hkept, hempty⟩ := Option.bind_eq_some_iff.1 hkeptSub
      cases hempty
      rw [walk_down hskip hup hkept]
      exact ih (h.inner hchild) (hlater.inner hkept) hrest

end Places

/-! ## Texts in files -/

theorem loop_toList (bytes : ByteArray) (i : Nat) (front : List UInt8) :
    ByteArray.toList.loop bytes i front = front.reverse ++ bytes.data.toList.drop i := by
  fun_induction ByteArray.toList.loop bytes i front with
  | case1 i front hi ih =>
    have hget : bytes.get! i = bytes.data.toList[i] := getElem!_pos bytes.data i hi
    rw [ih, List.drop_eq_getElem_cons hi, hget, List.reverse_cons, List.append_assoc]
    rfl
  | case2 i front hi =>
    rw [List.drop_eq_nil_of_le (Nat.le_of_not_lt hi), List.append_nil]

theorem toList_eq (bytes : ByteArray) : bytes.toList = bytes.data.toList :=
  loop_toList bytes 0 []

/-- A file that holds the bytes of a text. -/
theorem readText?_of_find {directory : Tree} {path content : String}
    (h : find? directory path = some (.file content.toUTF8.data.toList)) :
    readText? directory path = some content := by
  have hbytes : ByteArray.mk content.toUTF8.data.toList.toArray = content.toUTF8 := by
    rw [Array.toArray_toList]
  rw [readText?, h]
  dsimp only
  rw [hbytes]
  exact dif_pos content.isValidUTF8

theorem relative_of_plain {name : String} (plain : Path.IsPlain name) :
    name.startsWith "/" = false := by
  refine Path.not_startsWith_of_plain fun other hother => ?_
  rw [Path.names_of_notMem plain.slash, List.mem_singleton] at hother
  rwa [hother]

/-- A plain name leads to the entry of this name. -/
theorem find?_of_plain {name : String} (plain : Path.IsPlain name) (directory : Tree) :
    find? directory name = Tree.at? [name] directory := by
  have hempty : name.isEmpty = false := by
    rw [← Bool.not_eq_true, String.isEmpty_iff]
    exact plain.ne_empty
  rw [find?, hempty, relative_of_plain plain, Bool.or_false, if_neg Bool.false_ne_true,
    Path.names_of_notMem plain.slash]
  cases directory with
  | file => rfl
  | directory entries =>
    rw [← List.nil_append [name], walk_concat rfl plain]
    exact (Tree.at?_concat rfl).symm

theorem readText?_of_plain {name : String} (plain : Path.IsPlain name) (directory : Tree) :
    readText? directory name = (Tree.fileAt? [name] directory).bind fun content =>
      String.fromUTF8? (ByteArray.mk content.toArray) := by
  rw [readText?, find?_of_plain plain, Tree.fileAt?]
  cases Tree.at? [name] directory with
  | none => rfl
  | some tree => cases tree <;> rfl

/-! ## Files that can be written -/

/-- A relative path ends in a plain name, leads to a directory up to there, and this has no
directory of that name. -/
inductive Takes (directory : Tree) (path : String) : Prop
  | below {name : String} {front : List String} {entries : List (String × Tree)}
      (relative : path.startsWith "/" = false) (names : Path.names path = front ++ [name])
      (plain : Path.IsPlain name) (leads : walk [directory] front = some (.directory entries))
      (free : ∀ inner, Tree.child? name entries ≠ some (.directory inner))

namespace Takes

variable {directory later : Tree} {path : String}

section Names

variable {front : List String} {name : String} (relative : path.startsWith "/" = false)
  (names : Path.names path = front ++ [name]) (plain : Path.IsPlain name)

include names plain

theorem isEmpty_of_names : path.isEmpty = false := by
  rw [← Bool.not_eq_true, String.isEmpty_iff]
  rintro rfl
  have hlast := congrArg List.getLast? names
  rw [List.getLast?_concat] at hlast
  exact plain.ne_empty (Option.some.inj hlast).symm

theorem steps_eq :
    Path.steps path = (front.filter fun name => name ≠ "" && name ≠ ".") ++ [name] := by
  rw [Path.steps, names, List.filter_append, List.filter_cons_of_pos]
  · rfl
  · simpa using ⟨plain.ne_empty, plain.ne_dot⟩

include relative

theorem find?_eq_walk (tree : Tree) : find? tree path = walk [tree] (front ++ [name]) := by
  rw [find?, isEmpty_of_names names plain, relative, Bool.or_false, if_neg Bool.false_ne_true,
    names]

theorem absolute_eq :
    Path.absolute [] path = (front.foldl Path.follow []).reverse ++ [name] := by
  rw [Path.absolute, relative, if_neg Bool.false_ne_true, names, List.foldl_append,
    List.foldl_cons, List.foldl_nil, Path.follow,
    if_neg (not_or.2 ⟨plain.ne_empty, plain.ne_dot⟩), if_neg plain.ne_dots, List.reverse_cons]
  rfl

end Names

theorem isEmpty_eq (h : Takes directory path) : path.isEmpty = false := by
  obtain ⟨-, names, plain, -, -⟩ := h
  exact isEmpty_of_names names plain

/-- The file can be written into the tree. -/
theorem exists_write (h : Takes directory path) (content : Bytes) :
    ∃ later, Tree.write content (Path.absolute [] path) (some directory) = .ok later := by
  obtain @⟨name, front, entries, relative, names, plain, leads, free⟩ := h
  have hplace := Stands.top.at?_walk leads
  obtain ⟨below, hbelow⟩ := Tree.exists_write_child content free
  rw [absolute_eq relative names plain]
  obtain ⟨later, hlater, -⟩ := (Tree.write_append content [name] (Tree.hasWay_of_at? hplace)).2
    below (by rw [Option.bind_some, hplace, hbelow])
  exact ⟨later, hlater⟩

/-- A file that is written brings no directory and takes none away. -/
theorem holdsDirectory (h : Takes directory path) {content : Bytes}
    (hwrite : Tree.write content (Path.absolute [] path) (some directory) = .ok later)
    (place : List String) :
    Tree.HoldsDirectory place later ↔ Tree.HoldsDirectory place directory := by
  obtain ⟨relative, names, plain, leads, -⟩ := h
  rw [absolute_eq relative names plain] at hwrite
  exact Tree.holdsDirectory_write ⟨_, Stands.top.at?_walk leads⟩ hwrite place

/-- What can be written stays so when another file is written. -/
theorem of_write {other : String} {content : Bytes} (h : Takes directory path)
    (hother : Takes directory other)
    (hwrite : Tree.write content (Path.absolute [] other) (some directory) = .ok later) :
    Takes later path := by
  have hkeeps := hother.holdsDirectory hwrite
  obtain ⟨relative, names, plain, leads, free⟩ := h
  obtain ⟨kept, hkept⟩ := Stands.top.exists_walk (fun place => (hkeeps place).2) .top leads
  refine .below relative names plain hkept fun inner hinner => ?_
  obtain ⟨old, hold⟩ := (hkeeps _).1
    ⟨inner, (Tree.at?_concat (Stands.top.at?_walk hkept)).trans hinner⟩
  exact free old ((Tree.at?_concat (Stands.top.at?_walk leads)).symm.trans hold)

theorem isDirectory_eq (h : Takes directory path) : isDirectory directory path = false := by
  obtain ⟨relative, names, plain, leads, free⟩ := h
  rw [isDirectory, find?_eq_walk relative names plain, walk_concat leads plain]
  split
  · exact absurd ‹_› (free _)
  · rfl

/-- A file is written where its path leads to, and by the same path it is read again. -/
theorem exists_writeText (h : Takes directory path) (content : String) :
    ∃ later, writeText directory path content = .ok later ∧
      Tree.write content.toUTF8.toList (Path.absolute [] path) (some directory) = .ok later ∧
      isFile later path = true ∧ readText? later path = some content := by
  obtain ⟨later, hwrite⟩ := h.exists_write content.toUTF8.toList
  have hkeeps := h.holdsDirectory hwrite
  obtain @⟨name, front, entries, relative, names, plain, leads, free⟩ := h
  have hwritten : writeText directory path content = .ok later := by
    rw [writeText, steps_eq names plain, List.dropLast_concat, List.getLast?_concat,
      Option.getD_some, walk_filter leads, hwrite]
    dsimp only
    split
    · exact absurd ‹_› (free _)
    · rw [if_neg plain.ne_dots]
      rfl
  have hfind : find? later path = some (.file content.toUTF8.toList) := by
    obtain ⟨kept, hkept⟩ := Stands.top.exists_walk (fun place => (hkeeps place).2) .top leads
    have hfile := Tree.fileAt?_write hwrite (Path.absolute [] path)
    rw [if_pos rfl, Tree.fileAt?_eq_some_iff, absolute_eq relative names plain,
      Tree.at?_concat (Stands.top.at?_walk hkept)] at hfile
    rw [find?_eq_walk relative names plain, walk_concat hkept plain, hfile]
  refine ⟨later, hwritten, hwrite, by rw [isFile, hfind], ?_⟩
  rw [toList_eq] at hfind
  exact readText?_of_find hfind

/-- In a directory, a plain name that no directory has names a file that can be written. -/
theorem of_plain {entries : List (String × Tree)} {name : String} (plain : Path.IsPlain name)
    (free : ∀ inner, Tree.child? name entries ≠ some (.directory inner)) :
    Takes (.directory entries) name := by
  have names : Path.names name = [] ++ [name] := Path.names_of_notMem plain.slash
  exact .below (relative_of_plain plain) names plain rfl free

end Takes

/-- A file of a plain name stays as it is when another one is written. -/
theorem readText?_write {directory later : Tree} {name path : String} {content : Bytes}
    (plain : Path.IsPlain name) (hne : Path.absolute [] path ≠ [name])
    (hwrite : Tree.write content (Path.absolute [] path) (some directory) = .ok later) :
    readText? later name = readText? directory name := by
  rw [readText?_of_plain plain, readText?_of_plain plain, Tree.fileAt?_write hwrite,
    if_neg (Ne.symm hne), Option.bind_some]

end Directory

end EmailStudio
