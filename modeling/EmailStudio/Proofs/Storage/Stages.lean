import EmailStudio.Proofs.Storage.Tree

/-!
# Writing in stages

A file is written in two stages: first the directories on the way to it are made, then it is put into
the last of them. Each stage keeps what it did if the next one fails. By `Tree.writeInStages_eq` this
comes to writing the file at once: when a stage fails, no directory was made before.
-/

namespace EmailStudio.Tree

/-- Makes a directory and those that it lies in. What was made stays, even if a file then stands in
the way. -/
def makeDirectories : List String → Option Tree → Tree × Except WriteFault Unit
  | [], none => (directory [], .ok ())
  | [], some (directory entries) => (directory entries, .ok ())
  | [], some (file content) => (file content, .error .parentIsFile)
  | name :: rest, none =>
    let made := makeDirectories rest none
    (directory [(name, made.1)], made.2)
  | name :: rest, some (directory entries) =>
    let made := makeDirectories rest (child? name entries)
    (directory (setEntry name made.1 entries), made.2)
  | _ :: _, some (file content) => (file content, .error .ancestorIsFile)

/-- Makes the directories on the way to a place. -/
def makeWay (path : List String) (tree : Option Tree) : Option Tree × Except WriteFault Unit :=
  if path.isEmpty then (tree, .ok ())
  else
    let made := makeDirectories path.dropLast tree
    (some made.1, made.2)

/-- Writes a file once the directories on the way were made. -/
def writeInStages (content : Bytes) (path : List String) (tree : Option Tree) :
    Option Tree × Except WriteFault Unit :=
  match makeWay path tree with
  | (made, .error fault) => (made, .error fault)
  | (made, .ok ()) =>
    match write content path made with
    | .error fault => (made, .error fault)
    | .ok later => (some later, .ok ())

variable {content : Bytes} {tree : Option Tree}

/-! ## Entries -/

theorem setEntry_of_child? {name : String} {t : Tree} :
    ∀ {entries : List (String × Tree)}, child? name entries = some t →
      setEntry name t entries = entries
  | [], h => by cases h
  | (first, other) :: rest, h => by
    rw [child?_cons] at h
    rw [setEntry]
    split_ifs at h with hname
    · cases h
      rw [if_pos hname.symm]
    · rw [if_neg (Ne.symm hname), setEntry_of_child? h]

theorem setEntry_setEntry (name : String) (t other : Tree) :
    ∀ entries : List (String × Tree),
      setEntry name t (setEntry name other entries) = setEntry name t entries
  | [] => by simp [setEntry]
  | (first, below) :: rest => by
    rw [setEntry, setEntry]
    by_cases hname : first = name
    · rw [if_pos hname, if_pos hname, setEntry, if_pos hname]
    · rw [if_neg hname, if_neg hname, setEntry, if_neg hname, setEntry_setEntry name t other rest]

/-! ## Directories -/

/-- A file in the way of a directory is in the way of a file in it, and no directory was made. -/
theorem write_of_makeDirectories_error {dirs : List String} {fault : WriteFault}
    (h : (makeDirectories dirs tree).2 = .error fault) (content : Bytes) (name : String) :
    tree = some (makeDirectories dirs tree).1 ∧
      write content (dirs ++ [name]) tree = .error fault := by
  induction dirs generalizing tree with
  | nil =>
    rcases tree with _ | _ | entries <;> cases h
    exact ⟨rfl, rfl⟩
  | cons first rest ih =>
    rcases tree with _ | _ | entries
    · cases (@ih none h).1
    · cases h
      refine ⟨rfl, ?_⟩
      cases rest <;> rfl
    · obtain ⟨hmade, hwrite⟩ := @ih (child? first entries) h
      refine ⟨?_, ?_⟩
      · simp only [makeDirectories, setEntry_of_child? hmade]
      · rw [List.cons_append, write, hwrite]
        rfl

/-- A file is written into directories that were just made as it is written without them. -/
theorem write_makeDirectories {dirs : List String} (h : (makeDirectories dirs tree).2 = .ok ())
    (content : Bytes) (name : String) :
    write content (dirs ++ [name]) (some (makeDirectories dirs tree).1) =
      write content (dirs ++ [name]) tree := by
  induction dirs generalizing tree with
  | nil =>
    rcases tree with _ | _ | entries
    · rfl
    · cases h
    · rfl
  | cons first rest ih =>
    rcases tree with _ | _ | entries
    · rw [makeDirectories, List.cons_append, write, write, child?_cons, if_pos rfl, ih h]
      simp only [setEntry, if_true]
    · cases h
    · rw [makeDirectories, List.cons_append, write, write, child?_setEntry, if_pos rfl, ih h]
      simp only [setEntry_setEntry]

/-- Directories were made only if the file can be written into them. -/
theorem eq_makeDirectories_of_write {dirs : List String} {fault : WriteFault}
    (h : (makeDirectories dirs tree).2 = .ok ()) {name : String}
    (hwrite : write content (dirs ++ [name]) tree = .error fault) :
    tree = some (makeDirectories dirs tree).1 := by
  induction dirs generalizing tree with
  | nil =>
    rcases tree with _ | _ | entries
    · cases hwrite
    · cases h
    · rfl
  | cons first rest ih =>
    rcases tree with _ | _ | entries
    -- Where a directory is missing, nothing can stand in the way any more.
    · obtain ⟨later, hlater⟩ := exists_write_none content ((first :: rest) ++ [name])
      cases hlater.symm.trans hwrite
    · cases h
    · rw [List.cons_append, write] at hwrite
      have hbelow : write content (rest ++ [name]) (child? first entries) = .error fault := by
        cases hresult : write content (rest ++ [name]) (child? first entries) with
        | error other =>
          rw [hresult] at hwrite
          exact hwrite
        | ok below =>
          rw [hresult] at hwrite
          cases hwrite
      simp only [makeDirectories, setEntry_of_child? (ih h hbelow)]

/-! ## The file -/

/-- In stages a file is written as at once, and a stage that fails leaves the tree as it was. -/
theorem writeInStages_eq (content : Bytes) (path : List String) (tree : Option Tree) :
    writeInStages content path tree = match write content path tree with
      | .error fault => (tree, .error fault)
      | .ok later => (some later, .ok ()) := by
  obtain rfl | ⟨dirs, name, hpath⟩ := List.eq_nil_or_concat path
  · rfl
  · rw [List.concat_eq_append] at hpath
    subst hpath
    have hway : makeWay (dirs ++ [name]) tree =
        (some (makeDirectories dirs tree).1, (makeDirectories dirs tree).2) := by
      rw [makeWay, if_neg (by simp), List.dropLast_concat]
    rw [writeInStages, hway]
    cases hmade : (makeDirectories dirs tree).2 with
    | error fault =>
      obtain ⟨htree, hwrite⟩ := write_of_makeDirectories_error hmade content name
      rw [hwrite, ← htree]
    | ok =>
      dsimp only
      rw [write_makeDirectories hmade]
      cases hwrite : write content (dirs ++ [name]) tree with
      | error fault => rw [← eq_makeDirectories_of_write hmade hwrite]
      | ok later => rfl

end EmailStudio.Tree
