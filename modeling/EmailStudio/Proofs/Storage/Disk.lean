import EmailStudio.Proofs.Storage.Calls

/-!
# A store on a whole disk

A store knows only what lies at its root. Here its calls are made on the disk as a whole, by the
paths from the top that its keys lead to. The main result is `LocalStore.keepsBelow_runOn`: no call
touches a file that does not lie at the root or below it, and what calls do and give depends on
nothing else. Where the way to the root is free, they do to what lies there what they do to a store
that knows nothing else; where a file stands on that way, all of them fail.
-/

namespace EmailStudio.LocalStore

/-- The path from the top that a key leads to. -/
def path (store : LocalStore) (key : String) : Except StorageFault (List String) :=
  if key.contains '\x00' then .error .nullCharacter
  else
    let path := Path.absolute store.root key
    if store.root.isPrefixOf path then .ok path else .error .outside

/-- Makes a call on a disk. Saving keeps the directories that were made before it failed. -/
def callOn (store : LocalStore) (disk : Option Tree) :
    Call → Option Tree × Except StorageFault Reply
  | .save key content =>
    match store.path key with
    | .error fault => (disk, .error fault)
    | .ok path =>
      match Tree.writeInStages content path disk with
      | (later, .error fault) => (later, .error (.write fault))
      | (later, .ok ()) => (later, .ok (.saved (store.urlFor key)))
  | .get key =>
    match store.path key with
    | .error fault => (disk, .error fault)
    | .ok path =>
      match disk.bind (Tree.fileAt? path) with
      | none => (disk, .error (.missing key))
      | some content => (disk, .ok (.found ⟨path, path.getLast?.getD "", content⟩))
  | .delete key =>
    match store.path key with
    | .error fault => (disk, .error fault)
    | .ok path =>
      match disk.bind (Tree.fileAt? path) with
      | none => (disk, .error (.missing key))
      | some _ => (disk.bind (Tree.remove path), .ok .deleted)

/-- The disk after some calls, and what each of them gave. -/
def runOn (store : LocalStore) (disk : Option Tree) :
    List Call → Option Tree × List (Except StorageFault Reply)
  | [] => (disk, [])
  | call :: calls =>
    let later := store.runOn (store.callOn disk call).1 calls
    (later.1, (store.callOn disk call).2 :: later.2)

/-- A store that knows what lies at its root on a disk, and nothing else. -/
def mounted (store : LocalStore) (disk : Option Tree) : LocalStore :=
  { store with tree := disk.bind (Tree.at? store.root) }

/-- What a store with some root gives, told by paths from the top. -/
def Reply.below (root : List String) : Reply → Reply
  | found file => found { file with path := root ++ file.path }
  | reply => reply

variable {store : LocalStore} {disk : Option Tree} {key : String} {place : List String}
  {content : Bytes} {call : Call} {result : Option Tree × Except StorageFault Reply}

/-! ## Paths -/

theorem path_eq (store : LocalStore) (key : String) :
    store.path key = (store.resolve key).map (store.root ++ ·) := by
  unfold path resolve
  dsimp only
  split
  · rfl
  · split
    · rename_i hroot
      have hprefix := List.isPrefixOf_iff_prefix.1 hroot
      exact congrArg Except.ok (List.prefix_iff_eq_append.1 hprefix).symm
    · rfl

/-- Where a key leads: to the root or below it, by plain names, or nowhere. -/
inductive Leads (store : LocalStore) (key : String) : Prop
  | below {place : List String} (resolve : store.resolve key = .ok place)
      (path : store.path key = .ok (store.root ++ place))
      (absolute : Path.absolute store.root key = store.root ++ place)
      (plain : ∀ name ∈ store.root ++ place, Path.IsPlain name)
  | outside (path : store.path key = .error .outside)
      (escapes : ¬store.root <+: Path.absolute store.root key)
  | null (path : store.path key = .error .nullCharacter) (null : '\x00' ∈ key.toList)

/-- Every key leads to a root of plain names or below it, or it is refused. -/
theorem leads (hroot : ∀ name ∈ store.root, Path.IsPlain name) (key : String) : store.Leads key := by
  have hpath : store.path key = if '\x00' ∈ key.toList then .error .nullCharacter
      else if store.root <+: Path.absolute store.root key then .ok (Path.absolute store.root key)
      else .error .outside := by
    simp only [path, String.contains_char_eq, decide_eq_true_iff, List.isPrefixOf_iff_prefix]
  by_cases hnull : '\x00' ∈ key.toList
  · exact .null (hpath.trans (if_pos hnull)) hnull
  rw [if_neg hnull] at hpath
  by_cases hbelow : store.root <+: Path.absolute store.root key
  · obtain ⟨place, hplace⟩ := hbelow
    rw [← hplace, if_pos (List.prefix_append _ _)] at hpath
    refine .below ?_ hpath hplace.symm fun name hname => ?_
    · rw [path_eq] at hpath
      obtain ⟨other, hother, heq⟩ := Outcome.map_eq_ok_iff.1 hpath
      rw [hother, List.append_cancel_left heq]
    · rw [hplace] at hname
      exact Path.isPlain_absolute hroot key name hname
  · exact .outside (hpath.trans (if_neg hbelow)) hbelow

/-! ## What a call on a disk can do -/

/-- The ways in which a call on a disk can end. -/
inductive EndsOn (store : LocalStore) (disk : Option Tree) :
    Call → Option Tree × Except StorageFault Reply → Prop
  | failed {call : Call} {fault : StorageFault} : EndsOn store disk call (disk, .error fault)
  | found {key : String} {place : List String} {content : Bytes}
      (file : disk.bind (Tree.fileAt? (store.root ++ place)) = some content) :
      EndsOn store disk (.get key) (disk, .ok (.found
        ⟨store.root ++ place, (store.root ++ place).getLast?.getD "", content⟩))
  | saved {key : String} {content : Bytes} {place : List String} {tree : Tree}
      (write : Tree.write content (store.root ++ place) disk = .ok tree) :
      EndsOn store disk (.save key content) (some tree, .ok (.saved (store.urlFor key)))
  | deleted {key : String} {content : Bytes} {place : List String} {tree : Tree}
      (holds : disk = some tree) (file : Tree.fileAt? (store.root ++ place) tree = some content) :
      EndsOn store disk (.delete key) (tree.remove (store.root ++ place), .ok .deleted)

theorem callOn_save (store : LocalStore) (disk : Option Tree) (key : String) (content : Bytes) :
    store.callOn disk (.save key content) = match store.resolve key with
      | .error fault => (disk, .error fault)
      | .ok place =>
        match Tree.write content (store.root ++ place) disk with
        | .error fault => (disk, .error (.write fault))
        | .ok tree => (some tree, .ok (.saved (store.urlFor key))) := by
  rw [callOn, path_eq]
  cases store.resolve key with
  | error fault => rfl
  | ok place =>
    dsimp only [Except.map]
    rw [Tree.writeInStages_eq]
    cases Tree.write content (store.root ++ place) disk <;> rfl

theorem callOn_get (store : LocalStore) (disk : Option Tree) (key : String) :
    store.callOn disk (.get key) = match store.resolve key with
      | .error fault => (disk, .error fault)
      | .ok place =>
        match disk.bind (Tree.fileAt? (store.root ++ place)) with
        | none => (disk, .error (.missing key))
        | some content => (disk, .ok (.found
            ⟨store.root ++ place, (store.root ++ place).getLast?.getD "", content⟩)) := by
  rw [callOn, path_eq]
  cases store.resolve key <;> rfl

theorem callOn_delete (store : LocalStore) (disk : Option Tree) (key : String) :
    store.callOn disk (.delete key) = match store.resolve key with
      | .error fault => (disk, .error fault)
      | .ok place =>
        match disk.bind (Tree.fileAt? (store.root ++ place)) with
        | none => (disk, .error (.missing key))
        | some _ => (disk.bind (Tree.remove (store.root ++ place)), .ok .deleted) := by
  rw [callOn, path_eq]
  cases store.resolve key <;> rfl

theorem endsOn_callOn (store : LocalStore) (disk : Option Tree) (call : Call) :
    store.EndsOn disk call (store.callOn disk call) := by
  cases call with
  | save key content =>
    rw [callOn_save]
    cases store.resolve key with
    | error => exact .failed
    | ok place =>
      dsimp only
      cases hwrite : Tree.write content (store.root ++ place) disk with
      | error => exact .failed
      | ok tree => exact .saved hwrite
  | get key =>
    rw [callOn_get]
    cases store.resolve key with
    | error => exact .failed
    | ok place =>
      dsimp only
      cases hfile : disk.bind (Tree.fileAt? (store.root ++ place)) with
      | none => exact .failed
      | some content => exact .found hfile
  | delete key =>
    rw [callOn_delete]
    cases store.resolve key with
    | error => exact .failed
    | ok place =>
      dsimp only
      cases hfile : disk.bind (Tree.fileAt? (store.root ++ place)) with
      | none => exact .failed
      | some content =>
        obtain ⟨tree, rfl, hcontent⟩ := Option.bind_eq_some_iff.1 hfile
        exact .deleted rfl hcontent

namespace EndsOn

/-- A file that does not lie at the root or below it stays as it is. -/
theorem fileAt? (h : store.EndsOn disk call result) {path : List String}
    (hpath : ¬store.root <+: path) :
    result.1.bind (Tree.fileAt? path) = disk.bind (Tree.fileAt? path) := by
  have hne (place : List String) : path ≠ store.root ++ place := by
    rintro rfl
    exact hpath (List.prefix_append _ _)
  cases h with
  | failed | found => rfl
  | saved write => rw [Option.bind_some, Tree.fileAt?_write write, if_neg (hne _)]
  | deleted holds file => rw [Tree.fileAt?_remove file, if_neg (hne _), holds, Option.bind_some]

/-- No file comes to stand on the way to the root, and none is taken off it. -/
theorem hasWay_iff (h : store.EndsOn disk call result) :
    Tree.HasWay store.root result.1 ↔ Tree.HasWay store.root disk := by
  refine forall_congr' fun front => forall₂_congr fun hfront hne => ?_
  rw [h.fileAt? fun hroot => hne (hfront.eq_of_length_le hroot.length_le)]

/-- A call that succeeds finds the way to the root free. -/
theorem hasWay (h : store.EndsOn disk call result) {reply : Reply} (hok : result.2 = .ok reply) :
    Tree.HasWay store.root disk := by
  cases h with
  | failed => cases hok
  | found file =>
    obtain ⟨tree, rfl, hfile⟩ := Option.bind_eq_some_iff.1 file
    rw [Tree.fileAt?_append] at hfile
    obtain ⟨below, hbelow, -⟩ := Option.bind_eq_some_iff.1 hfile
    exact Tree.hasWay_of_at? hbelow
  | saved write => exact (Tree.exists_write_iff.1 ⟨_, write⟩).1.of_append
  | deleted holds file =>
    rw [Tree.fileAt?_append] at file
    obtain ⟨below, hbelow, -⟩ := Option.bind_eq_some_iff.1 file
    exact holds ▸ Tree.hasWay_of_at? hbelow

end EndsOn

/-! ## What lies at the root -/

theorem file?_mounted (store : LocalStore) (disk : Option Tree) (place : List String) :
    (store.mounted disk).file? place = disk.bind (Tree.fileAt? (store.root ++ place)) := by
  cases disk with
  | none => rfl
  | some tree => exact (Tree.fileAt?_append store.root place tree).symm

theorem resolve_mounted (store : LocalStore) (disk : Option Tree) (key : String) :
    (store.mounted disk).resolve key = store.resolve key :=
  resolve_congr rfl key

/-- A call on a disk does to what lies at the root what it does to a store that knows nothing else,
and gives the same. -/
theorem callOn_eq (hway : Tree.HasWay store.root disk) (call : Call) :
    ((store.mounted disk).call call).1 = store.mounted (store.callOn disk call).1 ∧
    (store.callOn disk call).2 =
      ((store.mounted disk).call call).2.map (Reply.below store.root) := by
  cases call with
  | save key content =>
    rw [call_save, callOn_save, resolve_mounted]
    cases store.resolve key with
    | error => exact ⟨rfl, rfl⟩
    | ok place =>
      obtain ⟨herror, hok⟩ := Tree.write_append content place hway
      dsimp only [mounted]
      cases hwrite : Tree.write content place (disk.bind (Tree.at? store.root)) with
      | error fault =>
        rw [herror fault hwrite]
        exact ⟨rfl, rfl⟩
      | ok below =>
        obtain ⟨later, hlater, hat⟩ := hok below hwrite
        rw [hlater]
        exact ⟨by rw [Option.bind_some, hat], rfl⟩
  | get key =>
    rw [LocalStore.call, callOn_get]
    cases hplace : store.resolve key with
    | error fault =>
      rw [LocalStore.get, resolve_mounted, hplace]
      exact ⟨rfl, rfl⟩
    | ok place =>
      rw [get_of_resolve ((resolve_mounted store disk key).trans hplace), file?_mounted]
      dsimp only
      cases disk.bind (Tree.fileAt? (store.root ++ place)) <;> exact ⟨rfl, rfl⟩
  | delete key =>
    rw [call_delete, callOn_delete, resolve_mounted]
    cases store.resolve key with
    | error => exact ⟨rfl, rfl⟩
    | ok place =>
      dsimp only
      rw [file?_mounted]
      cases hfile : disk.bind (Tree.fileAt? (store.root ++ place)) with
      | none => exact ⟨rfl, rfl⟩
      | some content =>
        obtain ⟨tree, rfl, hcontent⟩ := Option.bind_eq_some_iff.1 hfile
        dsimp only [mounted, Option.bind_some]
        rw [Tree.remove_append hcontent]
        exact ⟨rfl, rfl⟩

/-! ## Runs -/

/-- Calls touch no file that does not lie at the root or below it, and depend on none. -/
structure KeepsBelow (store : LocalStore) (disk : Option Tree) (calls : List Call) : Prop where
  /-- No other file is written or removed. -/
  untouched : ∀ path, ¬store.root <+: path →
    (store.runOn disk calls).1.bind (Tree.fileAt? path) = disk.bind (Tree.fileAt? path)
  /-- A file that is found lies at the root or below it. -/
  found : ∀ file, .ok (.found file) ∈ (store.runOn disk calls).2 → store.root <+: file.path
  /-- Where the way to the root is free, everything goes as if there were nothing else, so that no
  other file is read. -/
  alone : Tree.HasWay store.root disk →
    ((store.mounted disk).run calls).1 = store.mounted (store.runOn disk calls).1 ∧
    (store.runOn disk calls).2 =
      ((store.mounted disk).run calls).2.map (Except.map (Reply.below store.root))
  /-- Where a file stands on that way, nothing can be done. -/
  blocked : ¬Tree.HasWay store.root disk → (store.runOn disk calls).1 = disk ∧
    ∀ reply ∈ (store.runOn disk calls).2, ∃ fault, reply = .error fault

theorem fileAt?_runOn (store : LocalStore) (calls : List Call) {path : List String}
    (hpath : ¬store.root <+: path) (disk : Option Tree) :
    (store.runOn disk calls).1.bind (Tree.fileAt? path) = disk.bind (Tree.fileAt? path) := by
  induction calls generalizing disk with
  | nil => rfl
  | cons call calls ih =>
    exact (ih (store.callOn disk call).1).trans ((endsOn_callOn store disk call).fileAt? hpath)

theorem prefix_of_found (store : LocalStore) (calls : List Call) {file : FoundFile}
    (disk : Option Tree) (h : .ok (.found file) ∈ (store.runOn disk calls).2) :
    store.root <+: file.path := by
  induction calls generalizing disk with
  | nil => cases h
  | cons call calls ih =>
    obtain hfile | h := List.mem_cons.1 h
    · have hends := endsOn_callOn store disk call
      generalize store.callOn disk call = result at hends hfile
      cases hends with
      | failed | saved | deleted => cases hfile
      | found =>
        cases hfile
        exact List.prefix_append _ _
    · exact ih _ h

theorem runOn_eq (calls : List Call) (hway : Tree.HasWay store.root disk) :
    ((store.mounted disk).run calls).1 = store.mounted (store.runOn disk calls).1 ∧
    (store.runOn disk calls).2 =
      ((store.mounted disk).run calls).2.map (Except.map (Reply.below store.root)) := by
  induction calls generalizing disk with
  | nil => exact ⟨rfl, rfl⟩
  | cons call calls ih =>
    obtain ⟨hlater, hreply⟩ := callOn_eq hway call
    -- The way stays free for the calls that follow, as no file on it lies below the root.
    obtain ⟨htree, hreplies⟩ := ih ((endsOn_callOn store disk call).hasWay_iff.2 hway)
    dsimp only [runOn, run]
    rw [hlater, hreply, hreplies, List.map_cons]
    exact ⟨htree, rfl⟩

theorem runOn_of_not_hasWay (calls : List Call) (hway : ¬Tree.HasWay store.root disk) :
    (store.runOn disk calls).1 = disk ∧
      ∀ reply ∈ (store.runOn disk calls).2, ∃ fault, reply = .error fault := by
  have hfails (call : Call) : ∃ fault, store.callOn disk call = (disk, .error fault) := by
    have hends := endsOn_callOn store disk call
    cases hreply : (store.callOn disk call).2 with
    | ok reply => exact absurd (hends.hasWay hreply) hway
    | error fault =>
      generalize store.callOn disk call = result at hends hreply
      cases hends with
      | failed => exact ⟨_, rfl⟩
      | found | saved | deleted => cases hreply
  induction calls with
  | nil => exact ⟨rfl, fun _ h => absurd h List.not_mem_nil⟩
  | cons call calls ih =>
    obtain ⟨fault, hfault⟩ := hfails call
    rw [runOn, hfault]
    exact ⟨ih.1, List.forall_mem_cons.2 ⟨⟨fault, rfl⟩, ih.2⟩⟩

/-- Whatever the disk holds and whatever the keys are, calls keep to the root and what is below it. -/
theorem keepsBelow_runOn (store : LocalStore) (disk : Option Tree) (calls : List Call) :
    store.KeepsBelow disk calls where
  untouched _ hpath := fileAt?_runOn store calls hpath disk
  found _ hfile := prefix_of_found store calls disk hfile
  alone hway := runOn_eq calls hway
  blocked hway := runOn_of_not_hasWay calls hway

end EmailStudio.LocalStore
