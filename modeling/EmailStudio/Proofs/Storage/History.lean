import EmailStudio.Proofs.Storage.Calls

/-!
# What a store on disk holds

A store is worked with in steps: calls, and tests of its root. Keys of one place name one file. The
main result is `LocalStore.maps_places`: after any steps from an empty root, a key finds what the
latest call left at its place that wrote or removed a file there; a step that fails leaves
everything as it was, and getting and testing change no file.
-/

namespace EmailStudio.LocalStore

/-- A step of work with a store. -/
inductive Step where
  | call (call : Call)
  | test

/-- Does a step. -/
def step (store : LocalStore) : Step → LocalStore × Except StorageFault Reply
  | .call call => store.call call
  | .test => (store.test.1, .ok (.tested store.test.2.1 store.test.2.2))

/-- The store after some steps. -/
def after (store : LocalStore) : List Step → LocalStore
  | [] => store
  | step :: steps => (store.step step).1.after steps

/-- Steps and what each of them gave. -/
def history (store : LocalStore) : List Step → List (Step × Except StorageFault Reply)
  | [] => []
  | step :: steps => (step, (store.step step).2) :: (store.step step).1.history steps

/-- What a step left at a place, if it is a call that wrote or removed a file there. -/
def left? (store : LocalStore) (place : List String) :
    Step × Except StorageFault Reply → Option (Option Bytes)
  | (.call call, reply) => store.leaves? place call reply
  | (.test, _) => none

/-- What the latest call left at a place of those that wrote or removed a file there. -/
def latest? (store : LocalStore) (place : List String)
    (history : List (Step × Except StorageFault Reply)) : Option Bytes :=
  (history.reverse.findSome? (store.left? place)).join

/-- A step that has nothing to do with the file that tests are made with. -/
def SparesProbe (store : LocalStore) : Step → Prop
  | .call call => store.resolve call.key ≠ .ok [probeName]
  | .test => True

instance (store : LocalStore) : DecidablePred store.SparesProbe
  | .call call => inferInstanceAs (Decidable (store.resolve call.key ≠ .ok [probeName]))
  | .test => inferInstanceAs (Decidable True)

variable {store other : LocalStore} {place : List String}

/-! ## Tests -/

/-- A file that is written for a test is gone after it, and no other file is touched. -/
theorem fileAt?_probed {content : Bytes} {root probed : Tree} {path : List String}
    (h : Tree.write content path (some root) = .ok probed) (hnone : Tree.fileAt? path root = none)
    (place : List String) :
    (probed.remove path).bind (Tree.fileAt? place) = root.fileAt? place := by
  have hfile : Tree.fileAt? path probed = some content := by
    rw [Tree.fileAt?_write h, if_pos rfl]
  rw [Tree.fileAt?_remove hfile, Tree.fileAt?_write h]
  by_cases hplace : place = path
  · rw [if_pos hplace, hplace, hnone]
  · rw [if_neg hplace, if_neg hplace, Option.bind_some]

theorem fileAt?_empty (place : List String) : Tree.fileAt? place (.directory []) = none := by
  cases place <;> rfl

/-- What lies at the root, or an empty directory that is made there. -/
def rootTree (store : LocalStore) : Tree :=
  store.tree.getD (.directory [])

theorem fileAt?_rootTree (store : LocalStore) (place : List String) :
    store.rootTree.fileAt? place = store.file? place := by
  rw [rootTree, file?]
  cases store.tree with
  | none => exact fileAt?_empty place
  | some => rfl

/-- A test leaves everything as it is, or writes a file at the root and removes it again. -/
theorem test_cases (store : LocalStore) : store.test.1 = store ∨
    ∃ content probed, Tree.write content [probeName] (some store.rootTree) = .ok probed ∧
      store.test.1 = { store with tree := probed.remove [probeName] } := by
  unfold test rootTree
  dsimp only
  split
  · exact .inl rfl
  · split
    · exact .inl rfl
    · rename_i probed hprobed
      exact .inr ⟨_, probed, hprobed, rfl⟩

/-- A test changes no file, if there is none with the name of the probe. -/
theorem file?_test (hprobe : store.file? [probeName] = none) (place : List String) :
    store.test.1.file? place = store.file? place := by
  obtain htest | ⟨content, probed, hwrite, htest⟩ := test_cases store
  · rw [htest]
  · rw [← fileAt?_rootTree store] at hprobe
    rw [← fileAt?_rootTree store place, htest]
    exact fileAt?_probed hwrite hprobe place

/-! ## Steps -/

theorem root_step (store : LocalStore) (step : Step) : (store.step step).1.root = store.root := by
  cases step with
  | call call => exact root_call store call
  | test =>
    show store.test.1.root = store.root
    obtain htest | ⟨_, _, -, htest⟩ := test_cases store <;> rw [htest]

theorem sparesProbe_congr (h : store.root = other.root) {step : Step}
    (hstep : other.SparesProbe step) : store.SparesProbe step := by
  cases step with
  | test => trivial
  | call call =>
    rw [SparesProbe, resolve_congr h]
    exact hstep

theorem left?_congr (h : store.root = other.root) (place : List String) :
    store.left? place = other.left? place := by
  funext entry
  obtain ⟨call | _, reply⟩ := entry
  · cases call <;> cases reply <;> simp only [left?, leaves?, resolve_congr h]
  · rfl

/-- What a step leaves at a place whose key it does not have. -/
theorem left?_of_ne {step : Step}
    (h : ∀ call, step = .call call → store.resolve call.key ≠ .ok place)
    (reply : Except StorageFault Reply) : store.left? place (step, reply) = none := by
  cases step with
  | test => rfl
  | call call =>
    have hne := h call rfl
    cases call <;> cases reply <;> first | rfl | exact if_neg hne

theorem file?_step (hprobe : store.file? [probeName] = none) (step : Step) (place : List String) :
    (store.step step).1.file? place =
      (store.left? place (step, (store.step step).2)).getD (store.file? place) := by
  cases step with
  | call call => exact file?_call store call place
  | test => exact file?_test hprobe place

theorem file?_probe_step (hprobe : store.file? [probeName] = none) {step : Step}
    (h : store.SparesProbe step) : (store.step step).1.file? [probeName] = none := by
  have hleft : store.left? [probeName] (step, (store.step step).2) = none :=
    left?_of_ne (fun call hcall => by subst hcall; exact h) _
  rw [file?_step hprobe, hleft, Option.getD_none, hprobe]

/-! ## Histories -/

/-- After steps there is at every place what the latest of them left there, or else what was there
before. -/
theorem file?_after {steps : List Step} (hprobe : store.file? [probeName] = none)
    (h : ∀ step ∈ steps, store.SparesProbe step) (place : List String) :
    (store.after steps).file? place =
      ((store.history steps).reverse.findSome? (store.left? place)).getD (store.file? place) := by
  induction steps generalizing store with
  | nil => rfl
  | cons step steps ih =>
    obtain ⟨hstep, h⟩ := List.forall_mem_cons.1 h
    -- Keys lead to the same places in the store after the step, for it has the same root.
    have hroot := root_step store step
    have hspares : ∀ next ∈ steps, (store.step step).1.SparesProbe next :=
      fun next hnext => sparesProbe_congr hroot (h next hnext)
    rw [after, ih (file?_probe_step hprobe hstep) hspares, file?_step hprobe, history,
      left?_congr hroot, List.reverse_cons, List.findSome?_append, Option.getD_or]
    simp only [List.findSome?_cons, List.findSome?_nil]
    cases store.left? place (step, (store.step step).2) <;> rfl

theorem file?_probe_after {steps : List Step} (hprobe : store.file? [probeName] = none)
    (h : ∀ step ∈ steps, store.SparesProbe step) :
    (store.after steps).file? [probeName] = none := by
  induction steps generalizing store with
  | nil => exact hprobe
  | cons step steps ih =>
    obtain ⟨hstep, h⟩ := List.forall_mem_cons.1 h
    exact ih (file?_probe_step hprobe hstep)
      fun next hnext => sparesProbe_congr (root_step store step) (h next hnext)

theorem root_after (store : LocalStore) (steps : List Step) :
    (store.after steps).root = store.root := by
  induction steps generalizing store with
  | nil => rfl
  | cons step steps ih => rw [after, ih, root_step]

/-- A store that was empty holds the files that its history says, and nothing that fails changes
them. -/
structure MapsPlaces (store later : LocalStore)
    (history : List (Step × Except StorageFault Reply)) : Prop where
  /-- A key that leads to a place finds what was left there. -/
  get : ∀ key place, store.resolve key = .ok place →
    later.get key = match store.latest? place history with
      | some content => .ok ⟨place, (store.root ++ place).getLast?.getD "", content⟩
      | none => .error (.missing key)
  /-- A key that leads nowhere below the root is refused. -/
  refused : ∀ key fault, store.resolve key = .error fault → later.get key = .error fault
  /-- A step that fails leaves everything as it is. -/
  failed : ∀ step fault, (later.step step).2 = .error fault → (later.step step).1 = later
  /-- If an image is saved in stages, they leave behind nothing but what saving leaves. -/
  staged : ∀ key content, later.saveInStages key content = later.step (.call (.save key content))
  /-- Neither getting an image nor a test changes a file. -/
  kept : ∀ key place, (later.step (.call (.get key))).1.file? place = later.file? place ∧
    (later.step .test).1.file? place = later.file? place
  /-- Saving succeeds where no file stands in the way and no directory lies. -/
  saved : ∀ key content, (∃ reply, (later.step (.call (.save key content))).2 = .ok reply) ↔
    ∃ place, store.resolve key = .ok place ∧
      (∀ front, front <+: place → front ≠ place → later.file? front = none) ∧
      ∀ entries, later.tree.bind (Tree.at? place) ≠ some (.directory entries)

/-- After any steps from an empty root that spare the probe, a store on disk is a map from places to
contents, and a step that fails, a test or getting an image changes nothing in it. -/
theorem maps_places {steps : List Step}
    (hempty : store.tree = none ∨ store.tree = some (.directory []))
    (h : ∀ step ∈ steps, store.SparesProbe step) :
    store.MapsPlaces (store.after steps) (store.history steps) := by
  have hnone (place : List String) : store.file? place = none := by
    obtain htree | htree := hempty
    · rw [file?, htree, Option.bind_none]
    · rw [file?, htree, Option.bind_some, fileAt?_empty]
  have hroot := root_after store steps
  have hfiles (place : List String) : (store.after steps).file? place =
      store.latest? place (store.history steps) := by
    rw [file?_after (hnone _) h, hnone, latest?]
    cases (store.history steps).reverse.findSome? (store.left? place) <;> rfl
  have hprobe := file?_probe_after (hnone _) h
  constructor
  case get =>
    intro key place hplace
    rw [← resolve_congr hroot] at hplace
    rw [get_of_resolve hplace, hfiles, hroot]
    cases store.latest? place (store.history steps) <;> rfl
  case refused =>
    intro key fault hfault
    rw [← resolve_congr hroot] at hfault
    rw [LocalStore.get, hfault]
    rfl
  case failed =>
    intro step fault hfault
    cases step with
    | call call => exact call_of_error hfault
    | test => cases hfault
  case staged =>
    intro key content
    exact saveInStages_eq _ key content
  case kept =>
    intro key place
    exact ⟨rfl, file?_test hprobe place⟩
  case saved =>
    intro key content
    rw [← resolve_congr hroot]
    exact exists_save_iff _ key content

/-- A store whose root directory is called by what it holds. -/
def imagesAt (tree : Option Tree) : LocalStore :=
  ⟨["work", "images"], "images", "http://host", tree⟩

theorem resolve_imagesAt (tree : Option Tree) :
    (imagesAt tree).resolve "a.png" = .ok ["a.png"] ∧
    (imagesAt tree).resolve "./x/../a.png" = .ok ["a.png"] ∧
    (imagesAt tree).resolve "a.png/b" = .ok ["a.png", "b"] ∧
    (imagesAt tree).resolve "../images.png" = .error .outside := by
  have hroot (key : String) : (imagesAt tree).resolve key = (imagesAt none).resolve key :=
    resolve_congr rfl key
  rw [hroot, hroot, hroot, hroot, resolve_eq, resolve_eq, resolve_eq, resolve_eq]
  decide +kernel

/-- A key is found under another spelling, and what could not be saved below it is not. -/
theorem maps_places_respelled :
    let steps : List Step := [.call (.save "a.png" [1]), .test, .call (.save "a.png/b" [2])]
    ((imagesAt none).after steps).get "./x/../a.png" = .ok ⟨["a.png"], "a.png", [1]⟩ ∧
    ((imagesAt none).after steps).get "a.png/b" = .error (.missing "a.png/b") ∧
    ((imagesAt none).after steps).get "../images.png" = .error .outside := by
  intro steps
  obtain ⟨hdirect, hdetour, hbelow, houtside⟩ := resolve_imagesAt none
  have hspares : ∀ step ∈ steps, (imagesAt none).SparesProbe step := by
    simp [steps, SparesProbe, Call.key, hdirect, hbelow, probeName]
  have hmaps := maps_places (.inl rfl) hspares
  have hsaved : (imagesAt none).call (.save "a.png" [1]) =
      (imagesAt (some (.directory [("a.png", .file [1])])),
        .ok (.saved ((imagesAt none).urlFor "a.png"))) := by
    rw [call_save, hdirect]
    rfl
  have hfailed : (imagesAt (some (.directory [("a.png", .file [1])]))).call (.save "a.png/b" [2]) =
      (imagesAt (some (.directory [("a.png", .file [1])])), .error (.write .parentIsFile)) := by
    rw [call_save, (resolve_imagesAt _).2.2.1]
    rfl
  have htested : (imagesAt (some (.directory [("a.png", .file [1])]))).test =
      (imagesAt (some (.directory [("a.png", .file [1])])), true,
        "Local storage is writable at 'images'.") := rfl
  have hhistory : (imagesAt none).history steps =
      [(.call (.save "a.png" [1]), .ok (.saved ((imagesAt none).urlFor "a.png"))),
       (.test, .ok (.tested true "Local storage is writable at 'images'.")),
       (.call (.save "a.png/b" [2]), .error (.write .parentIsFile))] := by
    simp only [steps, history, step, hsaved, htested, hfailed]
  have hlatest (place : List String) :
      (imagesAt none).latest? place ((imagesAt none).history steps) =
        if ["a.png"] = place then some [1] else none := by
    rw [hhistory]
    simp only [latest?, left?, leaves?, hdirect, List.reverse_cons, List.reverse_nil,
      List.nil_append, List.cons_append, List.findSome?_cons, List.findSome?_nil, Except.ok.injEq]
    split_ifs <;> rfl
  refine ⟨(hmaps.get _ _ hdetour).trans ?_, (hmaps.get _ _ hbelow).trans ?_,
    hmaps.refused _ _ houtside⟩
  · rw [hlatest]
    rfl
  · rw [hlatest]
    rfl

end EmailStudio.LocalStore
