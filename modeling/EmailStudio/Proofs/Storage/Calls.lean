import EmailStudio.Proofs.Storage.Local
import EmailStudio.Proofs.Storage.Stages

/-!
# Calls to a store on disk

Images are saved, got and deleted by their keys. By `LocalStore.file?_call` a call that succeeds
writes or removes the file at the place of its key, and apart from that no call changes a file. A
call that fails leaves the store as it was, also if an image is saved in stages.
-/

namespace EmailStudio.LocalStore

/-- A call to a store of images. -/
inductive Call where
  | save (key : String) (content : Bytes)
  | get (key : String)
  | delete (key : String)

/-- The key that a call is about. -/
def Call.key : Call → String
  | save key _ | get key | delete key => key

/-- What a call gives. -/
inductive Reply where
  | saved (url : String)
  | found (file : FoundFile)
  | deleted
  | tested (isWritable : Bool) (message : String)

/-- Makes a call. A store whose call fails is left as it is. -/
def call (store : LocalStore) : Call → LocalStore × Except StorageFault Reply
  | .save key content =>
    match store.save key content with
    | .error fault => (store, .error fault)
    | .ok (later, url) => (later, .ok (.saved url))
  | .get key => (store, (store.get key).map .found)
  | .delete key =>
    match store.delete key with
    | .error fault => (store, .error fault)
    | .ok later => (later, .ok .deleted)

/-- What calls leave behind, and what each of them gives. -/
def run (store : LocalStore) : List Call → LocalStore × List (Except StorageFault Reply)
  | [] => (store, [])
  | call :: calls =>
    let after := (store.call call).1.run calls
    (after.1, (store.call call).2 :: after.2)

/-- Saves an image in stages, each of which leaves behind what it did. -/
def saveInStages (store : LocalStore) (key : String) (content : Bytes) :
    LocalStore × Except StorageFault Reply :=
  match store.resolve key with
  | .error fault => (store, .error fault)
  | .ok path =>
    match Tree.writeInStages content path store.tree with
    | (tree, .error fault) => ({ store with tree := tree }, .error (.write fault))
    | (tree, .ok ()) => ({ store with tree := tree }, .ok (.saved (store.urlFor key)))

variable {store later : LocalStore} {key : String} {place : List String} {content : Bytes}

/-! ## Places -/

/-- Where a key leads depends on the root alone. -/
theorem resolve_congr {other : LocalStore} (h : store.root = other.root) (key : String) :
    store.resolve key = other.resolve key := by
  unfold resolve
  rw [h]

theorem save_of_resolve_error {fault : StorageFault} (h : store.resolve key = .error fault)
    (content : Bytes) : store.save key content = .error fault := by
  rw [save, h]
  rfl

theorem save_of_resolve (h : store.resolve key = .ok place) (content : Bytes) :
    store.save key content = match Tree.write content place store.tree with
      | .error fault => .error (.write fault)
      | .ok tree => .ok ({ store with tree := some tree }, store.urlFor key) := by
  simp only [save, h, bind, Except.bind]
  cases Tree.write content place store.tree <;> rfl

theorem delete_of_resolve_error {fault : StorageFault} (h : store.resolve key = .error fault) :
    store.delete key = .error fault := by
  rw [delete, h]
  rfl

theorem delete_of_resolve (h : store.resolve key = .ok place) :
    store.delete key = match store.file? place with
      | none => .error (.missing key)
      | some _ => .ok { store with tree := store.tree.bind (Tree.remove place) } := by
  simp only [delete, h, bind, Except.bind, file?]
  cases store.tree.bind (Tree.fileAt? place) <;> rfl

theorem get_of_resolve (h : store.resolve key = .ok place) :
    store.get key = match store.file? place with
      | none => .error (.missing key)
      | some content => .ok ⟨place, (store.root ++ place).getLast?.getD "", content⟩ := by
  simp only [get, h, bind, Except.bind, file?]
  cases store.tree.bind (Tree.fileAt? place) <;> rfl

/-! ## What a call can do -/

/-- The ways in which a call can end. -/
inductive Ends (store : LocalStore) : Call → LocalStore × Except StorageFault Reply → Prop
  | failed {call : Call} {fault : StorageFault} : Ends store call (store, .error fault)
  | found {key : String} {file : FoundFile} (get : store.get key = .ok file) :
      Ends store (.get key) (store, .ok (.found file))
  | saved {key : String} {content : Bytes} {place : List String} {tree : Tree}
      (resolve : store.resolve key = .ok place)
      (write : Tree.write content place store.tree = .ok tree) :
      Ends store (.save key content)
        ({ store with tree := some tree }, .ok (.saved (store.urlFor key)))
  | deleted {key : String} {content : Bytes} {place : List String} {tree : Tree}
      (resolve : store.resolve key = .ok place) (holds : store.tree = some tree)
      (file : Tree.fileAt? place tree = some content) :
      Ends store (.delete key) ({ store with tree := tree.remove place }, .ok .deleted)

theorem call_save (store : LocalStore) (key : String) (content : Bytes) :
    store.call (.save key content) = match store.resolve key with
      | .error fault => (store, .error fault)
      | .ok place =>
        match Tree.write content place store.tree with
        | .error fault => (store, .error (.write fault))
        | .ok tree => ({ store with tree := some tree }, .ok (.saved (store.urlFor key))) := by
  rw [call]
  cases hplace : store.resolve key with
  | error fault => rw [save_of_resolve_error hplace]
  | ok place =>
    dsimp only
    rw [save_of_resolve hplace]
    cases Tree.write content place store.tree <;> rfl

theorem call_delete (store : LocalStore) (key : String) :
    store.call (.delete key) = match store.resolve key with
      | .error fault => (store, .error fault)
      | .ok place =>
        match store.file? place with
        | none => (store, .error (.missing key))
        | some _ => ({ store with tree := store.tree.bind (Tree.remove place) }, .ok .deleted) := by
  rw [call]
  cases hplace : store.resolve key with
  | error fault => rw [delete_of_resolve_error hplace]
  | ok place =>
    dsimp only
    rw [delete_of_resolve hplace]
    cases store.file? place <;> rfl

theorem ends_call (store : LocalStore) (call : Call) : store.Ends call (store.call call) := by
  cases call with
  | get key =>
    cases hget : store.get key with
    | error => rw [call, hget]; exact .failed
    | ok file => rw [call, hget]; exact .found hget
  | save key content =>
    rw [call_save]
    cases hplace : store.resolve key with
    | error => exact .failed
    | ok place =>
      dsimp only
      cases hwrite : Tree.write content place store.tree with
      | error => exact .failed
      | ok tree => exact .saved hplace hwrite
  | delete key =>
    rw [call_delete]
    cases hplace : store.resolve key with
    | error => exact .failed
    | ok place =>
      dsimp only
      cases hfile : store.file? place with
      | none => exact .failed
      | some content =>
        obtain ⟨tree, htree, hcontent⟩ := Option.bind_eq_some_iff.1 hfile
        rw [htree]
        exact .deleted hplace htree hcontent

/-- In stages an image is saved as at once. -/
theorem saveInStages_eq (store : LocalStore) (key : String) (content : Bytes) :
    store.saveInStages key content = store.call (.save key content) := by
  rw [call_save, saveInStages]
  cases store.resolve key with
  | error fault => rfl
  | ok place =>
    dsimp only
    rw [Tree.writeInStages_eq]
    cases Tree.write content place store.tree <;> rfl

/-! ## Files -/

theorem call_of_error {call : Call} {fault : StorageFault}
    (h : (store.call call).2 = .error fault) : (store.call call).1 = store := by
  have hends := ends_call store call
  generalize store.call call = result at h hends
  cases hends with
  | failed => rfl
  | found | saved | deleted => cases h

theorem root_call (store : LocalStore) (call : Call) : (store.call call).1.root = store.root := by
  have hends := ends_call store call
  generalize store.call call = result at hends
  cases hends <;> rfl

/-- What a call leaves at a place, where it succeeds and is about that place: some content, or
nothing. -/
def leaves? (store : LocalStore) (place : List String) :
    Call → Except StorageFault Reply → Option (Option Bytes)
  | .save key content, .ok _ => if store.resolve key = .ok place then some (some content) else none
  | .delete key, .ok _ => if store.resolve key = .ok place then some none else none
  | _, _ => none

theorem leaves?_error (call : Call) (fault : StorageFault) :
    store.leaves? place call (.error fault) = none := by
  cases call <;> rfl

/-- A change of one place, as what is left there. -/
theorem ite_eq_getD {target : List String} {left old : Option Bytes} :
    (if place = target then left else old) =
      (if (.ok target : Except StorageFault _) = .ok place then some left else none).getD old := by
  by_cases h : place = target
  · rw [if_pos h, if_pos (congrArg _ h.symm), Option.getD_some]
  · rw [if_neg h, if_neg fun heq => h (Except.ok.inj heq).symm, Option.getD_none]

/-- After a call there is at every place what the call left there, or else what was there before. -/
theorem file?_call (store : LocalStore) (call : Call) (place : List String) :
    (store.call call).1.file? place =
      (store.leaves? place call (store.call call).2).getD (store.file? place) := by
  have hends := ends_call store call
  generalize store.call call = result at hends
  cases hends with
  | failed => rw [leaves?_error, Option.getD_none]
  | found => rfl
  | saved resolve write =>
    rw [leaves?, resolve, ← ite_eq_getD]
    exact Tree.fileAt?_write write place
  | deleted resolve holds file =>
    rw [leaves?, resolve, ← ite_eq_getD, file?, file?, holds]
    exact Tree.fileAt?_remove file place

/-- An image can be saved exactly where no file stands in the way and no directory lies. -/
theorem exists_save_iff (store : LocalStore) (key : String) (content : Bytes) :
    (∃ reply, (store.call (.save key content)).2 = .ok reply) ↔
      ∃ place, store.resolve key = .ok place ∧
        (∀ front, front <+: place → front ≠ place → store.file? front = none) ∧
        ∀ entries, store.tree.bind (Tree.at? place) ≠ some (.directory entries) := by
  rw [call_save]
  cases store.resolve key with
  | error fault => exact iff_of_false (fun ⟨_, h⟩ => by cases h) (fun ⟨_, h, _⟩ => by cases h)
  | ok place =>
    have hwrite : (∃ later, Tree.write content place store.tree = .ok later) ↔ _ :=
      Tree.exists_write_iff
    simp only [Except.ok.injEq, exists_eq_left']
    refine Iff.trans ?_ hwrite
    cases Tree.write content place store.tree with
    | error => exact iff_of_false (fun ⟨_, h⟩ => by cases h) (fun ⟨_, h⟩ => by cases h)
    | ok tree => exact iff_of_true ⟨_, rfl⟩ ⟨tree, rfl⟩

end EmailStudio.LocalStore
