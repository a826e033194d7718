import EmailStudio.Storage.Tree
import EmailStudio.Text.Path

/-!
# Images on disk

Images are kept in a tree below a root directory. Keys are relative paths; a key is resolved by its
names alone, and one that does not lead to the root or below it is refused. `LocalStore.resolve`
gives the place below the root, and every operation works on that place.
-/

namespace EmailStudio

/-- Why an operation on stored images failed. -/
inductive StorageFault where
  /-- The key does not lead below the root. -/
  | outside
  /-- The key holds a character that no path can hold. -/
  | nullCharacter
  | missing (key : String)
  | write (fault : WriteFault)
deriving DecidableEq, Repr

namespace StorageFault

def message? : StorageFault → Option String
  | outside => some "Invalid file path"
  | nullCharacter => some "lstat: embedded null character in path"
  | missing key => some ("File not found: " ++ key)
  | write _ => none

end StorageFault

/-- A store of images on disk. -/
structure LocalStore where
  /-- The names that lead to the root directory from the top. -/
  root : List String
  /-- How the root directory is called in messages. -/
  label : String
  baseUrl : String
  /-- What lies at the root. -/
  tree : Option Tree

/-- A file that was found. -/
structure FoundFile where
  path : List String
  filename : String
  content : Bytes

namespace LocalStore

/-- The place below the root that a key leads to. -/
def resolve (store : LocalStore) (key : String) : Except StorageFault (List String) :=
  if key.contains '\x00' then .error .nullCharacter
  else
    let path := Path.absolute store.root key
    if store.root.isPrefixOf path then .ok (path.drop store.root.length) else .error .outside

/-- The address at which an image is served. -/
def urlFor (store : LocalStore) (key : String) : String :=
  Path.trimEnd store.baseUrl ++ "/uploads/files/" ++ key

/-- Stores an image and gives its address. -/
def save (store : LocalStore) (key : String) (content : Bytes) :
    Except StorageFault (LocalStore × String) := do
  let path ← store.resolve key
  let tree ← (Tree.write content path store.tree).mapError .write
  return ({ store with tree := some tree }, store.urlFor key)

/-- Finds a stored image. -/
def get (store : LocalStore) (key : String) : Except StorageFault FoundFile := do
  let path ← store.resolve key
  match store.tree.bind (Tree.fileAt? path) with
  | some content => return ⟨path, (store.root ++ path).getLast?.getD "", content⟩
  | none => throw (.missing key)

/-- Removes a stored image. -/
def delete (store : LocalStore) (key : String) : Except StorageFault LocalStore := do
  let path ← store.resolve key
  match store.tree.bind (Tree.fileAt? path) with
  | some _ => return { store with tree := store.tree.bind (Tree.remove path) }
  | none => throw (.missing key)

/-- The name of the file that is written to try out the root. -/
def probeName : String := ".storage_provider_probe"

/-- Tries out whether the root can be written to, and says so. -/
def test (store : LocalStore) : LocalStore × Bool × String :=
  let failed (reason : String) : LocalStore × Bool × String :=
    (store, false, "Local storage test failed: " ++ reason)
  match store.tree with
  | some (.file _) => failed ("[Errno 17] File exists: '" ++ store.label ++ "'")
  | tree =>
    let root := tree.getD (.directory [])
    match Tree.write "ok".toUTF8.toList [probeName] (some root) with
    | .error _ =>
      failed ("[Errno 21] Is a directory: '" ++ store.label ++ "/" ++ probeName ++ "'")
    | .ok probed =>
      ({ store with tree := probed.remove [probeName] }, true,
        "Local storage is writable at '" ++ store.label ++ "'.")

/-- The paths of all stored files, in order. -/
def list (store : LocalStore) : List String :=
  match store.tree with
  | some (.directory entries) =>
    ((Tree.filesIn entries).map fun (path, _) => Path.text path).mergeSort fun a b => a ≤ b
  | _ => []

end LocalStore

end EmailStudio
