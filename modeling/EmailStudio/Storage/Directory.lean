import EmailStudio.Storage.Tree
import EmailStudio.Text.Path

/-!
# Working directories

Files are found and written by relative paths from a working directory. What lies above it is not
known, so a path that leaves it leads nowhere.
-/

namespace EmailStudio

/-- Why a file cannot be written. -/
inductive OutputFault where
  | directoryMissing
  | directoryIsFile
  | isDirectory
deriving DecidableEq, Repr

namespace Directory

/-- Follows names from a directory, which stands above those it lies in. Only a directory can be
followed further, even by an empty name. -/
def walk : List Tree → List String → Option Tree
  | [], _ => none
  | tree :: _, [] => some tree
  | .file _ :: _, _ :: _ => none
  | .directory entries :: above, name :: rest =>
    if name = "" ∨ name = "." then walk (.directory entries :: above) rest
    else if name = ".." then walk above rest
    else
      match Tree.child? name entries with
      | some tree => walk (tree :: .directory entries :: above) rest
      | none => none

/-- What a path leads to. -/
def find? (directory : Tree) (path : String) : Option Tree :=
  if path.isEmpty || path.startsWith "/" then none else walk [directory] (Path.names path)

def isFile (directory : Tree) (path : String) : Bool :=
  match find? directory path with
  | some (.file _) => true
  | _ => false

def isDirectory (directory : Tree) (path : String) : Bool :=
  match find? directory path with
  | some (.directory _) => true
  | _ => false

/-- The text of a file. -/
def readText? (directory : Tree) (path : String) : Option String :=
  match find? directory path with
  | some (.file content) => String.fromUTF8? (ByteArray.mk content.toArray)
  | _ => none

/-- Whether a file stands in the way of names. -/
def isBlocked (directory : Tree) (names : List String) : Bool :=
  (List.range (names.length + 1)).any fun count =>
    match walk [directory] (names.take count) with
    | some (.file _) => true
    | _ => false

/-- Writes a text into a file, whose directory must be there. -/
def writeText (directory : Tree) (path content : String) : Except OutputFault Tree :=
  let names := Path.steps path
  match walk [directory] names.dropLast with
  | some (.directory entries) =>
    let name := names.getLast?.getD ".."
    match Tree.child? name entries with
    | some (.directory _) => .error .isDirectory
    | _ =>
      if name = ".." then .error .isDirectory
      else
        (Tree.write content.toUTF8.toList (Path.absolute [] path) (some directory)).mapError
          fun _ => .directoryIsFile
  | some (.file _) => .error .directoryIsFile
  | none =>
    .error (if isBlocked directory names.dropLast then .directoryIsFile else .directoryMissing)

/-- What lies at names, unless a file stands in the way. -/
def below? : List String → Tree → Except WriteFault (Option Tree)
  | [], tree => .ok (some tree)
  | name :: rest, .directory entries =>
    match Tree.child? name entries with
    | some tree => below? rest tree
    | none => .ok none
  | _ :: _, .file _ => .error .parentIsFile

end Directory

end EmailStudio
