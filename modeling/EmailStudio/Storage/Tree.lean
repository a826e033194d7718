/-!
# Directory trees

A tree of directories and files. A place in it is a list of names; writing a file makes the
directories on the way. A file is no directory and a directory no file, so that a name can stand in
the way of a path.
-/

namespace EmailStudio

abbrev Bytes := List UInt8

/-- A file, or a directory with named entries. -/
inductive Tree where
  | file (content : Bytes)
  | directory (entries : List (String × Tree))

/-- Why a file cannot be written. -/
inductive WriteFault where
  /-- The directory that should hold the file is a file. -/
  | parentIsFile
  /-- A directory further up is a file. -/
  | ancestorIsFile
  /-- The place is a directory. -/
  | isDirectory
deriving DecidableEq, Repr

namespace Tree

/-- The entry of a name. -/
def child? (name : String) (entries : List (String × Tree)) : Option Tree :=
  entries.lookup name

/-- Puts an entry in its place, or behind the others. -/
def setEntry (name : String) (tree : Tree) : List (String × Tree) → List (String × Tree)
  | [] => [(name, tree)]
  | (n, t) :: rest => if n = name then (n, tree) :: rest else (n, t) :: setEntry name tree rest

/-- What lies at a place. -/
def at? : List String → Tree → Option Tree
  | [], tree => some tree
  | name :: rest, directory entries => (child? name entries).bind (at? rest)
  | _ :: _, file _ => none

/-- The content of the file at a place. -/
def fileAt? (path : List String) (tree : Tree) : Option Bytes :=
  match at? path tree with
  | some (file content) => some content
  | _ => none

/-- Writes a file into a tree that may not exist yet. -/
def write (content : Bytes) : List String → Option Tree → Except WriteFault Tree
  | [], some (directory _) => .error .isDirectory
  | [], _ => .ok (file content)
  | name :: rest, none => do
    return directory [(name, ← write content rest none)]
  | name :: rest, some (directory entries) => do
    return directory (setEntry name (← write content rest (child? name entries)) entries)
  | [_], some (file _) => .error .parentIsFile
  | _ :: _ :: _, some (file _) => .error .ancestorIsFile

/-- The tree with a directory at a place, where nothing stands in its way. -/
def withDirectory : List String → Tree → Tree
  | name :: rest, directory entries =>
    directory (setEntry name (withDirectory rest ((child? name entries).getD (directory [])))
      entries)
  | _, tree => tree

/-- Removes the file at a place; anything else is left as it is. -/
def remove : List String → Tree → Option Tree
  | [], file _ => none
  | [], tree => some tree
  | name :: rest, directory entries =>
    match child? name entries with
    | none => some (directory entries)
    | some tree =>
      match remove rest tree with
      | none => some (directory (entries.filter fun e => e.1 ≠ name))
      | some tree => some (directory (setEntry name tree entries))
  | _ :: _, tree => some tree

mutual

/-- The places of all files. -/
def files : Tree → List (List String × Bytes)
  | file content => [([], content)]
  | directory entries => filesIn entries

def filesIn : List (String × Tree) → List (List String × Bytes)
  | [] => []
  | (name, tree) :: rest =>
    (files tree).map (fun (path, content) => (name :: path, content)) ++ filesIn rest

end

end Tree

end EmailStudio
