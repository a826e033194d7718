import EmailStudio.CommandLine.Run

/-!
# The program

The program runs one command in the working directory. It gathers what the command may need, the
environment, the input, the file of variables and whatever its arguments name, and afterwards prints
what there is to print and writes the files that have changed. No engine is built in, so markup is
turned into HTML by none.
-/

namespace EmailStudio.CommandLine

/-- The file or the empty directory at a path, if there is one. -/
def look (path : String) : IO (Option Tree) := do
  let .ok handle ← (IO.FS.Handle.mk path .read).toBaseIO | return none
  match ← handle.readBinToEnd.toBaseIO with
  | .ok bytes => return some (.file bytes.toList)
  | .error _ => return some (.directory [])

/-- The tree with what lies on the way to a path. -/
def gather (tree : Tree) (path : String) : IO Tree :=
  let steps := Path.steps path
  (List.range steps.length).foldlM (fun tree i => do
    let place := steps.take (i + 1)
    match ← look (Path.text place) with
    | some (.file content) => return ((Tree.write content place (some tree)).toOption).getD tree
    | some (.directory _) => return tree.withDirectory place
    | none => return tree) tree

/-- What an argument may name: itself, or the value that an option is joined to. -/
def pathIn (argument : String) : String :=
  match argument.splitOn "=" with
  | _ :: value@(_ :: _) => if argument.startsWith "-" then "=".intercalate value else argument
  | _ => argument

/-- The variables of the environment. -/
def environment : IO (List (String × String)) := do
  let .ok bytes ← (IO.FS.readBinFile "/proc/self/environ").toBaseIO | return []
  return (((String.fromUTF8? bytes).getD "").splitOn "\x00").filterMap fun entry =>
    match entry.splitOn "=" with
    | name :: value@(_ :: _) => some (name, "=".intercalate value)
    | _ => none

/-- Writes the files that are new or changed. -/
def writeChanges (before after : Tree) : IO Unit := do
  let old := before.files
  for (place, content) in after.files do
    if old.lookup place ≠ some content then
      IO.FS.writeBinFile (Path.text place) (ByteArray.mk content.toArray)

end EmailStudio.CommandLine

open EmailStudio EmailStudio.CommandLine

def main (arguments : List String) : IO UInt32 := do
  let directory ← (variableFile :: arguments.map pathIn).foldlM gather (.directory [])
  let asks := arguments.contains "init-db"
  let input ← if asks then (← IO.getStdin).getLine else pure ""
  let outcome := run ⟨directory, ← environment, input, fun _ => .failed "no engine"⟩ arguments
  (← IO.getStdout).putStr outcome.output
  (← IO.getStderr).putStr outcome.errors
  if outcome.fault.isSome then
    (← IO.getStderr).putStr "Error: the command could not be finished\n"
  writeChanges directory outcome.directory
  return outcome.exit.toUInt32
