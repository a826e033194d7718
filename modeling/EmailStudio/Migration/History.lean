import EmailStudio.Migration.DesignTable
import EmailStudio.Text.Integer

/-!
# Histories of revisions

A schema goes through revisions in one order. A database stands before the first of them, its base,
or behind one of them, and keeps the mark of the revision it stands behind in a table of its own.
A command names the place it leads to; the steps on the way are the revisions between, forwards or
backwards, or a single jump that only changes the mark.
-/

namespace EmailStudio

/-- A change of the schema that can be taken back. -/
structure Revision where
  mark : String
  upgrade : List Statement
  downgrade : List Statement
deriving DecidableEq, Repr

/-- Revisions, from the first to the last. -/
abbrev History := List Revision

/-- Why no steps lead to a place. -/
inductive RouteFault where
  /-- No revision, or more than one, has a mark that starts so. -/
  | unknown (name : String)
  /-- There are fewer revisions than steps. -/
  | tooFar (steps : Int)
  /-- The place lies ahead of a way backwards. -/
  | ahead
  /-- A place counted back from the last revision is the base, which has no mark to set. -/
  | noMark
deriving DecidableEq, Repr

/-- A move between two places, and what it does to the schema. -/
structure MigrationStep where
  label : String
  origin : Option String
  destination : Option String
  changes : List Statement
deriving DecidableEq, Repr

/-- The table that keeps the mark of a database. -/
def versionTable : TableShape where
  name := "alembic_version"
  columns := [⟨"version_num", .varchar 32, true, none, none⟩]
  key := ["version_num"]
  keyName := some "alembic_version_pkc"

namespace MigrationStep

/-- The statements that change the mark of a database. -/
def markChanges (step : MigrationStep) : List Statement :=
  let column := "version_num"
  let table := versionTable.name
  match step.origin, step.destination with
  | none, none => []
  | none, some new => [.insert table (some [column]) [[some new]] [column]]
  | some old, none => [.delete table [⟨column, some old⟩]]
  | some old, some new => [.update table [(column, some new)] [⟨column, some old⟩]]

/-- All statements of a step. -/
def statements (step : MigrationStep) : List Statement :=
  step.changes ++ step.markChanges

/-- The step in a few words. -/
def text (step : MigrationStep) : String :=
  step.label ++ " " ++ step.origin.getD "" ++ " -> " ++ step.destination.getD ""

end MigrationStep

/-- A number of steps with a sign in front. What follows the digits does not count. -/
def relativeSteps? (s : String) : Option Int :=
  let digits (cs : List Char) : Option Int :=
    let values := (cs.takeWhile fun c => (Text.digitValue? c).isSome).filterMap Text.digitValue?
    if values.isEmpty then none
    else some (Int.ofNat (values.foldl (fun n d => 10 * n + d) 0))
  match s.toList with
  | '+' :: cs => digits cs
  | '-' :: cs => (digits cs).map (- ·)
  | _ => none

namespace History

/-- The mark at a place. The base has none. -/
def markAt? (place : Nat) (history : History) : Option String :=
  match place with
  | 0 => none
  | i + 1 => (history[i]?).map (·.mark)

/-- The place that a name stands for: the base, the last revision, or the one revision whose mark
starts so. -/
def place (name : String) (history : History) : Except RouteFault Nat :=
  if name = "base" then .ok 0
  else if name = "head" || name = "heads" then .ok history.length
  else
    match history.findIdx? (·.mark = name) with
    | some i => .ok (i + 1)
    | none =>
      if (history.filter fun r => r.mark.startsWith name).length = 1 then
        .ok (history.findIdx (fun r => r.mark.startsWith name) + 1)
      else .error (.unknown name)

/-- The place of a database that keeps marks: the farthest of them. -/
def placeOfMarks (marks : List String) (history : History) : Except RouteFault Nat := do
  let places ← marks.mapM fun mark => history.place mark
  return places.foldl max 0

/-- The steps forwards from one place to another. -/
def stepsUp (origin destination : Nat) (history : History) : List MigrationStep :=
  (history.zipIdx.take destination).drop origin |>.map fun (revision, i) =>
    ⟨"upgrade", history.markAt? i, some revision.mark, revision.upgrade⟩

/-- The steps backwards from one place to another. -/
def stepsDown (origin destination : Nat) (history : History) : List MigrationStep :=
  ((history.zipIdx.take origin).drop destination).reverse |>.map fun (revision, i) =>
    ⟨"downgrade", some revision.mark, history.markAt? i, revision.downgrade⟩

/-- The steps of a command to go forwards. -/
def upgrade (origin : Nat) (target : String) (history : History) :
    Except RouteFault (List MigrationStep) :=
  match relativeSteps? target with
  | some n =>
    let destination := origin + n.toNat
    if 0 < n && destination ≤ history.length then .ok (history.stepsUp origin destination)
    else .error (.tooFar n)
  | none => (history.place target).map fun destination => history.stepsUp origin destination

/-- The steps of a command to go backwards. -/
def downgrade (origin : Nat) (target : String) (history : History) :
    Except RouteFault (List MigrationStep) :=
  match relativeSteps? target with
  | some n =>
    if n < 0 && (-n).toNat ≤ origin then .ok (history.stepsDown origin (origin - (-n).toNat))
    else .error (.tooFar n)
  | none => do
    let destination ← history.place target
    if destination ≤ origin then return history.stepsDown origin destination else throw .ahead

/-- The jump between two places, which are not the same. -/
def jump (origin destination : Nat) (history : History) : List MigrationStep :=
  if destination = origin then []
  else [⟨"stamp_revision", history.markAt? origin, history.markAt? destination, []⟩]

/-- The steps of a command to change the mark alone. From the base, a negative number counts back
from the last revision; behind the base there is nothing to change. -/
def stamp (origin : Nat) (target : String) (history : History) :
    Except RouteFault (List MigrationStep) :=
  match Text.readInteger target with
  | .number n =>
    if n < 0 && origin = 0 then
      if (-n).toNat < history.length then .ok (history.jump 0 (history.length - (-n).toNat))
      else if (-n).toNat = history.length then .error .noMark
      else .ok []
    else (history.place target).map fun destination => history.jump origin destination
  | _ => (history.place target).map fun destination => history.jump origin destination

end History

/-- The revisions of the schema of designs. -/
def designHistory : History := [
  ⟨"3b9e1c2a7f40", DesignTable.create (some (.text "")), DesignTable.drop⟩]

end EmailStudio
