import EmailStudio.Value.Basic

/-!
# Edits at a place

A place in a value is a path of names and indices. An edit replaces, adds or removes what is at a
place and leaves everything else as it is; an edit whose place does not exist fails. Indices below
zero count from the end.
-/

namespace EmailStudio

/-- A step of a path. -/
inductive Step where
  | name (key : String)
  | index (i : Int)
deriving DecidableEq, Repr

/-- Why there is nothing to edit at a place. -/
inductive EditFault where
  | nameMissing
  | outOfRange
  /-- A value that has no parts, or none of this sort. -/
  | noSuchPart
  /-- Only lists can be inserted into. -/
  | notInsertable
deriving DecidableEq, Repr

namespace Step

/-- The name of a field that a step leads to. -/
def key : Step → String
  | name key => key
  | index i => toString i

/-- A step as a value. -/
def toValue : Step → Value
  | name key => .text key
  | index i => .int i

/-- The position in a list of some size that an index stands for. -/
def position? (size : Nat) (i : Int) : Option Nat :=
  let n := if i < 0 then i + size else i
  if 0 ≤ n ∧ n < size then some n.toNat else none

/-- The position that an index inserts at: the nearest end when it is out of range. -/
def insertPosition (size : Nat) (i : Int) : Nat :=
  let n := if i < 0 then i + size else i
  min n.toNat size

end Step

namespace Value

/-- The part that a step leads to. -/
def part (v : Value) (step : Step) : Except EditFault Value :=
  match v, step with
  | object (fields : Fields), .name key =>
    match fields.get? key with
    | some inner => .ok inner
    | none => .error .nameMissing
  | object _, .index _ => .error .nameMissing
  | list items, .index i =>
    match (Step.position? items.length i).bind (items[·]?) with
    | some inner => .ok inner
    | none => .error .outOfRange
  | text s, .index i =>
    match (Step.position? s.length i).bind (s.toList[·]?) with
    | some c => .ok (text (String.singleton c))
    | none => .error .outOfRange
  | _, _ => .error .noSuchPart

/-- Puts a value where a step leads to; an object takes new names. -/
def put (v : Value) (step : Step) (new : Value) : Except EditFault Value :=
  match v, step with
  | object (fields : Fields), step => .ok (object (fields.set step.key new))
  | list items, .index i =>
    match Step.position? items.length i with
    | some n => .ok (list (items.set n new))
    | none => .error .outOfRange
  | _, _ => .error .noSuchPart

/-- Inserts a value into a list. -/
def insertInto (v : Value) (step : Step) (new : Value) : Except EditFault Value :=
  match v, step with
  | list items, .index i => .ok (list (items.insertIdx (Step.insertPosition items.length i) new))
  | list _, .name _ => .error .noSuchPart
  | _, _ => .error .notInsertable

/-- Removes the part that a step leads to. -/
def remove (v : Value) (step : Step) : Except EditFault Value :=
  match v, step with
  | object (fields : Fields), .name key =>
    if fields.has key then .ok (object (fields.erase key)) else .error .nameMissing
  | object _, .index _ => .error .nameMissing
  | list items, .index i =>
    match Step.position? items.length i with
    | some n => .ok (list (items.eraseIdx n))
    | none => .error .outOfRange
  | _, _ => .error .noSuchPart

/-- Edits the container that all steps but the last lead to. -/
def editAt (edit : Value → Step → Except EditFault Value) :
    List Step → Value → Except EditFault Value
  | [], _ => .error .outOfRange
  | [last], v => edit v last
  | step :: rest, v => do
    let inner ← v.part step
    v.put step (← editAt edit rest inner)

def setAt (v : Value) (path : List Step) (new : Value) : Except EditFault Value :=
  editAt (fun container step => container.put step new) path v

def insertAt (v : Value) (path : List Step) (new : Value) : Except EditFault Value :=
  editAt (fun container step => container.insertInto step new) path v

def deleteAt (v : Value) (path : List Step) : Except EditFault Value :=
  editAt remove path v

end Value

end EmailStudio
