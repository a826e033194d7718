import EmailStudio.Designs.Design
import EmailStudio.Identifier

/-!
# The store of designs

The store holds designs in the order of their creation and counts the identifiers it has given out.
Every operation is one transaction: it changes or adds at most one design. Listings are sorted by
the database, which is free in the order of designs that a query does not tell apart.
-/

namespace EmailStudio

/-- The order in which a database comes upon its rows for one query. Rows that the query does not
tell apart stay in it. -/
structure Scan where
  rows : List Design → List Design
  perm : ∀ designs, (rows designs).Perm designs

namespace Scan

/-- The row that was added last comes first. -/
def newestFirst : Scan := ⟨List.reverse, List.reverse_perm⟩

end Scan

/-- The saved designs. -/
structure DesignStore where
  /-- The designs, the oldest first. -/
  designs : List Design
  /-- How many identifiers were given out. -/
  created : Nat

namespace DesignStore

def empty : DesignStore := ⟨[], 0⟩

/-- The design of an identifier. -/
def get? (store : DesignStore) (id : String) : Option Design :=
  store.designs.find? (·.id = id)

/-- Adds a design under a fresh identifier. -/
def create (store : DesignStore) (name : String) (template : Value) (markup html : String)
    (now : Time) : DesignStore × Design :=
  let design := Design.created (identifier (store.created + 1)) name template markup html now
  (⟨store.designs ++ [design], store.created + 1⟩, design)

/-- Changes the design of an identifier, if there is one. -/
def update (store : DesignStore) (id : String) (change : Design → Design) :
    DesignStore × Option Design :=
  match store.get? id with
  | none => (store, none)
  | some design =>
    ({ store with designs := store.designs.map fun d => if d.id = id then change d else d },
      some (change design))

/-- Replaces the published version of a design. -/
def republish (store : DesignStore) (id : String) (name : Option String) (template : Value)
    (markup html : String) (now : Time) : DesignStore × Option Design :=
  store.update id (.republish name template markup html now)

/-- Saves a draft of a design. -/
def saveDraft (store : DesignStore) (id : String) (template : Value) (now : Time) :
    DesignStore × Option Design :=
  store.update id (.withDraft template now)

/-- Deletes a design and says whether there was one. -/
def delete (store : DesignStore) (id : String) : DesignStore × Bool :=
  ({ store with designs := store.designs.filter fun d => d.id ≠ id }, (store.get? id).isSome)

/-- All designs in the order of a listing. -/
def listing (store : DesignStore) (scan : Scan) : List Design :=
  (scan.rows store.designs).mergeSort Design.comesBefore

/-- Whether the database takes a number of designs to skip or to list. -/
def isCountable (n : Int) : Bool :=
  -0x8000000000000000 ≤ n && n < 0x8000000000000000

/-- What is said of a number that the database does not take. -/
def uncountableMessage : String := "Python int too large to convert to SQLite INTEGER"

/-- A page of a listing, if the database takes the numbers. Nothing is skipped for a negative
number, and a negative limit is none. -/
def page (store : DesignStore) (scan : Scan) (skip limit : Int) : Option (List Design) :=
  if isCountable skip && isCountable limit then
    let rest := (store.listing scan).drop skip.toNat
    some (if limit < 0 then rest else rest.take limit.toNat)
  else none

end DesignStore

end EmailStudio
