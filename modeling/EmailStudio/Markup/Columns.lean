import EmailStudio.Fault
import EmailStudio.Value.Basic

/-!
# Spreading over columns

Items are spread over columns in runs of equal length, the last ones shorter or empty. The length is
the least one for which the columns suffice.
-/

namespace EmailStudio.Columns

/-- As many runs of items as there are columns, each of at most the given length. -/
def runs {α : Type} (length : Nat) : Nat → List α → List (List α)
  | 0, _ => []
  | count + 1, items => items.take length :: runs length count (items.drop length)

/-- The least length for which runs of that length hold all items. -/
def runLength (size count : Nat) : Nat :=
  (size + count - 1) / count

/-- Spreads items over a number of columns. -/
def spread {α : Type} (items : List α) (count : Int) : Except Fault (List (List α)) :=
  if items.isEmpty then .ok (List.replicate count.toNat [])
  else if count = 0 then .error .noColumns
  else .ok (runs (runLength items.length count.toNat) count.toNat items)

/-! ## Values that are not known to be items and a count -/

/-- The integer that counts columns. -/
def count? : Value → Option Int
  | .int n => some n
  | .bool b => some (if b then 1 else 0)
  | _ => none

/-- Why a number of items cannot be spread over columns that are not counted by an integer. -/
def faultOfCount (size : Nat) : Value → Fault
  | .float x =>
    match x.toRat? with
    | some q =>
      if q = 0 then .noColumns
      else if (Binary64.ofRatio false (size * q.den) q.num.natAbs).isFinite then .notNumber
      else .tooLarge
    | none => if x.isNaN then .wholeOfNaN else .notNumber
  | _ => .notNumber

/-- Spreads what a value holds over the columns that another one counts. Texts are spread by
characters; objects have a size but no order. -/
def spreadValue (children count : Value) : Except Fault (List (List Value)) :=
  let held : Except Fault (Nat × Option (List Value)) :=
    match children with
    | .list items => .ok (items.length, some items)
    | .text s => .ok (s.length, some (s.toList.map fun c => .text (String.singleton c)))
    | .object fields => .ok (fields.length, none)
    | v => if v.truthy then .error .notList else .ok (0, none)
  match held with
  | .error fault => .error fault
  | .ok (size, items) =>
    match count? count with
    | none => .error (if size = 0 then .notNumber else faultOfCount size count)
    | some n =>
      match items with
      | some items => spread items n
      | none =>
        if size ≠ 0 ∧ n = 0 then .error .noColumns
        else if 0 < n then .error .notList
        else .ok []

end EmailStudio.Columns
