import EmailStudio.Number.Binary64

/-!
# The shortest decimal of a binary number

`Binary64.shortest` finds the fewest digits that read back as the number, and of those the decimal
nearest to it. For each digit count it looks at the two neighbours of the exact value on that
decimal grid: if any point of the grid reads back, one of these does.
-/

namespace EmailStudio.Binary64

/-- Whether `10 ^ e` is at most `num / den`. -/
def reachesTenPower (num den : Nat) (e : Int) : Bool :=
  if 0 ≤ e then den * Nat.pow 10 e.toNat ≤ num else den ≤ num * Nat.pow 10 (-e).toNat

/-- The exponent of the leading digit of `num / den`: an estimate from the binary size, which is
never too high and at most two too low, and its correction. -/
def leadingPlace (num den : Nat) : Int :=
  let low := Int.fdiv (((num.log2 : Int) - den.log2 - 1) * 30103) 100000
  if reachesTenPower num den (low + 2) then low + 2
  else if reachesTenPower num den (low + 1) then low + 1
  else if reachesTenPower num den low then low
  else low - 1

/-- The part of `num / den` on the grid of `10 ^ place`, rounded down, and the remainder as a
quotient of the grid's step. -/
def gridFloor (num den : Nat) (place : Int) : Nat × Nat × Nat :=
  let (num, den) :=
    if 0 ≤ place then (num, den * Nat.pow 10 place.toNat)
    else (num * Nat.pow 10 (-place).toNat, den)
  (num / den, num % den, den)

/-- The neighbour of the magnitude that reads back, on the grid of a place, the nearer one if both
do and the even one on a tie. -/
def neighbourAt? (x : Binary64) (num den : Nat) (place : Int) : Option Nat :=
  let (low, rest, step) := gridFloor num den place
  let pattern := ofPattern false (x.bits.toNat % Nat.pow 2 63)
  let lowHit := ofDecimal false low place = pattern
  let highHit := rest ≠ 0 ∧ ofDecimal false (low + 1) place = pattern
  if lowHit ∧ highHit then
    if 2 * rest < step then some low
    else if step < 2 * rest then some (low + 1)
    else some (low + low % 2)
  else if lowHit then some low
  else if highHit then some (low + 1)
  else none

/-- The digits and the place of the last one, for a finite nonzero number. Seventeen digits always
read back. -/
def shortest (x : Binary64) : Nat × Int :=
  let (num, den) := x.magnitude
  let top := leadingPlace num den
  let places := (List.range 17).map fun (n : Nat) => top - (n : Int)
  match places.findSome? fun place => (x.neighbourAt? num den place).map (·, place) with
  | some hit => hit
  | none => ((gridFloor num den (top - 16)).1, top - 16)

end EmailStudio.Binary64
