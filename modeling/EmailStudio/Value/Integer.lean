import EmailStudio.Fault
import EmailStudio.Text.Integer

/-!
# The integer in a value

Integers stand for themselves, truth values count zero and one, binary numbers are cut off toward
zero and texts are read.
-/

namespace EmailStudio.Value

/-- The integer that a value amounts to. -/
def toInteger : Value → Except Fault Int
  | int n => .ok n
  | bool b => .ok (if b then 1 else 0)
  | float x =>
    match x.truncate? with
    | some n => .ok n
    | none => .error (if x.isNaN then .wholeOfNaN else .tooLarge)
  | text s =>
    match Text.readInteger s with
    | .number n => .ok n
    | .malformed => .error (.badInteger s)
    | .tooLong n => .error (.tooManyDigits n)
  | _ => .error .notNumber

end EmailStudio.Value
