import EmailStudio.Text.Blank
import EmailStudio.Text.Digit

/-!
# Integers in texts

An integer in a text has blanks around it, a sign or none, and decimal digits of any script with
single low lines between them.
-/

namespace EmailStudio.Text

/-- The blanks that may stand around an integer: all but the information separators. -/
def isIntegerBlank (c : Char) : Bool :=
  isBlank c && !(0x1c ≤ c.toNat && c.toNat ≤ 0x1f)

/-- Digits with single low lines between them, least significant part last. -/
def digitGroups? (digits : List Nat) : List Char → Option (List Nat)
  | [] => some digits.reverse
  | '_' :: c :: rest =>
    if digits.isEmpty then none
    else (digitValue? c).bind fun d => digitGroups? (d :: digits) rest
  | c :: rest => (digitValue? c).bind fun d => digitGroups? (d :: digits) rest

/-- What an integer text can amount to. -/
inductive IntegerText where
  | number (n : Int)
  | malformed
  | tooLong (digits : Nat)

/-- Reads an integer. -/
def readInteger (s : String) : IntegerText :=
  let body := stripBoth isIntegerBlank s.toList
  let (negative, body) :=
    match body with
    | '-' :: rest => (true, rest)
    | '+' :: rest => (false, rest)
    | rest => (false, rest)
  match digitGroups? [] body with
  | none | some [] => .malformed
  | some digits =>
    if digitLimit < digits.length then .tooLong digits.length
    else
      let n : Nat := digits.foldl (fun n d => 10 * n + d) 0
      .number (if negative then -(n : Int) else n)

end EmailStudio.Text
