import EmailStudio.Intake.Issue
import EmailStudio.Text.Blank
import EmailStudio.Text.Digit

/-!
# Numbers and truth values of records

Integers may be written as whole binary numbers, as truth values or as texts. A text may have a
sign, leading zeros, single low lines between digits and a fraction of zeros; only the ten digits of
western writing count. Truth values may be written as zero and one or by a word.
-/

namespace EmailStudio.Intake

/-- The spaces around an integer in a text. -/
def isSpace (c : Char) : Bool :=
  Text.isBlank c && !(0x1c ≤ c.toNat && c.toNat ≤ 0x1f)

/-- Drops the zeros in front of an integer, but not its last digit. Behind a leading zero only
digits, low lines and a point may follow up to the first digit that counts. -/
def dropZeros (cs : List Char) : Option (List Char) :=
  match cs with
  | '0' :: _ =>
    let rest := cs.dropWhile fun c => c = '0' || c = '_'
    match rest with
    | [] => some ['0']
    | '.' :: _ => some ('0' :: rest)
    | c :: _ => if c.isDigit then some rest else none
  | '-' :: _ => some cs
  | c :: _ => if c.isDigit then some cs else none
  | [] => none

/-- Drops a fraction of zeros. -/
def dropFraction (cs : List Char) : List Char :=
  let whole := cs.takeWhile (· ≠ '.')
  if (cs.drop (whole.length + 1)).all (· = '0') then whole else cs

/-- Whether two low lines stand side by side. -/
def hasDoubleLine : List Char → Bool
  | '_' :: '_' :: _ => true
  | _ :: rest => hasDoubleLine rest
  | [] => false

/-- Drops low lines that stand between other characters. -/
def dropLines (cs : List Char) : List Char :=
  if cs.head? = some '_' || cs.getLast? = some '_' || hasDoubleLine cs then cs
  else cs.filter (· ≠ '_')

/-- The digits of an integer text with a minus sign or none, cleaned of all that does not count. -/
def cleanInteger (s : String) : Option (List Char) :=
  let body := Text.stripBoth isSpace s.toList
  let body : Option (List Char) :=
    match body with
    | '+' :: '-' :: _ => none
    | '+' :: rest => some rest
    | _ => some body
  (body.bind dropZeros).map fun cs => dropFraction (dropLines cs)

/-- The integer of plain digits without needless zeros. -/
def plainInteger? (cs : List Char) : Option Int :=
  let (negative, digits) :=
    match cs with
    | '-' :: rest => (true, rest)
    | _ => (false, cs)
  if digits.isEmpty || !digits.all Char.isDigit then none
  else if digits.head? = some '0' && 1 < digits.length then none
  else
    let n : Nat := digits.foldl (fun n c => 10 * n + (c.toNat - 48)) 0
    some (if negative then -(n : Int) else n)

def readInteger (s : String) : Reading Int :=
  match cleanInteger s with
  | none => .bad .unreadableInteger
  | some cs =>
    if Text.digitLimit < cs.length then .bad .hugeInteger
    else
      match plainInteger? cs with
      | some n => .good n
      | none => .bad .unreadableInteger

def integer : Value → Reading Int
  | .int n => .good n
  | .bool b => .good (if b then 1 else 0)
  | .float x =>
    match x.toRat? with
    | none => .bad .notFinite
    | some q => if q.den = 1 then .good q.num else .bad .fractional
  | .text s => readInteger s
  | _ => .bad .notInteger

/-- An integer within bounds, as far as there are any. -/
def integerBetween (low high : Option Int) (v : Value) : Reading Int :=
  (integer v).andThen fun n =>
    if low.any (n < ·) then .bad .tooSmall
    else if high.any (· < n) then .bad .tooBig
    else .good n

def yesWords : List String := ["1", "t", "true", "y", "yes", "on"]

def noWords : List String := ["0", "f", "false", "n", "no", "off"]

def readBoolean (s : String) : Reading Bool :=
  let word := s.map Char.toLower
  if yesWords.contains word then .good true
  else if noWords.contains word then .good false
  else .bad .unreadableBoolean

def boolean : Value → Reading Bool
  | .bool b => .good b
  | .int n => if n = 0 then .good false else if n = 1 then .good true else .bad .unreadableBoolean
  | .float x =>
    match x.toInt? with
    | some n =>
      if n = 0 then .good false else if n = 1 then .good true else .bad .unreadableBoolean
    | none => .bad .notBoolean
  | .text s => readBoolean s
  | _ => .bad .notBoolean

end EmailStudio.Intake
