/-!
# Base64

Three bytes are written as four characters of an alphabet of 64, and one or two bytes at the end
with equals signs for what is missing. Decoding is strict about foreign characters and about the
missing characters of a group, but takes any number of equals signs behind a full group, and bits
that a last group has too many.
-/

namespace EmailStudio.Base64

/-- The value of a character of the alphabet. -/
def digit? (c : Char) : Option Nat :=
  if 'A' ≤ c ∧ c ≤ 'Z' then some (c.toNat - 65)
  else if 'a' ≤ c ∧ c ≤ 'z' then some (c.toNat - 71)
  else if '0' ≤ c ∧ c ≤ '9' then some (c.toNat + 4)
  else if c = '+' then some 62
  else if c = '/' then some 63
  else none

/-- The character of a value. -/
def digitChar (n : Nat) : Char :=
  if n < 26 then Char.ofNat (n + 65)
  else if n < 52 then Char.ofNat (n + 71)
  else if n < 62 then Char.ofNat (n - 4)
  else if n = 62 then '+'
  else '/'

/-- The bytes of groups of four digits and of a last one of two or three, behind the bytes so far,
which stand in reverse. -/
def bytesFrom (bytes : List UInt8) : List Nat → List UInt8
  | a :: b :: c :: d :: rest =>
    bytesFrom (UInt8.ofNat (c % 4 * 64 + d) :: UInt8.ofNat (b % 16 * 16 + c / 4)
      :: UInt8.ofNat (a * 4 + b / 16) :: bytes) rest
  | [a, b, c] =>
    (UInt8.ofNat (b % 16 * 16 + c / 4) :: UInt8.ofNat (a * 4 + b / 16) :: bytes).reverse
  | [a, b] => (UInt8.ofNat (a * 4 + b / 16) :: bytes).reverse
  | _ => bytes.reverse

/-- Whether as many equals signs follow a number of digits as they should. -/
def padsFit (digits pads : Nat) : Bool :=
  match digits % 4 with
  | 0 => 0 < digits
  | 1 => false
  | 2 => pads = 2
  | _ => pads = 1

/-- The bytes that a text stands for. -/
def decode? (cs : List Char) : Option (List UInt8) :=
  let digits := cs.takeWhile fun c => (digit? c).isSome
  let pads := cs.drop digits.length
  if pads.all (· = '=') && padsFit digits.length pads.length then
    some (bytesFrom [] (digits.filterMap digit?))
  else none

/-- The text of bytes. -/
def encode : List UInt8 → List Char
  | a :: b :: c :: rest =>
    digitChar (a.toNat / 4) :: digitChar (a.toNat % 4 * 16 + b.toNat / 16)
      :: digitChar (b.toNat % 16 * 4 + c.toNat / 64) :: digitChar (c.toNat % 64) :: encode rest
  | [a, b] =>
    [digitChar (a.toNat / 4), digitChar (a.toNat % 4 * 16 + b.toNat / 16),
      digitChar (b.toNat % 16 * 4), '=']
  | [a] => [digitChar (a.toNat / 4), digitChar (a.toNat % 4 * 16), '=', '=']
  | [] => []

end EmailStudio.Base64
