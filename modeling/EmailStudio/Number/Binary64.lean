/-!
# Numbers of the 64-bit binary format

A number is its bit pattern: a sign, an exponent field of eleven bits and a fraction of fifty-two.
`Binary64.toRat?` is its exact value and `Binary64.ofRatio` the number nearest to a quotient, a
tie going to the even significand; every other reading and writing of numbers goes through the two.
-/

namespace EmailStudio

/-- A number of the 64-bit binary format. -/
structure Binary64 where
  bits : UInt64
deriving DecidableEq, Inhabited

namespace Binary64

/-! ## Fields -/

/-- The sign bit is set. -/
def negative (x : Binary64) : Bool :=
  Nat.pow 2 63 ≤ x.bits.toNat

/-- The exponent field. -/
def field (x : Binary64) : Nat :=
  x.bits.toNat / Nat.pow 2 52 % Nat.pow 2 11

/-- The fraction field. -/
def fraction (x : Binary64) : Nat :=
  x.bits.toNat % Nat.pow 2 52

/-- A field of ones marks the infinities and what is not a number. -/
def isFinite (x : Binary64) : Bool :=
  x.field != 2047

def isNaN (x : Binary64) : Bool :=
  x.field == 2047 && x.fraction != 0

/-- The significand, with the leading bit that a nonzero field implies. -/
def significand (x : Binary64) : Nat :=
  if x.field = 0 then x.fraction else Nat.pow 2 52 + x.fraction

/-- The power of two that the significand counts. -/
def scale (x : Binary64) : Int :=
  (max x.field 1 : Int) - 1075

def isZero (x : Binary64) : Bool :=
  x.isFinite && x.significand == 0

/-! ## Exact values -/

/-- The magnitude of a finite number as a quotient. -/
def magnitude (x : Binary64) : Nat × Nat :=
  if 0 ≤ x.scale then (x.significand * Nat.pow 2 x.scale.toNat, 1)
  else (x.significand, Nat.pow 2 (-x.scale).toNat)

/-- The exact value of a finite number. -/
def toRat? (x : Binary64) : Option Rat :=
  if x.isFinite then
    let (num, den) := x.magnitude
    some (mkRat (if x.negative then -(num : Int) else num) den)
  else
    none

/-- The value of a number that is whole. -/
def toInt? (x : Binary64) : Option Int :=
  x.toRat?.bind fun q => if q.den = 1 then some q.num else none

/-- The value cut off toward zero. -/
def truncate? (x : Binary64) : Option Int :=
  x.toRat?.map fun q => q.num.tdiv q.den

/-! ## Rounding -/

/-- The bit pattern of a sign and the pattern of a magnitude. -/
def ofPattern (negative : Bool) (magnitude : Nat) : Binary64 :=
  ⟨UInt64.ofNat ((if negative then Nat.pow 2 63 else 0) + magnitude)⟩

def zero (negative : Bool) : Binary64 :=
  ofPattern negative 0

def infinity (negative : Bool) : Binary64 :=
  ofPattern negative (2047 * Nat.pow 2 52)

def nan : Binary64 :=
  ofPattern false (2047 * Nat.pow 2 52 + Nat.pow 2 51)

/-- The natural number nearest to a quotient, a tie going to the even one. -/
def roundHalfEven (num den : Nat) : Nat :=
  let q := num / den
  let r := num % den
  if den < 2 * r then q + 1
  else if 2 * r = den then q + q % 2
  else q

/-- Whether `2 ^ e` is at most `num / den`. -/
def reachesPower (num den : Nat) (e : Int) : Bool :=
  if 0 ≤ e then den * Nat.pow 2 e.toNat ≤ num else den ≤ num * Nat.pow 2 (-e).toNat

/-- The place of the last significand bit of a number near `num / den`. -/
def lastPlace (num den : Nat) : Int :=
  let e := (num.log2 : Int) - den.log2
  let e := if reachesPower num den e then e else e - 1
  max (e - 52) (-1074)

/-- The number nearest to `num / den`, a tie going to the even significand. A significand that
rounds up to the next power of two carries into the exponent field by itself. -/
def ofRatio (negative : Bool) (num den : Nat) : Binary64 :=
  if num = 0 then zero negative
  else
    let e := lastPlace num den
    let q :=
      if 0 ≤ e then roundHalfEven num (den * Nat.pow 2 e.toNat)
      else roundHalfEven (num * Nat.pow 2 (-e).toNat) den
    let pattern := (e + 1074).toNat * Nat.pow 2 52 + q
    if 2047 * Nat.pow 2 52 ≤ pattern then infinity negative else ofPattern negative pattern

/-- The number nearest to `digits * 10 ^ exponent`. Exponents far outside the format's range are
answered without computing the power. -/
def ofDecimal (negative : Bool) (digits : Nat) (exponent : Int) : Binary64 :=
  let size := ((Nat.toDigits 10 digits).length : Int) + exponent
  if digits = 0 || size < -400 then zero negative
  else if 400 < size then infinity negative
  else if 0 ≤ exponent then ofRatio negative (digits * Nat.pow 10 exponent.toNat) 1
  else ofRatio negative digits (Nat.pow 10 (-exponent).toNat)

/-- The number nearest to the quotient of an integer and a positive natural number. -/
def ofQuotient (num : Int) (den : Nat) : Binary64 :=
  ofRatio (num < 0) num.natAbs den

end Binary64

end EmailStudio
