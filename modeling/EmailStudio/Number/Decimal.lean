import EmailStudio.Number.Shortest

/-!
# Decimal text of numbers

How a number is written: the digits are the shortest that read back; a `NumberFormat` record holds
the decisions of the format. `fixedPlaces` writes a quotient with a fixed number of places.
-/

namespace EmailStudio

/-- The decisions of a number format. -/
structure NumberFormat where
  /-- The least exponent of the leading digit that is still written positionally. -/
  positionalFrom : Int
  /-- The exponent of the leading digit from which the scientific form is used. -/
  positionalBelow : Int
  /-- The least number of digits of an exponent. -/
  exponentDigits : Nat
  infinity : String
  nan : String

/-- Zeros in front of a text until it has a given length. -/
def padZeros (width : Nat) (s : String) : String :=
  "".pushn '0' (width - s.length) ++ s

/-- Digits without the zeros at their end, and how many of those there were. -/
def trimZeros (digits : List Char) : List Char × Nat :=
  let kept := (digits.reverse.dropWhile (· == '0')).reverse
  (kept, digits.length - kept.length)

namespace NumberFormat

/-- Digits with the point after the leading one, moved by `exponent` places; a whole number keeps
one zero behind the point. -/
def positional (digits : String) (exponent : Int) : String :=
  if exponent < 0 then
    "0." ++ "".pushn '0' ((-exponent).toNat - 1) ++ digits
  else
    let whole := exponent.toNat + 1
    let padded := digits ++ "".pushn '0' (whole - digits.length)
    let places := String.ofList (padded.toList.drop whole)
    String.ofList (padded.toList.take whole) ++ "." ++ (if places.isEmpty then "0" else places)

/-- Digits with the point after the leading one, and a signed exponent. -/
def scientific (f : NumberFormat) (digits : String) (exponent : Int) : String :=
  let head := String.ofList (digits.toList.take 1)
  let tail := String.ofList (digits.toList.drop 1)
  let sign := if exponent < 0 then "-" else "+"
  head ++ (if tail.isEmpty then "" else "." ++ tail) ++ "e" ++ sign
    ++ padZeros f.exponentDigits (toString exponent.natAbs)

/-- The text of a number. -/
def write (f : NumberFormat) (x : Binary64) : String :=
  let sign := if x.negative then "-" else ""
  if x.isNaN then f.nan
  else if !x.isFinite then sign ++ f.infinity
  else if x.isZero then sign ++ "0.0"
  else
    let (d, place) := x.shortest
    let (kept, dropped) := trimZeros (Nat.toDigits 10 d)
    let digits := String.ofList kept
    let exponent := place + dropped + kept.length - 1
    sign ++
      (if f.positionalFrom ≤ exponent ∧ exponent < f.positionalBelow then positional digits exponent
       else f.scientific digits exponent)

/-- Numbers in texts: positional from `0.0001` to below `10 ^ 16`, exponents of two digits. -/
def plain : NumberFormat where
  positionalFrom := -4
  positionalBelow := 16
  exponentDigits := 2
  infinity := "inf"
  nan := "nan"

/-- Numbers in stored documents, which spell the infinities out. -/
def document : NumberFormat :=
  { plain with infinity := "Infinity", nan := "NaN" }

end NumberFormat

/-- A number with a fixed count of places, rounded from its exact value, a tie going to the even
digit. A sign stays even when every digit is zero. -/
def Binary64.fixedPlaces (places : Nat) (x : Binary64) : String :=
  let (num, den) := x.magnitude
  let scaled := Binary64.roundHalfEven (num * Nat.pow 10 places) den
  let digits := padZeros (places + 1) (toString scaled)
  let cut := digits.length - places
  let whole := String.ofList (digits.toList.take cut)
  let tail := String.ofList (digits.toList.drop cut)
  (if x.negative then "-" else "") ++ whole ++ (if places = 0 then "" else "." ++ tail)

end EmailStudio
