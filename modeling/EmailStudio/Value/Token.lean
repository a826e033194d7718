import EmailStudio.Text.Digit
import EmailStudio.Value.Basic

/-!
# Tokens of document text

The text of a document is cut into tokens, each with its position. Cutting never fails: a text that
is not closed or holds a bad escape, and a character that begins no token, become a last token that
the reader reports where it meets it.
-/

namespace EmailStudio

/-- What can be wrong with document text. -/
inductive SyntaxProblem where
  | byteOrderMark
  | expectedValue
  | expectedName
  | expectedColon
  | expectedComma
  | extraData
  | unterminatedText
  | controlCharacter
  | badEscape
  | badUnicodeEscape
  /-- An integer has more digits than are read. -/
  | tooManyDigits (count : Nat)
deriving DecidableEq, Repr

/-- A problem and the position of the character it is reported at. -/
structure SyntaxFault where
  problem : SyntaxProblem
  position : Nat
deriving DecidableEq, Repr

/-- The tokens of document text. -/
inductive Token where
  | openList
  | closeList
  | openObject
  | closeObject
  | comma
  | colon
  | text (s : String)
  | scalar (v : Value)
  | badText (fault : SyntaxFault)
  | unknown
  | finish

/-- A token and the position of its first character. -/
structure Placed where
  token : Token
  position : Nat

namespace Token

/-! ## Texts -/

/-- The character that a one-letter escape stands for. -/
def escaped? : Char → Option Char
  | '"' => some '"'
  | '\\' => some '\\'
  | '/' => some '/'
  | 'b' => some '\x08'
  | 'f' => some '\x0c'
  | 'n' => some '\n'
  | 'r' => some '\r'
  | 't' => some '\t'
  | _ => none

def hexDigit? (c : Char) : Option Nat :=
  if '0' ≤ c ∧ c ≤ '9' then some (c.toNat - 48)
  else if 'a' ≤ c ∧ c ≤ 'f' then some (c.toNat - 87)
  else if 'A' ≤ c ∧ c ≤ 'F' then some (c.toNat - 55)
  else none

/-- The number that four digits of base sixteen write. -/
def hexQuad? (a b c d : Char) : Option Nat := do
  return (((← hexDigit? a) * 16 + (← hexDigit? b)) * 16 + (← hexDigit? c)) * 16 + (← hexDigit? d)

def isHighSurrogate (n : Nat) : Bool :=
  0xD800 ≤ n && n < 0xDC00

def isLowSurrogate (n : Nat) : Bool :=
  0xDC00 ≤ n && n < 0xE000

/-- The character of a code unit. Half of a pair alone is no character and is read as the
replacement character, so a text is the one that was written if it escapes no half alone
(`escapesWhole`). -/
def unitChar (n : Nat) : Char :=
  if isHighSurrogate n || isLowSurrogate n then '\uFFFD' else Char.ofNat n

/-- The character of a pair of code units. -/
def pairChar (high low : Nat) : Char :=
  Char.ofNat (0x10000 + (high - 0xD800) * 0x400 + (low - 0xDC00))

/-- What follows the escape of a first half of a pair. -/
inductive SecondHalf where
  | absent
  | malformed
  | unit (low : Nat)

/-- Looks for the escape of a second half. An escape by code needs a character behind its four
digits; with fewer it is left to be read, and refused, by itself. -/
def secondHalf : List Char → SecondHalf
  | '\\' :: 'u' :: a :: b :: c :: d :: _ :: _ =>
    match hexQuad? a b c d with
    | none => .malformed
    | some low => if isLowSurrogate low then .unit low else .absent
  | _ => .absent

/-- Whether all escapes in the text of a document are of whole characters, so that the escape of
half a pair stands next to that of the other half. -/
def escapesWhole : List Char → Bool
  | '\\' :: 'u' :: a :: b :: c :: d :: rest =>
    match hexQuad? a b c d with
    | none => escapesWhole rest
    | some code =>
      if isHighSurrogate code then
        match secondHalf rest with
        | .unit _ => escapesWhole (rest.drop 6)
        | _ => false
      else !isLowSurrogate code && escapesWhole rest
  | '\\' :: _ :: rest => escapesWhole rest
  | _ :: rest => escapesWhole rest
  | [] => true
termination_by cs => cs.length

/-- Reads a text behind its opening quote: the text, the position behind the closing quote and the
characters that follow. -/
def scanText (start : Nat) (acc : List Char) (position : Nat) :
    List Char → Except SyntaxFault (String × Nat × List Char)
  | [] => .error ⟨.unterminatedText, start⟩
  | '"' :: rest => .ok (String.ofList acc.reverse, position + 1, rest)
  | ['\\'] => .error ⟨.unterminatedText, start⟩
  | '\\' :: 'u' :: a :: b :: c :: d :: e :: rest =>
    match hexQuad? a b c d with
    | none => .error ⟨.badUnicodeEscape, position + 1⟩
    | some code =>
      match if isHighSurrogate code then secondHalf (e :: rest) else .absent with
      | .absent => scanText start (unitChar code :: acc) (position + 6) (e :: rest)
      | .malformed => .error ⟨.badUnicodeEscape, position + 7⟩
      | .unit low => scanText start (pairChar code low :: acc) (position + 12) (rest.drop 5)
  | '\\' :: 'u' :: _ => .error ⟨.badUnicodeEscape, position + 1⟩
  | '\\' :: c :: rest =>
    match escaped? c with
    | some e => scanText start (e :: acc) (position + 2) rest
    | none => .error ⟨.badEscape, position⟩
  | c :: rest =>
    if c.toNat < 0x20 then .error ⟨.controlCharacter, position⟩
    else scanText start (c :: acc) (position + 1) rest
termination_by cs => cs.length

/-! ## Numbers -/

/-- The number that decimal digits write. -/
def digitsValue (digits : List Char) : Nat :=
  digits.foldl (fun n c => 10 * n + (c.toNat - 48)) 0

/-- The digits of the fraction, if a point and a digit follow. -/
def scanFraction : List Char → List Char × List Char
  | '.' :: d :: rest =>
    if d.isDigit then
      (d :: rest.takeWhile Char.isDigit, rest.dropWhile Char.isDigit)
    else ([], '.' :: d :: rest)
  | cs => ([], cs)

/-- The exponent, if the mark, a sign or none, and a digit follow. -/
def scanExponent (cs : List Char) : Option Int × List Char :=
  match cs with
  | mark :: rest =>
    if mark = 'e' ∨ mark = 'E' then
      let (negative, digits) :=
        match rest with
        | '-' :: r => (true, r)
        | '+' :: r => (false, r)
        | r => (false, r)
      match digits.takeWhile Char.isDigit with
      | [] => (none, cs)
      | ds =>
        let n : Int := digitsValue ds
        (some (if negative then -n else n), digits.dropWhile Char.isDigit)
    else (none, cs)
  | [] => (none, cs)

/-- The digits of the whole part: a zero alone, or digits that begin with another one. -/
def scanWhole : List Char → Option (List Char × List Char)
  | '0' :: rest => some (['0'], rest)
  | c :: rest =>
    if c.isDigit then some (c :: rest.takeWhile Char.isDigit, rest.dropWhile Char.isDigit)
    else none
  | [] => none

/-- Reads a number. Without fraction and exponent it is an integer. -/
def scanNumber (cs : List Char) : Option (Value × List Char) :=
  let (negative, body) :=
    match cs with
    | '-' :: rest => (true, rest)
    | _ => (false, cs)
  match scanWhole body with
  | none => none
  | some (whole, rest) =>
    let (fraction, rest) := scanFraction rest
    let (exponent, rest) := scanExponent rest
    if fraction.isEmpty ∧ exponent.isNone then
      let n : Int := digitsValue whole
      some (.int (if negative then -n else n), rest)
    else
      some (.float (Binary64.ofDecimal negative (digitsValue (whole ++ fraction))
        (exponent.getD 0 - fraction.length)), rest)

/-! ## Words -/

/-- The words for values, the longer ones first where one begins another. -/
def words : List (List Char × Value) :=
  [("null".toList, .null), ("true".toList, .bool true), ("false".toList, .bool false),
    ("NaN".toList, .float .nan), ("Infinity".toList, .float (.infinity false)),
    ("-Infinity".toList, .float (.infinity true))]

/-- Reads a word for a value. -/
def scanWord (cs : List Char) : Option (Value × List Char) :=
  words.findSome? fun (word, v) =>
    if word.isPrefixOf cs then some (v, cs.drop word.length) else none

/-- The token of a mark. -/
def mark? : Char → Option Token
  | '[' => some .openList
  | ']' => some .closeList
  | '\x7b' => some .openObject
  | '\x7d' => some .closeObject
  | ',' => some .comma
  | ':' => some .colon
  | _ => none

/-- Blanks between tokens. -/
def isSeparator (c : Char) : Bool :=
  c = ' ' || c = '\t' || c = '\n' || c = '\r'

/-- The token of a value that was written in some characters. -/
def ofScalar (position : Nat) (written : List Char) : Value → Token
  | .int n =>
    let count := written.countP Char.isDigit
    if Text.digitLimit < count then .badText ⟨.tooManyDigits count, position⟩ else .scalar (.int n)
  | v => .scalar v

/-- The next token at a position, and where the text goes on unless it is the last one. -/
def next (position : Nat) (c : Char) (rest : List Char) : Token × Option (Nat × List Char) :=
  match mark? c with
  | some token => (token, some (position + 1, rest))
  | none =>
    if c = '"' then
      match scanText position [] (position + 1) rest with
      | .ok (s, position', rest') => (.text s, some (position', rest'))
      | .error fault => (.badText fault, none)
    else
      match (scanWord (c :: rest)).or (scanNumber (c :: rest)) with
      | some (v, rest') =>
        let size := rest.length + 1 - rest'.length
        (ofScalar position ((c :: rest).take size) v, some (position + size, rest'))
      | none => (.unknown, none)

end Token

/-- Adds the tokens of a text to those before it, which stand in reverse. The fuel is a bound on
the number of steps; a text has at most one more than it has characters. -/
def tokensFrom (before : List Placed) (position : Nat) : Nat → List Char → List Placed
  | _, [] => (⟨.finish, position⟩ :: before).reverse
  | 0, _ => before.reverse
  | fuel + 1, c :: rest =>
    if Token.isSeparator c then tokensFrom before (position + 1) fuel rest
    else
      match Token.next position c rest with
      | (token, some (position', rest')) =>
        tokensFrom (⟨token, position⟩ :: before) position' fuel rest'
      | (token, none) => (⟨token, position⟩ :: before).reverse

/-- The tokens of a text. -/
def tokens (cs : List Char) : List Placed :=
  tokensFrom [] 0 cs.length cs

end EmailStudio
