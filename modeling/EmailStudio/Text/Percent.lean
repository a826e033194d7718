/-!
# Percent signs

In addresses a percent sign and two digits of base sixteen stand for a byte. The bytes are read as
text; where they make none, a replacement character stands for as much as could have begun one.
-/

namespace EmailStudio.Text

/-- A byte, or a character that stands for itself. -/
inductive AddressPart where
  | byte (b : UInt8)
  | char (c : Char)

namespace AddressPart

def hexDigit? (c : Char) : Option Nat :=
  if '0' ≤ c ∧ c ≤ '9' then some (c.toNat - 48)
  else if 'a' ≤ c ∧ c ≤ 'f' then some (c.toNat - 87)
  else if 'A' ≤ c ∧ c ≤ 'F' then some (c.toNat - 55)
  else none

/-- The part of a character: those of the first 128 are bytes. -/
def ofChar (c : Char) : AddressPart :=
  if c.toNat < 0x80 then byte c.toUInt8 else char c

/-- The parts of a text. -/
def ofText : List Char → List AddressPart
  | c :: a :: b :: rest =>
    if c = '%' then
      match hexDigit? a, hexDigit? b with
      | some x, some y => byte (UInt8.ofNat (16 * x + y)) :: ofText rest
      | _, _ => ofChar c :: ofText (a :: b :: rest)
    else ofChar c :: ofText (a :: b :: rest)
  | c :: rest => ofChar c :: ofText rest
  | [] => []

/-- A character that is made of several bytes and not complete: how many bytes are missing, the bits
so far and the bounds of the next byte. -/
structure Unfinished where
  missing : Nat
  bits : Nat
  low : Nat
  high : Nat

/-- What a byte begins. -/
def begins? (b : Nat) : Option Unfinished :=
  if 0xc2 ≤ b ∧ b ≤ 0xdf then some ⟨1, b % 32, 0x80, 0xbf⟩
  else if 0xe0 ≤ b ∧ b ≤ 0xef then
    some ⟨2, b % 16, if b = 0xe0 then 0xa0 else 0x80, if b = 0xed then 0x9f else 0xbf⟩
  else if 0xf0 ≤ b ∧ b ≤ 0xf4 then
    some ⟨3, b % 8, if b = 0xf0 then 0x90 else 0x80, if b = 0xf4 then 0x8f else 0xbf⟩
  else none

/-- The replacement character. -/
def replacement : Char := '\uFFFD'

/-- What stands for a character that is never completed. -/
def dropped (unfinished : Option Unfinished) : List Char :=
  if unfinished.isSome then [replacement] else []

/-- The text of parts, behind a character that may be unfinished. -/
def read (unfinished : Option Unfinished) : List AddressPart → List Char
  | [] => dropped unfinished
  | char c :: rest => dropped unfinished ++ c :: read none rest
  | byte b :: rest =>
    let b := b.toNat
    let fresh : List Char × Option Unfinished :=
      if b < 0x80 then ([Char.ofNat b], none)
      else
        match begins? b with
        | some begun => ([], some begun)
        | none => ([replacement], none)
    let (cs, next) : List Char × Option Unfinished :=
      match unfinished with
      | none => fresh
      | some u =>
        if u.low ≤ b ∧ b ≤ u.high then
          let bits := u.bits * 64 + b % 64
          if u.missing ≤ 1 then ([Char.ofNat bits], none)
          else ([], some ⟨u.missing - 1, bits, 0x80, 0xbf⟩)
        else (replacement :: fresh.1, fresh.2)
    cs ++ read next rest

end AddressPart

/-- Resolves percent signs. -/
def unquote (s : String) : String :=
  String.ofList (AddressPart.read none (AddressPart.ofText s.toList))

end EmailStudio.Text
