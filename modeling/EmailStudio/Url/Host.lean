import EmailStudio.Text.Split

/-!
# Hosts in brackets

What may stand in brackets in the authority of a URL: an address of eight groups of hexadecimal
digits, where one run of zero groups may be left out and the last two groups may be written as four
decimal bytes, or an address of a future version.
-/

namespace EmailStudio.Url

open Text (splitAll)

def isHexDigit (c : Char) : Bool :=
  ('0' ≤ c && c ≤ '9') || ('a' ≤ c && c ≤ 'f') || ('A' ≤ c && c ≤ 'F')

/-- One to four hexadecimal digits. -/
def isGroup (cs : List Char) : Bool :=
  !cs.isEmpty && cs.length ≤ 4 && cs.all isHexDigit

/-- One to three decimal digits without needless zeros, at most 255. -/
def isByte (cs : List Char) : Bool :=
  !cs.isEmpty && cs.length ≤ 3 && cs.all Char.isDigit
    && (cs.length = 1 || cs.head? ≠ some '0')
    && (cs.foldl (fun n c => 10 * n + (c.toNat - 48)) 0) ≤ 255

/-- Four bytes with dots between them. -/
def isDottedQuad (cs : List Char) : Bool :=
  let parts := splitAll '.' cs
  parts.length = 4 && parts.all isByte

/-- The groups of an address; a dotted quad at the end counts as two. -/
def groups? (cs : List Char) : Option (List (List Char)) :=
  let parts := splitAll ':' cs
  match parts.getLast? with
  | some last =>
    if last.contains '.' then
      if isDottedQuad last then some (parts.dropLast ++ [['0'], ['0']]) else none
    else some parts
  | none => none

/-- Whether groups make an address. An empty group stands for the run that is left out; at either
end it must stand beside another one. -/
def areGroups (parts : List (List Char)) : Bool :=
  let inner := parts.tail.dropLast
  let gaps := inner.count []
  if gaps = 0 then parts.length = 8 && parts.all isGroup
  else if gaps = 1 then
    let before := parts.takeWhile (· ≠ [])
    let high := if parts.head? = some [] then [] else before
    let after := parts.drop (if parts.head? = some [] then 2 else before.length + 1)
    let low := if after.getLast? = some [] then after.dropLast else after
    (parts.head? ≠ some [] || (parts.drop 1).head? = some [])
      && (after.getLast? ≠ some [] || after.length = 1)
      && high.length + low.length < 8 && high.all isGroup && low.all isGroup
  else false

/-- An address of eight groups, perhaps with a zone behind a percent sign. -/
def isGroupAddress (cs : List Char) : Bool :=
  let address := cs.takeWhile (· ≠ '%')
  let zone := cs.drop address.length
  let zoneOk := zone.isEmpty || (zone.length ≥ 2 && !(zone.drop 1).contains '%')
  3 ≤ (splitAll ':' address).length && zoneOk
    && match groups? address with
      | some parts => parts.length ≤ 9 && areGroups parts
      | none => false

/-- An address of a future version: `v`, hexadecimal digits, a dot and something more. -/
def isFutureAddress : List Char → Bool
  | 'v' :: rest =>
    let digits := rest.takeWhile isHexDigit
    !digits.isEmpty && (match rest.drop digits.length with
      | '.' :: _ :: _ => true
      | _ => false)
  | _ => false

/-- Whether a host may stand in brackets. -/
def isBracketed (cs : List Char) : Bool :=
  match cs with
  | 'v' :: _ => isFutureAddress cs
  | _ => isGroupAddress cs

end EmailStudio.Url
