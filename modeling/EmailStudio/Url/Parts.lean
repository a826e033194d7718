import EmailStudio.Text.Case
import EmailStudio.Url.Host

/-!
# Parts of URLs

A URL is cut into scheme, authority and path; query, fragment and the parameters behind the path are
left aside. Tabs and line ends count for nothing. The extension of a path is what follows the last
dot of its last name.
-/

namespace EmailStudio.Url

open Text (splitAll)

/-- The parts of a URL that matter here. -/
structure Parts where
  scheme : List Char
  authority : List Char
  path : List Char

def isSchemeChar (c : Char) : Bool :=
  ('a' ≤ c && c ≤ 'z') || ('A' ≤ c && c ≤ 'Z') || ('0' ≤ c && c ≤ '9') || c = '+' || c = '-'
    || c = '.'

/-- A scheme in small letters and what follows its colon; without a scheme the whole text. -/
def splitScheme (cs : List Char) : List Char × List Char :=
  let head := cs.takeWhile (· ≠ ':')
  match head.head?, cs.drop head.length with
  | some first, ':' :: rest =>
    if first.isAlpha && head.all isSchemeChar then (head.map Char.toLower, rest) else ([], cs)
  | _, _ => ([], cs)

/-- The authority behind two slashes, and the rest. -/
def splitAuthority (cs : List Char) : List Char × List Char :=
  match cs with
  | '/' :: '/' :: rest =>
    let authority := rest.takeWhile fun c => c ≠ '/' && c ≠ '?' && c ≠ '#'
    (authority, rest.drop authority.length)
  | _ => ([], cs)

/-- Characters that stand for a text with one of the marks that divide a URL. -/
def disguisedMarks : List Nat := [
  0x2047, 0x2048, 0x2049, 0x2100, 0x2101, 0x2105, 0x2106, 0x2A74, 0xFE13, 0xFE16, 0xFE55, 0xFE56,
  0xFE5F, 0xFE6B, 0xFF03, 0xFF0F, 0xFF1A, 0xFF1F, 0xFF20]

/-- Whether brackets in an authority hold a host, with nothing before them but a user and nothing
behind them but a port. -/
def hasSoundBrackets (authority : List Char) : Bool :=
  if authority.contains '[' || authority.contains ']' then
    authority.contains '[' && authority.contains ']' && (
      let hostAndPort := (authority.reverse.takeWhile (· ≠ '@')).reverse
      match hostAndPort with
      | '[' :: bracketed =>
        let host := bracketed.takeWhile (· ≠ ']')
        let port := bracketed.drop (host.length + 1)
        isBracketed host && (port.isEmpty || port.head? = some ':')
      | _ => false)
  else true

def isSoundAuthority (authority : List Char) : Bool :=
  hasSoundBrackets authority && !authority.any fun c => disguisedMarks.contains c.toNat

/-- The schemes whose paths end in parameters. -/
def parameterSchemes : List String := [
  "", "ftp", "hdl", "prospero", "http", "imap", "https", "shttp", "rtsp", "rtspu", "sip", "sips",
  "mms", "sftp", "tel"]

/-- The path without the parameters of its last segment. -/
def cutParameters (path : List Char) : List Char :=
  let last := (path.reverse.takeWhile (· ≠ '/')).reverse
  path.take (path.length - last.length) ++ last.takeWhile (· ≠ ';')

/-- What becomes of blanks and control characters before a URL: older releases of the parser that
this follows keep them as a part of the URL, newer ones drop them. -/
inductive Leading where
  | kept
  | dropped

namespace Leading

def apply : Leading → List Char → List Char
  | kept, url => url
  | dropped, url => url.dropWhile fun c => c.toNat ≤ 0x20

end Leading

/-- Cuts a URL into parts, unless its authority is unsound. -/
def partsWith (leading : Leading) (url : List Char) : Option Parts :=
  let cs := (leading.apply url).filter fun c => c ≠ '\t' && c ≠ '\n' && c ≠ '\r'
  let (scheme, rest) := splitScheme cs
  let (authority, rest) := splitAuthority rest
  if isSoundAuthority authority then
    let path := (rest.takeWhile (· ≠ '#')).takeWhile (· ≠ '?')
    some {
      scheme := scheme
      authority := authority
      path :=
        if parameterSchemes.contains (String.ofList scheme) then cutParameters path else path }
  else none

/-- The parts of a URL, by the release that the program runs with. -/
def parts? (url : List Char) : Option Parts :=
  partsWith .kept url

/-- Releases differ in URLs that begin with such a character, and in no others. -/
theorem partsWith_eq_parts? {url : List Char} (leading : Leading)
    (h : ∀ c ∈ url.head?, 0x20 < c.toNat) : partsWith leading url = parts? url := by
  cases leading with
  | kept => rfl
  | dropped =>
    have happly : Leading.dropped.apply url = Leading.kept.apply url := by
      cases url with
      | nil => rfl
      | cons c url =>
        have hc := h c rfl
        show (c :: url).dropWhile (fun c => decide (c.toNat ≤ 0x20)) = c :: url
        rw [List.dropWhile_cons_of_neg]
        simpa using hc
    rw [parts?, partsWith, partsWith, happly]

/-- The last name of a path. -/
def lastName (path : List Char) : List Char :=
  ((splitAll '/' path).filter fun name => name ≠ [] && name ≠ ['.']).getLast?.getD []

/-- The extension of a path in small letters, empty when it has none. A dot that begins or ends the
name makes no extension. -/
def extension (path : List Char) : String :=
  let name := lastName path
  let tail := (name.reverse.takeWhile (· ≠ '.')).reverse
  if tail.isEmpty || name.length < tail.length + 2 then ""
  else Text.lower (String.ofList tail)

end EmailStudio.Url
