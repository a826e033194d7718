import EmailStudio.Text.WordChar

/-!
# Data URLs

A data URL says the media type of what it holds, and perhaps parameters, before the data:
`data:image/png;name=a;base64,AAAA`. The words `data` and `base64` may be written in capitals. A
text that does not begin like this is data and nothing else.
-/

namespace EmailStudio.DataUrl

/-- Whether a character is a letter, in either case. The long s counts as s. -/
def isLetter (letter c : Char) : Bool :=
  c.toLower = letter || (letter = 's' && c = 'ſ')

/-- Whether a text is a word, in either case. -/
def isWord (word cs : List Char) : Bool :=
  word.length = cs.length && (word.zip cs).all fun (letter, c) => isLetter letter c

def isTypeChar (c : Char) : Bool :=
  Text.isWordChar c || c = '.' || c = '+' || c = '-'

/-- Takes a media type off the front of a text. -/
def takeType (cs : List Char) : Option String × List Char :=
  let major := cs.takeWhile isTypeChar
  match cs.drop major.length with
  | '/' :: rest =>
    let minor := rest.takeWhile isTypeChar
    if major.isEmpty || minor.isEmpty then (none, cs)
    else (some (String.ofList (major ++ '/' :: minor)), rest.drop minor.length)
  | _ => (none, cs)

/-- The word before the data. -/
def marker : List Char := ";base64".toList

/-- Whether what stands between media type and comma marks data in base64. -/
def isMarked (cs : List Char) : Bool :=
  cs.head? = some ';' && marker.length ≤ cs.length
    && isWord marker (cs.drop (cs.length - marker.length))

/-- The declared media type and the data of a text. -/
def split (cs : List Char) : Option String × List Char :=
  if isWord "data:".toList (cs.take 5) then
    let (type, rest) := takeType (cs.drop 5)
    let header := rest.takeWhile (· ≠ ',')
    if header.length < rest.length && isMarked header then (type, rest.drop (header.length + 1))
    else (none, cs)
  else (none, cs)

end EmailStudio.DataUrl
