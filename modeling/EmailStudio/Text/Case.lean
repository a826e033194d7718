import EmailStudio.Text.CaseTable

/-!
# Lower case and title case

Case mapping of whole texts. It is a mapping of characters except that a capital sigma becomes a
final sigma where a cased letter stands before it and none after it, characters that are passed
over not counting.
-/

namespace EmailStudio.Text

def isCased (c : Char) : Bool :=
  casedRanges.contains c

def isCaseIgnorable (c : Char) : Bool :=
  caseIgnorableRanges.contains c

/-- The first character that is not passed over is cased. -/
def meetsCased (cs : List Char) : Bool :=
  match cs.dropWhile isCaseIgnorable with
  | [] => false
  | c :: _ => isCased c

/-- The lower case of a character between the characters before it, nearest first, and the
characters after it. -/
def lowerChar (before : List Char) (c : Char) (after : List Char) : List Char :=
  if c = 'Σ' then
    if meetsCased before && !meetsCased after then ['ς'] else ['σ']
  else if c = 'İ' then ['i', '\u0307']
  else if c.toNat < 128 then [c.toLower]
  else [(lowerRuns.findSome? fun r => r.apply? c).getD c]

/-- The title case of a character. -/
def titleChar (c : Char) : List Char :=
  match titleExpansions.lookup c.toNat with
  | some codes => codes.map Char.ofNat
  | none => [(titleRuns.findSome? fun r => r.apply? c).getD c]

/-- Maps each character in view of those before it, nearest first, and those after it. -/
def mapInContext (f : List Char → Char → List Char → List Char) :
    List Char → List Char → List Char → List Char
  | acc, _, [] => acc.reverse
  | acc, before, c :: after =>
    mapInContext f ((f before c after).reverse ++ acc) (c :: before) after

def lower (s : String) : String :=
  String.ofList (mapInContext lowerChar [] [] s.toList)

/-- Title case: a letter after a cased letter is written small, any other large. -/
def title (s : String) : String :=
  String.ofList (mapInContext
    (fun before c after =>
      match before with
      | p :: _ => if isCased p then lowerChar before c after else titleChar c
      | [] => titleChar c)
    [] [] s.toList)

end EmailStudio.Text
