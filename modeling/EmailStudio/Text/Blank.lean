import EmailStudio.Text.CharRanges

/-!
# White space

Blanks are the white space of every script together with the information separators. `strip`
removes them from both ends of a text and `removeBlanks` everywhere.
-/

namespace EmailStudio.Text

/-- Code points of blanks. -/
def blankRanges : CharRanges := [
  (0x9, 0xd), (0x1c, 0x20), (0x85, 0x85), (0xa0, 0xa0), (0x1680, 0x1680), (0x2000, 0x200a),
  (0x2028, 0x2029), (0x202f, 0x202f), (0x205f, 0x205f), (0x3000, 0x3000)]

def isBlank (c : Char) : Bool :=
  blankRanges.contains c

/-- Text without the characters of a kind at its start. -/
def stripLeft (p : Char → Bool) (cs : List Char) : List Char :=
  cs.dropWhile p

/-- Text without the characters of a kind at its end. -/
def stripRight (p : Char → Bool) (cs : List Char) : List Char :=
  (cs.reverse.dropWhile p).reverse

/-- Text without the characters of a kind at both ends. -/
def stripBoth (p : Char → Bool) (cs : List Char) : List Char :=
  stripRight p (stripLeft p cs)

/-- Text without the blanks at both ends. -/
def strip (s : String) : String :=
  String.ofList (stripBoth isBlank s.toList)

/-- Text without any blanks. -/
def removeBlanks (cs : List Char) : List Char :=
  cs.filter fun c => !isBlank c

end EmailStudio.Text
