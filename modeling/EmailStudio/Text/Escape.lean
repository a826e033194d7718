/-!
# Escaping of markup

Five characters have a meaning in markup and are written as entities. Escaping replaces one
character after the other, the ampersand first; unescaping undoes the replacements in the opposite
order, so that the ampersand comes last.
-/

namespace EmailStudio.Text

/-- The characters with a meaning and their entities, in the order of escaping. -/
def entities : List (Char × List Char) :=
  [('&', "&amp;".toList), ('<', "&lt;".toList), ('>', "&gt;".toList), ('"', "&quot;".toList),
    ('\'', "&#039;".toList)]

/-- Writes a text for every occurrence of a character. -/
def replaceChar (c : Char) (replacement : List Char) (cs : List Char) : List Char :=
  cs.flatMap fun x => if x = c then replacement else [x]

/-- Writes a text for every occurrence of a pattern, from the left. The first argument counts the
characters of an occurrence that are still to be passed over. -/
def replaceFrom (pattern replacement : List Char) : Nat → List Char → List Char
  | _, [] => []
  | skip + 1, _ :: rest => replaceFrom pattern replacement skip rest
  | 0, c :: rest =>
    if pattern.isPrefixOf (c :: rest) then
      replacement ++ replaceFrom pattern replacement (pattern.length - 1) rest
    else
      c :: replaceFrom pattern replacement 0 rest

/-- Writes a text for every occurrence of a pattern that is not empty, from the left. -/
def replaceAll (pattern replacement cs : List Char) : List Char :=
  replaceFrom pattern replacement 0 cs

def escapeChars (cs : List Char) : List Char :=
  entities.foldl (fun acc (c, entity) => replaceChar c entity acc) cs

def unescapeChars (cs : List Char) : List Char :=
  entities.reverse.foldl (fun acc (c, entity) => replaceAll entity [c] acc) cs

/-- The text with the five characters written as entities. -/
def escape (s : String) : String :=
  String.ofList (escapeChars s.toList)

/-- The text with the entities written as characters. -/
def unescape (s : String) : String :=
  String.ofList (unescapeChars s.toList)

end EmailStudio.Text
