import EmailStudio.Text.Split

/-!
# Paths

A path is a text of names with slashes between them. Empty names and dots lead nowhere, two dots
lead one directory up, and a slash at the start leads to the top.
-/

namespace EmailStudio.Path

/-- The names between the slashes of a text, empty ones included. -/
def names (s : String) : List String :=
  (Text.splitAll '/' s.toList).map String.ofList

/-- The names that lead somewhere. -/
def steps (s : String) : List String :=
  (names s).filter fun name => name ≠ "" && name ≠ "."

/-- Follows a name from a directory, whose names stand in reverse. At the top the way up leads
nowhere. -/
def follow (place : List String) (name : String) : List String :=
  if name = "" ∨ name = "." then place
  else if name = ".." then place.tail
  else name :: place

/-- The place that a path leads to from a directory. -/
def absolute (directory : List String) (s : String) : List String :=
  let start := if s.startsWith "/" then [] else directory.reverse
  ((names s).foldl follow start).reverse

/-- A place below a directory as a path; the directory itself is a dot. -/
def text (place : List String) : String :=
  if place.isEmpty then "." else "/".intercalate place

/-- A path without needless slashes and dots. Two slashes at its start stay. -/
def tidy (s : String) : String :=
  let start :=
    if s.startsWith "///" then "/" else if s.startsWith "//" then "//"
    else if s.startsWith "/" then "/" else ""
  let path := start ++ "/".intercalate (steps s)
  if path.isEmpty then "." else path

/-- A text without the slashes at its end. -/
def trimEnd (s : String) : String :=
  String.ofList (s.toList.reverse.dropWhile (· = '/')).reverse

/-- A text without the slashes at both ends. -/
def trim (s : String) : String :=
  trimEnd (String.ofList (s.toList.dropWhile (· = '/')))

end EmailStudio.Path
