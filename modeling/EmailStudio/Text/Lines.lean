/-!
# Line ends

Texts in files may end their lines with a line feed, a carriage return or both; read from a file,
every line ends with a line feed.
-/

namespace EmailStudio.Text

/-- Every line end as one line feed. -/
def unifyLines : List Char → List Char
  | '\r' :: '\n' :: rest => '\n' :: unifyLines rest
  | c :: rest => (if c = '\r' then '\n' else c) :: unifyLines rest
  | [] => []

/-- A text as it is read from a file. -/
def asRead (s : String) : String :=
  String.ofList (unifyLines s.toList)

end EmailStudio.Text
