import EmailStudio.Text.Case

/-!
# Names of fields

Fields of a document have names in camel case. A name whose words are joined by low lines becomes
one by giving each word but the first a capital.
-/

namespace EmailStudio.Text

/-- The name of the field for words that are joined by low lines. -/
def camel (name : String) : String :=
  match name.splitOn "_" with
  | [] => ""
  | head :: words => head ++ String.join (words.map title)

end EmailStudio.Text
