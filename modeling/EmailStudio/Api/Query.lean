import EmailStudio.Intake.Field
import EmailStudio.Text.Percent
import EmailStudio.Text.Split

/-!
# Query parameters

Parameters stand behind the question mark of an address, with ampersands between them. A plus sign
is a blank, and a percent sign with two digits of base sixteen is a byte. A parameter that is given
several times has its last value.
-/

namespace EmailStudio.Api.Query

/-- The text of a name or of a value. -/
def decodeText (cs : List Char) : String :=
  Text.unquote (String.ofList (cs.map fun c => if c = '+' then ' ' else c))

/-- The name and the value of a parameter; a parameter without an equals sign is empty. -/
def parameter (cs : List Char) : String × String :=
  let name := cs.takeWhile (· ≠ '=')
  (decodeText name, decodeText (cs.drop (name.length + 1)))

/-- All parameters, in order. -/
def parameters (query : String) : List (String × String) :=
  ((Text.splitAll '&' query.toList).filter fun part => !part.isEmpty).map parameter

/-- The parameters as fields of a record. -/
def fields (query : String) : Fields :=
  (parameters query).foldl (fun (acc : Fields) (name, value) => acc.set name (.text value)) []

end EmailStudio.Api.Query
