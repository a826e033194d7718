import EmailStudio.Number.Decimal
import EmailStudio.Value.Text

/-!
# Writing document text

Documents are kept as compact text: no blanks, fields in their order, characters as they are except
quotes, backslashes and controls.
-/

namespace EmailStudio

namespace Text

/-- A character inside a text of a document. -/
def escapeChar (c : Char) : String :=
  if c = '"' then "\\\""
  else if c = '\\' then "\\\\"
  else if c = '\n' then "\\n"
  else if c = '\r' then "\\r"
  else if c = '\t' then "\\t"
  else if c = '\x08' then "\\b"
  else if c = '\x0c' then "\\f"
  else if c.toNat < 0x20 then "\\u" ++ hex 4 c.toNat
  else String.singleton c

/-- A text of a document, in double quotes. -/
def enclose (s : String) : String :=
  "\"" ++ String.join (s.toList.map escapeChar) ++ "\""

end Text

namespace Value

mutual

/-- The text of a document. -/
def write : Value → String
  | null => "null"
  | bool true => "true"
  | bool false => "false"
  | int n => toString n
  | float x => NumberFormat.document.write x
  | text s => Text.enclose s
  | list items => "[" ++ ",".intercalate (writeItems items) ++ "]"
  | object fields => "\x7b" ++ ",".intercalate (writeFields fields) ++ "\x7d"

def writeItems : List Value → List String
  | [] => []
  | v :: rest => write v :: writeItems rest

def writeFields : List (String × Value) → List String
  | [] => []
  | (k, v) :: rest => (Text.enclose k ++ ":" ++ write v) :: writeFields rest

end

end Value

end EmailStudio
