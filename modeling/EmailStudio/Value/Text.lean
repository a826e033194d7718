import EmailStudio.Number.Decimal
import EmailStudio.Text.Unprintable
import EmailStudio.Value.Basic

/-!
# The text of a value

How a value reads inside a message or an attribute. At the top a text stands as it is; inside lists
and objects it is quoted. A quote is single unless the text holds single quotes and no double ones.
-/

namespace EmailStudio

namespace Text

/-- A number in base sixteen, small letters, with zeros in front up to a width. -/
def hex (width n : Nat) : String :=
  padZeros width (String.ofList (Nat.toDigits 16 n))

/-- A character inside a quoted text. -/
def quoteChar (quote : Char) (c : Char) : String :=
  if c = quote ∨ c = '\\' then String.ofList ['\\', c]
  else if c = '\n' then "\\n"
  else if c = '\r' then "\\r"
  else if c = '\t' then "\\t"
  else if isPrintable c then String.singleton c
  else if c.toNat < 0x100 then "\\x" ++ hex 2 c.toNat
  else if c.toNat < 0x10000 then "\\u" ++ hex 4 c.toNat
  else "\\U" ++ hex 8 c.toNat

/-- A text in quotes. -/
def quote (s : String) : String :=
  let mark := if s.contains '\'' && !s.contains '"' then '"' else '\''
  String.singleton mark ++ String.join (s.toList.map (quoteChar mark)) ++ String.singleton mark

end Text

namespace Value

mutual

/-- A value as it reads inside another one. -/
def quoted : Value → String
  | null => "None"
  | bool true => "True"
  | bool false => "False"
  | int n => toString n
  | float x => NumberFormat.plain.write x
  | text s => Text.quote s
  | list items => "[" ++ ", ".intercalate (quotedItems items) ++ "]"
  | object fields => "\x7b" ++ ", ".intercalate (quotedFields fields) ++ "\x7d"

def quotedItems : List Value → List String
  | [] => []
  | v :: rest => quoted v :: quotedItems rest

def quotedFields : List (String × Value) → List String
  | [] => []
  | (k, v) :: rest => (Text.quote k ++ ": " ++ quoted v) :: quotedFields rest

end

/-- A value as it reads in a message. -/
def plain : Value → String
  | text s => s
  | v => v.quoted

end Value

end EmailStudio
