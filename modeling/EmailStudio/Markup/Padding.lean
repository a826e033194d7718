import EmailStudio.Catalog
import EmailStudio.Fault
import EmailStudio.Text.Escape

/-!
# Values in markup

How the values of props are written into markup: as escaped text, as a length that a padding is the
name of, or as a number of pixels.
-/

namespace EmailStudio.Value

/-- Escaped text. What does not count as given is empty. -/
def escaped (v : Value) : Except Fault String :=
  if v.truthy then
    match v with
    | text s => .ok (Text.escape s)
    | _ => .error .notText
  else .ok ""

/-- Text with its entities resolved. -/
def unescaped : Value → Except Fault String
  | text s => .ok (Text.unescape s)
  | _ => .error .notText

/-- What a value is the key of in a table, or a default for other keys. Lists and objects that are
not empty cannot be keys. -/
def keyIn (table : List (String × String)) (default : String) (v : Value) : Except Fault String :=
  match v with
  | text s => .ok ((table.lookup s).getD default)
  | list (_ :: _) | object (_ :: _) => .error .notKey
  | _ => .ok default

/-- The length that a padding stands for. -/
def padding (v : Value) : Except Fault String :=
  v.keyIn Catalog.paddings Catalog.defaultPadding

/-- The lengths that the padding of a button stands for. -/
def buttonPadding (v : Value) : Except Fault String :=
  v.keyIn Catalog.buttonPaddings Catalog.defaultButtonPadding

/-- A value with a whole binary number written as an integer. -/
def measure (v : Value) : String :=
  match v with
  | float x =>
    match x.toInt? with
    | some n => toString n
    | none => v.plain
  | _ => v.plain

/-- A number of pixels. -/
def pixels (v : Value) : String :=
  v.measure ++ "px"

end EmailStudio.Value
