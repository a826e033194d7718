import EmailStudio.Value.Basic

/-!
# Kinds of blocks

The closed set of blocks that a document is made of.
-/

namespace EmailStudio

/-- The kinds of blocks. -/
inductive Kind where
  | header
  | text
  | image
  | button
  | columns
  | spacer
  | divider
  | social
  | footer
deriving DecidableEq, Repr

namespace Kind

def all : List Kind :=
  [header, text, image, button, columns, spacer, divider, social, footer]

/-- The name of a kind in a document. -/
def name : Kind → String
  | header => "EmailHeader"
  | text => "EmailText"
  | image => "EmailImage"
  | button => "EmailButton"
  | columns => "EmailColumns"
  | spacer => "EmailSpacer"
  | divider => "EmailDivider"
  | social => "EmailSocial"
  | footer => "EmailFooter"

/-- The kind of a name. -/
def ofName? (s : String) : Option Kind :=
  all.find? fun kind => kind.name = s

/-- The kind that a value names. -/
def ofValue? : Value → Option Kind
  | .text s => ofName? s
  | _ => none

theorem ofName?_name (kind : Kind) : ofName? kind.name = some kind := by
  cases kind <;> rfl

end Kind

end EmailStudio
