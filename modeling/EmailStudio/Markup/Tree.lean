/-!
# Markup

A markup document has a head, and a body of sections. A section is divided into columns, which hold
content elements and nothing else. `Markup.text` writes the document out.
-/

namespace EmailStudio

/-- The attributes of an element, in order. -/
abbrev Attributes := List (String × String)

/-- An entry of a row of social icons. -/
structure SocialIcon where
  name : String
  href : String
  size : String
  background : Option String

/-- An element of content. -/
inductive Element where
  /-- An element with attributes and perhaps a body. -/
  | plain (tag : String) (attributes : Attributes) (body : Option String)
  /-- A row of social icons. -/
  | social (align mode : String) (icons : List SocialIcon)

/-- A column of a section. -/
structure Column where
  attributes : Attributes
  elements : List Element

/-- A section of the body. -/
structure Section where
  attributes : Attributes
  columns : List Column

/-- A markup document. -/
structure Markup where
  title : String
  preview : String
  font : String
  background : String
  width : String
  sections : List Section

/-! ## Writing -/

/-- Lines one below the other. -/
def joinLines (lines : List String) : String :=
  "\n".intercalate lines

/-- An attribute as it is written. -/
def attributeText (pair : String × String) : String :=
  pair.1 ++ "=\"" ++ pair.2 ++ "\""

/-- Attributes on the line of their element. -/
def inlineAttributes (attributes : Attributes) : String :=
  String.join (attributes.map fun pair => " " ++ attributeText pair)

namespace SocialIcon

def text (icon : SocialIcon) : String :=
  "          <mj-social-element"
    ++ inlineAttributes ([("name", icon.name), ("href", icon.href), ("icon-size", icon.size)]
      ++ icon.background.toList.map fun color => ("background-color", color))
    ++ " />"

end SocialIcon

namespace Element

/-- An element with an attribute to a line. -/
def text : Element → String
  | plain tag attributes body =>
    joinLines (["        <" ++ tag]
      ++ attributes.map (fun pair => "          " ++ attributeText pair)
      ++ [match body with
        | none => "        />"
        | some body => "        >" ++ body ++ "</" ++ tag ++ ">"])
  | social align mode icons =>
    joinLines (["        <mj-social" ++ inlineAttributes [("align", align), ("mode", mode)] ++ ">"]
      ++ icons.map (·.text)
      ++ ["        </mj-social>"])

end Element

/-- What stands in a column that holds nothing. -/
def emptyColumn : String := "        <!-- Empty column -->"

namespace Column

def text (column : Column) : String :=
  joinLines (["      <mj-column" ++ inlineAttributes column.attributes ++ ">"]
    ++ (if column.elements.isEmpty then [emptyColumn] else column.elements.map (·.text))
    ++ ["      </mj-column>"])

end Column

namespace Section

def text (part : Section) : String :=
  "    <mj-section" ++ inlineAttributes part.attributes ++ ">\n"
    ++ joinLines (part.columns.map (·.text))
    ++ "\n    </mj-section>"

end Section

namespace Markup

def text (markup : Markup) : String :=
  joinLines (["<mjml>",
    "  <mj-head>",
    "    <mj-title>" ++ markup.title ++ "</mj-title>",
    "    <mj-preview>" ++ markup.preview ++ "</mj-preview>",
    "    <mj-attributes>",
    "      <mj-all font-family=\"" ++ markup.font ++ "\" />",
    "      <mj-body background-color=\"" ++ markup.background ++ "\" />",
    "      <mj-section padding=\"0\" />",
    "    </mj-attributes>",
    "  </mj-head>",
    "  <mj-body width=\"" ++ markup.width ++ "\">"]
    ++ markup.sections.map (·.text)
    ++ ["  </mj-body>", "</mjml>"])

end Markup

end EmailStudio
