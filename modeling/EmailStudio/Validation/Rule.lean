import EmailStudio.Url.Parts
import EmailStudio.Validation.Issue

/-!
# Rules for props

One rule for each kind of block. A prop that is absent or null is not judged unless it is required.
-/

namespace EmailStudio.Rule

/-- The issue of a prop, if it has one. -/
def issueIf (bad : Bool) (key : String) (problem : PropProblem) : List PropIssue :=
  if bad then [⟨.prop key, problem⟩] else []

/-- Judges a prop unless it is absent or null. -/
def optional (props : Fields) (key : String) (problem : PropProblem) (good : Value → Bool) :
    List PropIssue :=
  let v := props.get key
  issueIf (!v.isNull && !good v) key problem

def text (props : Fields) (key : String) : List PropIssue :=
  optional props key .notText (·.isText)

def boolean (props : Fields) (key : String) : List PropIssue :=
  optional props key .notBoolean (·.isBool)

/-- A text that is not empty. -/
def required (props : Fields) (key : String) (problem : PropProblem) : List PropIssue :=
  issueIf (match props.get key with
    | .text s => s.isEmpty
    | _ => true) key problem

/-- Whether a value is one of some texts. -/
def isOneOf (options : List String) : Value → Bool
  | .text s => options.contains s
  | _ => false

def choice (props : Fields) (key : String) (options : List String) : List PropIssue :=
  optional props key (.notOneOf options) (isOneOf options)

/-- One of some integers, as an integer or as a whole binary number. -/
def number (props : Fields) (key : String) (options : List Int) : List PropIssue :=
  optional props key (.notOneOf (options.map toString)) fun v => options.any (v.isWhole ·)

def paddingNames : List String := Catalog.paddings.map (·.1)

def buttonPaddingNames : List String := Catalog.buttonPaddings.map (·.1)

def header (props : Fields) : List PropIssue :=
  optional props "logoWidth" (.notBetween Catalog.logoWidthMin Catalog.logoWidthMax)
      (·.isBetween Catalog.logoWidthMin Catalog.logoWidthMax)
    ++ text props "logoUrl" ++ text props "logoAlt"
    ++ choice props "align" Catalog.alignments ++ choice props "padding" paddingNames

def textBlock (props : Fields) : List PropIssue :=
  text props "content" ++ number props "fontSize" Catalog.fontSizes
    ++ choice props "lineHeight" Catalog.lineHeights
    ++ choice props "align" Catalog.textAlignments ++ choice props "padding" paddingNames

/-- Whether a value is a width of an image. -/
def isImageWidth : Value → Bool
  | .text s => s = "full"
  | v => v.isBetween 0 Catalog.maxWidth

/-- What is wrong with the source of an image. A source that holds its own data is not judged; one
whose URL is unsound has no extension. -/
def sourceProblem? (s : String) : Option PropProblem :=
  if s.startsWith "data:" then none
  else
    match Url.parts? s.toList with
    | none => some .notUrl
    | some parts =>
      let extension := Url.extension parts.path
      if Catalog.unsupportedFormats.contains extension then some (.unsupportedFormat extension)
      else none

def source (props : Fields) : List PropIssue :=
  match props.get "src" with
  | .null => []
  | .text s => (sourceProblem? s).toList.map fun problem => ⟨.prop "src", problem⟩
  | _ => [⟨.prop "src", .notText⟩]

def image (props : Fields) : List PropIssue :=
  required props "alt" .requiredForAccess
    ++ optional props "width" (.notWidth Catalog.maxWidth) isImageWidth
    ++ source props ++ text props "href"
    ++ choice props "align" Catalog.alignments ++ choice props "padding" paddingNames

def button (props : Fields) : List PropIssue :=
  required props "text" .required ++ required props "href" .required
    ++ number props "borderRadius" Catalog.borderRadii
    ++ number props "fontSize" Catalog.fontSizes
    ++ choice props "align" Catalog.alignments ++ choice props "padding" buttonPaddingNames
    ++ boolean props "fullWidth"

def columns (props : Fields) : List PropIssue :=
  number props "columns" Catalog.columnCounts ++ choice props "gap" Catalog.columnGaps
    ++ choice props "verticalAlign" Catalog.verticalAligns ++ boolean props "stackOnMobile"

def spacer (props : Fields) : List PropIssue :=
  number props "height" Catalog.spacerHeights

def divider (props : Fields) : List PropIssue :=
  text props "color" ++ number props "width" Catalog.dividerWidths
    ++ choice props "style" Catalog.dividerStyles ++ choice props "padding" paddingNames

/-- Issues of an entry of a list of networks. -/
def network (index : Nat) : Value → List PropIssue
  | .object (fields : Fields) =>
    (if isOneOf Catalog.socialNetworks (fields.get "type") then []
      else [⟨.networkField index "type", .notOneOf Catalog.socialNetworks⟩])
    ++ (if (fields.get "url").isNull || (fields.get "url").isText then []
      else [⟨.networkField index "url", .notText⟩])
  | _ => [⟨.network index, .notObject⟩]

def networks (props : Fields) : List PropIssue :=
  match props.get "networks" with
  | .null => []
  | .list items => items.zipIdx.flatMap fun (item, index) => network index item
  | _ => [⟨.prop "networks", .notList⟩]

def social (props : Fields) : List PropIssue :=
  number props "iconSize" Catalog.socialIconSizes
    ++ choice props "iconStyle" Catalog.socialIconStyles
    ++ choice props "align" Catalog.alignments
    ++ networks props
    ++ Catalog.socialNetworks.flatMap fun name => text props (Catalog.urlField name)

def footer (props : Fields) : List PropIssue :=
  text props "companyName" ++ text props "address" ++ text props "unsubscribeText"
    ++ text props "backgroundColor" ++ text props "textColor" ++ boolean props "showUnsubscribe"

end EmailStudio.Rule

namespace EmailStudio

/-- The issues of the props of a kind of block. -/
def Kind.rule : Kind → Fields → List PropIssue
  | .header => Rule.header
  | .text => Rule.textBlock
  | .image => Rule.image
  | .button => Rule.button
  | .columns => Rule.columns
  | .spacer => Rule.spacer
  | .divider => Rule.divider
  | .social => Rule.social
  | .footer => Rule.footer

end EmailStudio
