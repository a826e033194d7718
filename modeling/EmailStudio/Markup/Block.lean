import EmailStudio.Document.Template
import EmailStudio.Markup.Columns
import EmailStudio.Markup.Padding
import EmailStudio.Markup.Tree
import EmailStudio.Value.Integer

/-!
# Markup of blocks

A block of the content becomes a section; a block inside columns only gives its elements, and what
would be the background and the padding of its section goes onto the element. Columns inside columns
give the elements of all they hold, in order. Texts are escaped except the content of a text block.
-/

namespace EmailStudio

/-- An element and the surroundings that it has from its section, or carries itself. -/
structure Fragment where
  element : Element
  background : Option String
  padding : Option String

namespace Fragment

/-- Attributes of given values. -/
def attributesOf (attributes : List (String × Option String)) : Attributes :=
  attributes.filterMap fun (name, value) => value.map fun v => (name, v)

/-- The element with its surroundings on itself. -/
def nested (fragment : Fragment) : Element :=
  match fragment.element with
  | .plain tag attributes body =>
    .plain tag (attributes ++ attributesOf
      [("container-background-color", fragment.background), ("padding", fragment.padding)]) body
  | element => element

/-- The section of the element alone. -/
def alone (fragment : Fragment) : Section where
  attributes := attributesOf
    [("background-color", fragment.background), ("padding", fragment.padding)]
  columns := [⟨[], [fragment.element]⟩]

end Fragment

/-- An attribute that is written as it is, and left out when null. -/
def Value.attributeText (v : Value) : Option String :=
  if v.isNull then none else some v.plain

namespace HeaderProps

def fragment (props : HeaderProps) : Except Fault Fragment := do
  let padding ← props.padding.padding
  let background ← props.backgroundColor.escaped
  let src ← props.logoUrl.escaped
  let alt ← (props.logoAlt.orElse (.text "Logo")).escaped
  return {
    element := .plain "mj-image" (Fragment.attributesOf [
      ("src", some src),
      ("alt", some alt),
      ("width", some props.logoWidth.pixels),
      ("align", props.align.attributeText)]) none
    background := some background
    padding := some padding }

end HeaderProps

namespace TextProps

/-- The content as it was written. -/
def body (props : TextProps) : String :=
  if props.content.truthy then props.content.plain else ""

def fragment (props : TextProps) : Except Fault Fragment := do
  let padding ← props.padding.padding
  let font ← props.fontFamily.escaped
  let color ← props.color.escaped
  return {
    element := .plain "mj-text" (Fragment.attributesOf [
      ("font-size", some props.fontSize.pixels),
      ("font-family", some font),
      ("color", some color),
      ("align", props.align.attributeText),
      ("line-height", props.lineHeight.attributeText)]) (some props.body)
    background := none
    padding := some padding }

end TextProps

namespace ImageProps

/-- Whether an image takes the whole width: it says so, or has no width of its own. -/
def isFullWidth (props : ImageProps) : Bool :=
  match props.width with
  | .text s => s = "full"
  | .bool b => !b
  | v => v.isWhole 0

def fragment (props : ImageProps) : Except Fault Fragment := do
  let padding ← props.padding.padding
  let src ← props.src.escaped
  let alt ← props.alt.escaped
  let href ← if props.href.truthy then some <$> props.href.escaped else pure none
  return {
    element := .plain "mj-image" (Fragment.attributesOf [
      ("src", some src),
      ("alt", some alt),
      ("width", some (if props.isFullWidth then "100%" else props.width.pixels)),
      ("align", props.align.attributeText),
      ("href", href)]) none
    background := none
    padding := some padding }

end ImageProps

namespace ButtonProps

def fragment (props : ButtonProps) : Except Fault Fragment := do
  let href ← props.href.escaped
  let background ← props.backgroundColor.escaped
  let color ← props.textColor.escaped
  let padding ← props.padding.buttonPadding
  let text ← props.text.escaped
  return {
    element := .plain "mj-button" (Fragment.attributesOf [
      ("href", some href),
      ("background-color", some background),
      ("color", some color),
      ("font-size", some props.fontSize.pixels),
      ("border-radius", some props.borderRadius.pixels),
      ("align", props.align.attributeText),
      ("padding", some padding),
      ("width", if props.fullWidth.truthy then some "100%" else none)]) (some text)
    background := none
    padding := none }

end ButtonProps

namespace SpacerProps

def fragment (props : SpacerProps) : Fragment where
  element := .plain "mj-spacer" [("height", props.height.pixels)] none
  background := none
  padding := none

end SpacerProps

namespace DividerProps

def fragment (props : DividerProps) : Except Fault Fragment := do
  let padding ← props.padding.padding
  let color ← props.color.escaped
  return {
    element := .plain "mj-divider" (Fragment.attributesOf [
      ("border-color", some color),
      ("border-width", some props.width.pixels),
      ("border-style", props.style.attributeText)]) none
    background := none
    padding := some padding }

end DividerProps

namespace SocialProps

/-- The background of the icons of a style; icons in color bring their own. -/
def iconBackground (style : Value) : Except Fault (Option String) :=
  match style with
  | .text "black" => .ok (some "#000000")
  | .text "white" => .ok (some "#ffffff")
  | .list _ | .object _ => .error .notKey
  | _ => .ok none

/-- The icon of a network. -/
def icon (size : String) (background : Option String) (network : SocialNetwork) :
    Except Fault SocialIcon := do
  return ⟨network.type.plain, ← network.url.escaped, size, background⟩

/-- A row of the networks that have an address; without any the block gives nothing. -/
def fragment? (props : SocialProps) : Except Fault (Option Fragment) := do
  let background ← iconBackground props.iconStyle
  let icons ← (props.networks.filter (·.url.truthy)).mapM (icon props.iconSize.pixels background)
  if icons.isEmpty then
    return none
  else
    let mode := match props.iconStyle with
      | .text "color" => "vertical"
      | _ => "horizontal"
    return some ⟨.social props.align.plain mode icons, none, none⟩

end SocialProps

namespace FooterProps

/-- The address with its lines kept apart. -/
def addressText (escapedAddress : String) : String :=
  String.ofList (Text.replaceChar '\n' "<br/>".toList escapedAddress.toList)

/-- The link for leaving the list. -/
def unsubscribeLine (color text : String) : String :=
  "          <br/><a href=\"" ++ Catalog.unsubscribePlaceholder ++ "\" style=\"color: " ++ color
    ++ "; text-decoration: underline;\">" ++ text ++ "</a>"

def fragment (props : FooterProps) : Except Fault Fragment := do
  let background ← props.backgroundColor.escaped
  let color ← props.textColor.escaped
  let address ← props.address.escaped
  let company ← props.companyName.escaped
  let unsubscribe ←
    if props.showUnsubscribe.truthy then
      pure [unsubscribeLine color (← (props.unsubscribeText.orElse (.text "Unsubscribe")).escaped)]
    else
      pure []
  let lines := ["          <strong>" ++ company ++ "</strong><br/>",
    "          " ++ addressText address] ++ unsubscribe
  return {
    element := .plain "mj-text" [
      ("font-size", "12px"),
      ("color", color),
      ("align", "center"),
      ("line-height", "1.6")] (some ("\n" ++ joinLines lines ++ "\n        "))
    background := some background
    padding := none }

end FooterProps

namespace Block

/-- The fragment of a block other than columns, if it gives anything. -/
def fragment? : Block → Except Fault (Option Fragment)
  | header props => some <$> props.fragment
  | text props => some <$> props.fragment
  | image props => some <$> props.fragment
  | button props => some <$> props.fragment
  | columns _ _ => .ok none
  | spacer props => .ok (some props.fragment)
  | divider props => some <$> props.fragment
  | social props => props.fragment?
  | footer props => some <$> props.fragment

mutual

/-- The elements of a block inside columns. -/
def elements : Block → Except Fault (List Element)
  | columns _ children => elementsOfAll children
  | block => do return (← block.fragment?).toList.map (·.nested)

/-- The elements of blocks inside columns, one block after the other. -/
def elementsOfAll : List Block → Except Fault (List Element)
  | [] => .ok []
  | block :: rest => do return (← elements block) ++ (← elementsOfAll rest)

end

/-- The section of columns. -/
def columnsSection (props : ColumnsProps) (children : List Block) : Except Fault Section := do
  let count ← props.columns.toInteger
  let runs ← Columns.spread children count
  let columns ← runs.mapM fun run => do
    return ⟨[("vertical-align", props.verticalAlign.plain)], ← elementsOfAll run⟩
  return {
    attributes := if props.stackOnMobile.truthy then [] else [("mj-class", "no-stack")]
    columns := columns }

/-- The section of a block of the content, if it gives anything. -/
def section? : Block → Except Fault (Option Section)
  | columns props children => some <$> columnsSection props children
  | block => do return (← block.fragment?).map (·.alone)

end Block

namespace Template

/-- The markup of a template. -/
def markup (template : Template) : Except Fault Markup := do
  let sections ← template.content.mapM (·.section?)
  let title ← template.metadata.subject.escaped
  let preview ← template.metadata.preheader.escaped
  let font ← template.settings.fontFamily.escaped
  let background ← template.settings.backgroundColor.escaped
  return {
    title := title
    preview := preview
    font := font
    background := background
    width := template.settings.contentWidth.pixels
    sections := sections.filterMap id }

/-- The markup text of a template. -/
def compile (template : Template) : Except Fault String := do
  return (← template.markup).text

end Template

end EmailStudio
