import EmailStudio.Catalog
import EmailStudio.Fault

/-!
# Props of blocks

One structure per kind of block. A prop holds any value: what a document may say is the business of
validation. A prop that is absent or null reads as its default, which is what the editor gives a
block that was just dropped; props of other names are not kept.
-/

namespace EmailStudio

/-- The value of a prop, or its default when it is absent or null. -/
def Fields.given (fields : Fields) (key : String) (default : Value) : Value :=
  match fields.get key with
  | .null => default
  | v => v

/-- Props of a header. -/
structure HeaderProps where
  logoUrl : Value
  logoAlt : Value
  logoWidth : Value
  backgroundColor : Value
  align : Value
  padding : Value

namespace HeaderProps

def ofFields (fields : Fields) : HeaderProps where
  logoUrl := fields.given "logoUrl" (.text "")
  logoAlt := fields.given "logoAlt" (.text "Company Logo")
  logoWidth := fields.given "logoWidth" (.int 150)
  backgroundColor := fields.given "backgroundColor" (.text "#ffffff")
  align := fields.given "align" (.text "center")
  padding := fields.given "padding" (.text "md")

def toFields (props : HeaderProps) : Fields :=
  [("logoUrl", props.logoUrl), ("logoAlt", props.logoAlt), ("logoWidth", props.logoWidth),
    ("backgroundColor", props.backgroundColor), ("align", props.align),
    ("padding", props.padding)]

end HeaderProps

/-- Props of a text. Its content is markup that a user wrote and is kept as it is. -/
structure TextProps where
  content : Value
  fontSize : Value
  fontFamily : Value
  color : Value
  align : Value
  lineHeight : Value
  padding : Value

namespace TextProps

def ofFields (fields : Fields) : TextProps where
  content := fields.given "content" (.text "Your text here...")
  fontSize := fields.given "fontSize" (.int 16)
  fontFamily := fields.given "fontFamily" (.text Catalog.defaultFont)
  color := fields.given "color" (.text "#333333")
  align := fields.given "align" (.text "left")
  lineHeight := fields.given "lineHeight" (.text "1.5")
  padding := fields.given "padding" (.text "md")

def toFields (props : TextProps) : Fields :=
  [("content", props.content), ("fontSize", props.fontSize), ("fontFamily", props.fontFamily),
    ("color", props.color), ("align", props.align), ("lineHeight", props.lineHeight),
    ("padding", props.padding)]

end TextProps

/-- Props of an image. The width counts pixels; zero and `full` stand for the whole width. The
image is a link when `href` is not null. -/
structure ImageProps where
  src : Value
  alt : Value
  width : Value
  align : Value
  href : Value
  padding : Value

namespace ImageProps

def ofFields (fields : Fields) : ImageProps where
  src := fields.given "src" (.text "")
  alt := fields.given "alt" (.text "")
  width := fields.given "width" (.int 0)
  align := fields.given "align" (.text "center")
  href := fields.get "href"
  padding := fields.given "padding" (.text "md")

/-- The fields of an image; one that is no link has none for it. -/
def toFields (props : ImageProps) : Fields :=
  [("src", props.src), ("alt", props.alt), ("width", props.width), ("align", props.align)]
    ++ (if props.href.isNull then [] else [("href", props.href)])
    ++ [("padding", props.padding)]

end ImageProps

/-- Props of a button. -/
structure ButtonProps where
  text : Value
  href : Value
  backgroundColor : Value
  textColor : Value
  fontSize : Value
  borderRadius : Value
  align : Value
  fullWidth : Value
  padding : Value

namespace ButtonProps

def ofFields (fields : Fields) : ButtonProps where
  text := fields.given "text" (.text "Click Here")
  href := fields.given "href" (.text "#")
  backgroundColor := fields.given "backgroundColor" (.text "#007bff")
  textColor := fields.given "textColor" (.text "#ffffff")
  fontSize := fields.given "fontSize" (.int 16)
  borderRadius := fields.given "borderRadius" (.int 4)
  align := fields.given "align" (.text "center")
  fullWidth := fields.given "fullWidth" (.bool false)
  padding := fields.given "padding" (.text "md")

def toFields (props : ButtonProps) : Fields :=
  [("text", props.text), ("href", props.href), ("backgroundColor", props.backgroundColor),
    ("textColor", props.textColor), ("fontSize", props.fontSize),
    ("borderRadius", props.borderRadius), ("align", props.align), ("fullWidth", props.fullWidth),
    ("padding", props.padding)]

end ButtonProps

/-- Props of columns. -/
structure ColumnsProps where
  columns : Value
  gap : Value
  verticalAlign : Value
  stackOnMobile : Value

namespace ColumnsProps

def ofFields (fields : Fields) : ColumnsProps where
  columns := fields.given "columns" (.int 2)
  gap := fields.given "gap" (.text "md")
  verticalAlign := fields.given "verticalAlign" (.text "top")
  stackOnMobile := fields.given "stackOnMobile" (.bool true)

def toFields (props : ColumnsProps) : Fields :=
  [("columns", props.columns), ("gap", props.gap), ("verticalAlign", props.verticalAlign),
    ("stackOnMobile", props.stackOnMobile)]

end ColumnsProps

/-- Props of a spacer. -/
structure SpacerProps where
  height : Value

namespace SpacerProps

def ofFields (fields : Fields) : SpacerProps where
  height := fields.given "height" (.int 20)

def toFields (props : SpacerProps) : Fields :=
  [("height", props.height)]

end SpacerProps

/-- Props of a divider. -/
structure DividerProps where
  color : Value
  width : Value
  style : Value
  padding : Value

namespace DividerProps

def ofFields (fields : Fields) : DividerProps where
  color := fields.given "color" (.text "#e0e0e0")
  width := fields.given "width" (.int 1)
  style := fields.given "style" (.text "solid")
  padding := fields.given "padding" (.text "md")

def toFields (props : DividerProps) : Fields :=
  [("color", props.color), ("width", props.width), ("style", props.style),
    ("padding", props.padding)]

end DividerProps

/-- An entry of a row of social icons. -/
structure SocialNetwork where
  type : Value
  url : Value

namespace SocialNetwork

/-- The entry that an item of a list of networks stands for, if it says what network it is of. -/
def ofItem? : Value → Option SocialNetwork
  | .object (fields : Fields) =>
    if (fields.get "type").truthy then
      some ⟨fields.get "type", (fields.get "url").orElse (.text "")⟩
    else none
  | _ => none

def toValue (network : SocialNetwork) : Value :=
  .object [("type", network.type), ("url", network.url)]

/-- Whether entries can be told apart by the type of this one: a list or an object cannot. -/
def hasKeyType (network : SocialNetwork) : Bool :=
  match network.type with
  | .list _ | .object _ => false
  | _ => true

/-- Whether an entry is of a network. -/
def isOf (network : SocialNetwork) (name : String) : Bool :=
  match network.type with
  | .text s => s = name
  | _ => false

end SocialNetwork

/-- Props of a row of social icons. -/
structure SocialProps where
  networks : List SocialNetwork
  iconSize : Value
  align : Value
  iconStyle : Value

namespace SocialProps

/-- The entries of the networks that have a field of their own in the editor's manner and are not
listed, in the order of the catalog. -/
def flatNetworks (listed : List SocialNetwork) (fields : Fields) : List SocialNetwork :=
  Catalog.socialNetworks.filterMap fun name =>
    let url := fields.get (Catalog.urlField name)
    if url.truthy && !listed.any (·.isOf name) then some ⟨.text name, url⟩ else none

/-- Networks come from the list, and those it does not mention from their own fields. -/
def ofFields (fields : Fields) : Except Fault SocialProps :=
  let listed := (fields.get "networks").items.filterMap SocialNetwork.ofItem?
  if listed.all (·.hasKeyType) then
    .ok {
      networks := listed ++ flatNetworks listed fields
      iconSize := (fields.get "iconSize").orElse (.int 32)
      align := (fields.get "align").orElse (.text "center")
      iconStyle := (fields.get "iconStyle").orElse (.text "color") }
  else .error .notKey

def toFields (props : SocialProps) : Fields :=
  [("networks", .list (props.networks.map (·.toValue))), ("iconSize", props.iconSize),
    ("align", props.align), ("iconStyle", props.iconStyle)]

end SocialProps

/-- Props of a footer. -/
structure FooterProps where
  companyName : Value
  address : Value
  showUnsubscribe : Value
  unsubscribeText : Value
  backgroundColor : Value
  textColor : Value

namespace FooterProps

def ofFields (fields : Fields) : FooterProps where
  companyName := fields.given "companyName" (.text "Company Name")
  address := fields.given "address" (.text "123 Street, City, Country")
  showUnsubscribe := fields.given "showUnsubscribe" (.bool true)
  unsubscribeText := fields.given "unsubscribeText" (.text "Unsubscribe")
  backgroundColor := fields.given "backgroundColor" (.text "#f4f4f4")
  textColor := fields.given "textColor" (.text "#666666")

def toFields (props : FooterProps) : Fields :=
  [("companyName", props.companyName), ("address", props.address),
    ("showUnsubscribe", props.showUnsubscribe), ("unsubscribeText", props.unsubscribeText),
    ("backgroundColor", props.backgroundColor), ("textColor", props.textColor)]

end FooterProps

end EmailStudio
