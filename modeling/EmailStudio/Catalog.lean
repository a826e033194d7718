import EmailStudio.Value.Basic

/-!
# The catalog of email-safe values

The values that email clients render reliably. Every set is closed: support is decided for each
value by itself, so that ranges appear only where clients tolerate one.
-/

namespace EmailStudio.Catalog

/-- Font stacks with a fallback in every major client, and their labels. -/
def fonts : List (String × String) :=
  [("Arial, Helvetica, sans-serif", "Arial"),
    ("Georgia, serif", "Georgia"),
    ("Tahoma, sans-serif", "Tahoma"),
    ("Verdana, sans-serif", "Verdana"),
    ("Times New Roman, serif", "Times New Roman"),
    ("Courier New, monospace", "Courier New"),
    ("Trebuchet MS, sans-serif", "Trebuchet MS"),
    ("Lucida Sans Unicode, sans-serif", "Lucida Sans")]

def defaultFont : String := "Arial, Helvetica, sans-serif"

def fontSizes : List Int := [12, 14, 16, 18, 20, 24, 28, 32, 36, 48]

def lineHeights : List String := ["1.2", "1.4", "1.5", "1.6", "1.8"]

/-- Corner radii; larger ones are not rendered everywhere. -/
def borderRadii : List Int := [0, 4, 8]

/-- Names of paddings and the lengths they stand for. -/
def paddings : List (String × String) :=
  [("none", "0px"), ("xs", "5px"), ("sm", "10px"), ("md", "20px"), ("lg", "30px"), ("xl", "40px")]

/-- The length that an unknown padding stands for. -/
def defaultPadding : String := "20px"

/-- Names of button paddings and the lengths they stand for. -/
def buttonPaddings : List (String × String) :=
  [("sm", "10px 20px"), ("md", "15px 30px"), ("lg", "20px 40px")]

/-- The lengths that an unknown button padding stands for. -/
def defaultButtonPadding : String := "15px 30px"

def maxWidth : Int := 600

def contentWidthMin : Int := 400

def contentWidthMax : Int := 700

def columnWidthMin : Int := 100

def logoWidthMin : Int := 50

def logoWidthMax : Int := 300

/-- Extensions of the image formats that every client shows. -/
def imageFormats : List String := ["jpg", "jpeg", "png", "gif"]

/-- Media types of images and the extensions that go with them. -/
def imageTypes : List (String × List String) :=
  [("image/jpeg", ["jpg", "jpeg"]), ("image/png", ["png"]), ("image/gif", ["gif"])]

/-- Extensions of image formats that are refused as a source. -/
def unsupportedFormats : List String :=
  ["webp", "avif", "svg", "bmp", "tif", "tiff", "heic", "heif", "jxl", "ico"]

def imageSizeMaxKb : Nat := 500

def spacerHeights : List Int := [10, 20, 30, 40, 50, 60]

def dividerWidths : List Int := [1, 2, 3]

def dividerStyles : List String := ["solid", "dashed", "dotted"]

def columnCounts : List Int := [1, 2, 3, 4]

def columnGaps : List String := ["none", "sm", "md", "lg"]

def verticalAligns : List String := ["top", "middle", "bottom"]

def alignments : List String := ["left", "center", "right"]

def textAlignments : List String := ["left", "center", "right", "justify"]

def socialIconSizes : List Int := [24, 32, 40]

def socialIconStyles : List String := ["color", "black", "white"]

def socialNetworks : List String := ["facebook", "twitter", "linkedin", "instagram", "youtube"]

/-- The depth below which no block may lie; blocks of the content have depth one. -/
def maxDepth : Int := 3

/-- What a mail service replaces by the address for leaving the list. -/
def unsubscribePlaceholder : String := "\x7b\x7bunsubscribe_url\x7d\x7d"

/-- The name of the field in which the editor keeps the address of a network. -/
def urlField (network : String) : String :=
  network ++ "Url"

/-! ## The catalog as a document -/

def numbers (ns : List Int) : Value :=
  .list (ns.map .int)

def texts (ss : List String) : Value :=
  .list (ss.map .text)

def named (pairs : List (String × String)) : Value :=
  .object (pairs.map fun (name, s) => (name, .text s))

/-- The catalog that the editor offers its choices from. -/
def toValue : Value :=
  .object [
    ("fonts", .list (fonts.map fun (font, label) =>
      .object [("value", .text font), ("label", .text label)])),
    ("fontSizes", numbers fontSizes),
    ("lineHeights", texts lineHeights),
    ("borderRadius", numbers borderRadii),
    ("padding", named paddings),
    ("buttonPadding", named buttonPaddings),
    ("maxWidth", .int maxWidth),
    ("contentWidth", .object [("min", .int contentWidthMin), ("max", .int contentWidthMax)]),
    ("minColumnWidth", .int columnWidthMin),
    ("imageFormats", texts imageFormats),
    ("maxImageSizeKb", .int imageSizeMaxKb),
    ("requireImageAlt", .bool true),
    ("spacerHeights", numbers spacerHeights),
    ("dividerWidths", numbers dividerWidths),
    ("columnCounts", numbers columnCounts),
    ("socialIconSizes", numbers socialIconSizes),
    ("socialIconStyles", texts socialIconStyles),
    ("socialNetworks", texts socialNetworks)]

end EmailStudio.Catalog
