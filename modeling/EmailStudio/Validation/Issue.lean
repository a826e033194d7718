import EmailStudio.Catalog
import EmailStudio.Document.Template
import EmailStudio.Value.Text

/-!
# Issues

What validation finds wrong, with the place of it. Places within a block are relative to it, so that
the issues of a block do not depend on where it stands; they are worded with the name of the block
in front.
-/

namespace EmailStudio

/-- What can be wrong with a prop. -/
inductive PropProblem where
  | required
  | requiredForAccess
  | notText
  | notBoolean
  | notList
  | notObject
  | notOneOf (options : List String)
  | notBetween (low high : Int)
  /-- A width that is neither the whole width nor within the bounds. -/
  | notWidth (high : Int)
  | notUrl
  | unsupportedFormat (extension : String)
deriving DecidableEq, Repr

/-- A place among the props of a block. -/
inductive PropPlace where
  | prop (key : String)
  | network (index : Nat)
  | networkField (index : Nat) (key : String)
deriving DecidableEq, Repr

structure PropIssue where
  place : PropPlace
  problem : PropProblem
deriving DecidableEq, Repr

/-- What can be wrong with a block. -/
inductive BlockProblem where
  | tooDeep
  | notObject
  | unknownKind (kind : Value)
  | noProps
  | prop (issue : PropIssue)
  | childrenNotList

/-- A problem of a block or of one below it, which the indices of children lead to. -/
structure BlockIssue where
  place : List Nat
  problem : BlockProblem

/-- What can be wrong with a template. -/
inductive Issue where
  | notObject
  | version (version : Value)
  | noMetadata
  | metadataNotText (key : String)
  | noSettings
  | settingNotText (key : String)
  | widthNotNumber
  | widthNotBetween
  | contentNotList
  | block (index : Nat) (issue : BlockIssue)

/-! ## Wording -/

namespace PropProblem

def text : PropProblem → String
  | required => "is required"
  | requiredForAccess => "is required for accessibility"
  | notText => "must be a string"
  | notBoolean => "must be a boolean"
  | notList => "must be an array"
  | notObject => "must be an object"
  | notOneOf options => "must be one of: " ++ ", ".intercalate options
  | notBetween low high => "must be between " ++ toString low ++ " and " ++ toString high
  | notWidth high => "must be \"full\" or between 0 and " ++ toString high
  | notUrl => "must be a valid URL"
  | unsupportedFormat extension => "uses unsupported image format '" ++ extension ++ "'"

end PropProblem

namespace PropPlace

def text : PropPlace → String
  | prop key => key
  | network index => "networks[" ++ toString index ++ "]"
  | networkField index key => "networks[" ++ toString index ++ "]." ++ key

end PropPlace

namespace PropIssue

/-- The wording of an issue of a block of the given name. -/
def text (issue : PropIssue) (name : String) : String :=
  name ++ ".props." ++ issue.place.text ++ " " ++ issue.problem.text

end PropIssue

namespace BlockProblem

def text (name : String) : BlockProblem → String
  | tooDeep => name ++ ": Block nesting exceeds maximum depth of " ++ toString Catalog.maxDepth
  | notObject => name ++ ": Block must be an object"
  | unknownKind kind => name ++ ": Invalid block type \"" ++ kind.plain ++ "\""
  | noProps => name ++ ": Block must have props object"
  | prop issue => issue.text name
  | childrenNotList => name ++ ".children must be an array"

end BlockProblem

namespace BlockIssue

/-- The name of a block below one of the given name. -/
def placeName (name : String) (place : List Nat) : String :=
  name ++ String.join (place.map fun index => ".children[" ++ toString index ++ "]")

def text (issue : BlockIssue) (name : String) : String :=
  issue.problem.text (placeName name issue.place)

/-- The issue of a block as one of the block above it. -/
def within (index : Nat) (issue : BlockIssue) : BlockIssue :=
  { issue with place := index :: issue.place }

end BlockIssue

namespace Issue

def text : Issue → String
  | notObject => "Template must be an object"
  | version v =>
    "Unsupported version: " ++ v.plain ++ ". Expected \"" ++ formatVersion ++ "\""
  | noMetadata => "Missing or invalid metadata"
  | metadataNotText key => "metadata." ++ key ++ " must be a string"
  | noSettings => "Missing or invalid settings"
  | settingNotText key => "settings." ++ key ++ " must be a string"
  | widthNotNumber => "settings.contentWidth must be a number"
  | widthNotBetween =>
    "settings.contentWidth must be between " ++ toString Catalog.contentWidthMin ++ " and "
      ++ toString Catalog.contentWidthMax
  | contentNotList => "content must be an array"
  | block index issue => issue.text ("content[" ++ toString index ++ "]")

end Issue

end EmailStudio
