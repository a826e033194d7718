import EmailStudio.Validation.Rule

/-!
# Validation

Validation judges any value. It never fails: every problem is an issue, and issues come in a fixed
order: version, metadata, settings, then the blocks of the content from the first to the last, each
with its own props before its children.
-/

namespace EmailStudio

namespace Block

/-- The kind and the props of a block that can be judged further, or what is wrong with it. -/
def judgedProps (fields : Fields) : Except BlockProblem (Kind × Fields) :=
  match Kind.ofValue? (fields.get "type") with
  | none => .error (.unknownKind (fields.get "type"))
  | some kind =>
    match fields.get "props" with
    | .object props => .ok (kind, props)
    | _ => .error .noProps

mutual

/-- The issues of a block at a depth. -/
def issues (depth : Int) : Value → List BlockIssue
  | .object fields =>
    if Catalog.maxDepth < depth then [⟨[], .tooDeep⟩]
    else
      match judgedProps fields with
      | .error problem => [⟨[], problem⟩]
      | .ok (kind, props) =>
        (kind.rule props).map (fun issue => ⟨[], .prop issue⟩)
          ++ if kind = .columns then issuesOfChildrenIn depth fields else []
  | _ => if Catalog.maxDepth < depth then [⟨[], .tooDeep⟩] else [⟨[], .notObject⟩]

/-- The issues of the children among the fields of a block. -/
def issuesOfChildrenIn (depth : Int) : List (String × Value) → List BlockIssue
  | [] => []
  | (key, v) :: rest =>
    if key = "children" then issuesOfChildren depth v else issuesOfChildrenIn depth rest

/-- The issues of children that may be left out. -/
def issuesOfChildren (depth : Int) : Value → List BlockIssue
  | .null => []
  | .list items => issuesOfItems depth 0 items
  | _ => [⟨[], .childrenNotList⟩]

/-- The issues of children from an index on. -/
def issuesOfItems (depth : Int) (index : Nat) : List Value → List BlockIssue
  | [] => []
  | v :: rest =>
    (issues (depth + 1) v).map (·.within index) ++ issuesOfItems depth (index + 1) rest

end

end Block

namespace Template

def versionIssues : Value → List Issue
  | .text s => if s = formatVersion then [] else [.version (.text s)]
  | v => [.version v]

def metadataIssues : Value → List Issue
  | .object (fields : Fields) =>
    ["subject", "preheader"].filterMap fun key =>
      if (fields.get key).isText then none else some (.metadataNotText key)
  | _ => [.noMetadata]

/-- The issues of the width of an email. -/
def widthIssues (v : Value) : List Issue :=
  if !v.isNumber then [.widthNotNumber]
  else if v.isBetween Catalog.contentWidthMin Catalog.contentWidthMax then []
  else [.widthNotBetween]

def settingsIssues : Value → List Issue
  | .object (fields : Fields) =>
    let textIssue (key : String) : List Issue :=
      if (fields.get key).isText then [] else [.settingNotText key]
    textIssue "backgroundColor" ++ widthIssues (fields.get "contentWidth") ++ textIssue "fontFamily"
  | _ => [.noSettings]

def contentIssues : Value → List Issue
  | .list items =>
    items.zipIdx.flatMap fun (item, index) => (Block.issues 1 item).map (.block index)
  | _ => [.contentNotList]

/-- The issues of a template. -/
def issues : Value → List Issue
  | .object (fields : Fields) =>
    versionIssues (fields.get "version") ++ metadataIssues (fields.get "metadata")
      ++ settingsIssues (fields.get "settings") ++ contentIssues (fields.get "content")
  | _ => [.notObject]

/-- The wording of the issues of a template. -/
def errors (candidate : Value) : List String :=
  (issues candidate).map (·.text)

/-- Whether a value is a sound template. -/
def isValid (candidate : Value) : Bool :=
  (issues candidate).isEmpty

end Template

end EmailStudio
