import EmailStudio.Document.Kind
import EmailStudio.Document.Props

/-!
# Blocks

The content of a document is a list of blocks; only columns hold further blocks. `Block.ofValue`
reads a block without judging its props, and `Block.toValue` is the stored form, in which every prop
is spelled out.
-/

namespace EmailStudio

/-- A block of a document. -/
inductive Block where
  | header (props : HeaderProps)
  | text (props : TextProps)
  | image (props : ImageProps)
  | button (props : ButtonProps)
  | columns (props : ColumnsProps) (children : List Block)
  | spacer (props : SpacerProps)
  | divider (props : DividerProps)
  | social (props : SocialProps)
  | footer (props : FooterProps)

/-- The fields of an object that may be left out. -/
def Fields.objectAt (fields : Fields) (key : String) : Except Fault Fields :=
  match (fields.get key).orElse (.object []) with
  | .object inner => .ok inner
  | _ => .error .noFields

namespace Block

/-- The kind that the fields of a block name. -/
def kindOf (fields : Fields) : Except Fault Kind :=
  match fields.get? "type" with
  | none => .error .kindMissing
  | some v =>
    match Kind.ofValue? v with
    | some kind => .ok kind
    | none => .error (.kindUnknown v)

/-- A block without children, of a kind and with the fields of its props. -/
def ofProps (kind : Kind) (props : Fields) : Except Fault Block :=
  match kind with
  | .header => .ok (.header (.ofFields props))
  | .text => .ok (.text (.ofFields props))
  | .image => .ok (.image (.ofFields props))
  | .button => .ok (.button (.ofFields props))
  | .columns => .ok (.columns (.ofFields props) [])
  | .spacer => .ok (.spacer (.ofFields props))
  | .divider => .ok (.divider (.ofFields props))
  | .social => (SocialProps.ofFields props).map .social
  | .footer => .ok (.footer (.ofFields props))

/-- The block with other children, if it is one that holds any. -/
def withChildren (children : List Block) : Block → Block
  | columns props _ => columns props children
  | block => block

mutual

/-- Reads a block. -/
def ofValue : Value → Except Fault Block
  | .object (fields : Fields) => do
    let kind ← kindOf fields
    let props ← fields.objectAt "props"
    let block ← ofProps kind props
    if kind = .columns then
      return block.withChildren (← childrenIn fields)
    else
      return block
  | _ => .error .notObject

/-- Reads the children among the fields of a block. -/
def childrenIn : List (String × Value) → Except Fault (List Block)
  | [] => .ok []
  | (key, v) :: rest => if key = "children" then listIn v else childrenIn rest

/-- Reads a list of blocks that may be left out. -/
def listIn : Value → Except Fault (List Block)
  | .list items => ofItems items
  | v => if v.truthy then .error .notList else .ok []

/-- Reads one block after the other. -/
def ofItems : List Value → Except Fault (List Block)
  | [] => .ok []
  | v :: rest => do
    let block ← ofValue v
    return block :: (← ofItems rest)

end

def kind : Block → Kind
  | header _ => .header
  | text _ => .text
  | image _ => .image
  | button _ => .button
  | columns _ _ => .columns
  | spacer _ => .spacer
  | divider _ => .divider
  | social _ => .social
  | footer _ => .footer

def props : Block → Fields
  | header props => props.toFields
  | text props => props.toFields
  | image props => props.toFields
  | button props => props.toFields
  | columns props _ => props.toFields
  | spacer props => props.toFields
  | divider props => props.toFields
  | social props => props.toFields
  | footer props => props.toFields

mutual

/-- The stored form of a block. -/
def toValue : Block → Value
  | columns props children =>
    .object [("type", .text Kind.columns.name), ("props", .object props.toFields),
      ("children", .list (toItems children))]
  | block => .object [("type", .text block.kind.name), ("props", .object block.props)]

def toItems : List Block → List Value
  | [] => []
  | block :: rest => toValue block :: toItems rest

end

end Block

end EmailStudio
