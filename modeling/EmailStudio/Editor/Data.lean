import EmailStudio.Document.Template
import EmailStudio.Editor.Social
import EmailStudio.Value.Text

/-!
# Editor data

The editor works on nodes with ids. The ids say where a node stands: `block-2` is the third block of
the content and `block-2-0` the first of its children. Children lie in zones, which are named for
the node that holds them, and metadata and settings are mixed in the props of the root.

`Editor.Data.ofTemplate` opens any value, leaving out what is no template, block or props;
`Editor.templateOf` goes back. A zone that is reached again from within itself has no end, which is
a fault.
-/

namespace EmailStudio.Editor

/-- A node of the editor. -/
structure Node where
  type : Value
  props : Fields

/-- What the editor works on. -/
structure Data where
  content : List Node
  root : Fields
  zones : List (String × List Node)

/-- The name of the zone of a node. -/
def zoneName (id : String) : String :=
  id ++ ":children"

/-- The id of a child. -/
def childId (id : String) (index : Nat) : String :=
  id ++ "-" ++ toString index

def isOfKind (kind : Kind) (type : Value) : Bool :=
  Kind.ofValue? type = some kind

namespace Node

def toValue (node : Node) : Value :=
  .object [("type", node.type), ("props", .object node.props)]

/-- The node of a block, without its children. -/
def ofBlock (id : String) (fields : Fields) : Except Fault Node := do
  let type := fields.get "type"
  let props := (fields.get "props").fields
  let props ← if isOfKind .social type then spreadNetworks props else pure props
  return { type := type, props := props.set "id" (.text id) }

end Node

namespace Data

def toValue (data : Data) : Value :=
  .object [
    ("content", .list (data.content.map (·.toValue))),
    ("root", .object [("props", .object data.root)]),
    ("zones", .object (data.zones.map fun (name, nodes) =>
      (name, .list (nodes.map (·.toValue)))))]

/-! ## Opening a template -/

/-- Nodes, and the zones of all that lies below them. -/
abbrev Forest := List Node × List (String × List Node)

mutual

/-- The node of a block and the zones below it. Anything but an object gives nothing. -/
def forestOf (id : String) : Value → Except Fault Forest
  | .object fields => do
    let node ← Node.ofBlock id fields
    if isOfKind .columns node.type then
      let (children, zones) ← forestOfChildrenIn id fields
      return ([node], zones ++ [(zoneName id, children)])
    else
      return ([node], [])
  | _ => .ok ([], [])

/-- The nodes of the children among the fields of a block. -/
def forestOfChildrenIn (id : String) : List (String × Value) → Except Fault Forest
  | [] => .ok ([], [])
  | (key, v) :: rest =>
    if key = "children" then forestOfList id v else forestOfChildrenIn id rest

/-- The nodes of children. Anything but a list holds none. -/
def forestOfList (id : String) : Value → Except Fault Forest
  | .list items => forestOfItems id 0 items
  | _ => .ok ([], [])

/-- The nodes of children from an index on. -/
def forestOfItems (id : String) (index : Nat) : List Value → Except Fault Forest
  | [] => .ok ([], [])
  | v :: rest => do
    let (nodes, zones) ← forestOf (childId id index) v
    let (more, moreZones) ← forestOfItems id (index + 1) rest
    return (nodes ++ more, zones ++ moreZones)

end

/-- The editor data of a template. -/
def ofTemplate (template : Value) : Except Fault Data := do
  let fields : Fields := template.fields
  let (content, zones) ← forestOfList "block" (fields.get "content")
  return {
    content := content
    root := Fields.update (Fields.update [] (fields.get "settings").fields)
      (fields.get "metadata").fields
    zones := zones }

end Data

/-! ## Going back -/

/-- The props of a block whose node has these props. -/
def propsOfNode (type : Value) (props : Fields) : Fields :=
  let props := props.erase "id"
  if isOfKind .social type then gatherNetworks props else props

/-- The items of the zone of a node; a node without id has none. -/
def zoneItems (zones : Fields) (id : Value) : List Value :=
  if id.truthy then (zones.get (zoneName id.plain)).items else []

/-- The block of a node. The number says how many zones may still be opened one within the other;
each is opened at most once on the way down, so that a path which needs more than there are zones
runs in a circle. -/
def blockOfNode (zones : Fields) : Nat → Fields → Except Fault Value
  | depth, node => do
    let type := node.get "type"
    let props : Fields := (node.get "props").fields
    let block := [("type", type), ("props", .object (propsOfNode type props))]
    if isOfKind .columns type then
      let children ← (zoneItems zones (props.get "id")).filterMapM fun item =>
        match item with
        | .object fields =>
          match depth with
          | 0 => .error .endlessZones
          | depth + 1 => some <$> blockOfNode zones depth fields
        | _ => pure none
      return .object (block ++ [("children", .list children)])
    else
      return .object block

/-- The settings that a template has when the editor says nothing about them. -/
def defaultSettings : Fields :=
  [("backgroundColor", .text "#ffffff"), ("contentWidth", .int Catalog.maxWidth),
    ("fontFamily", .text Catalog.defaultFont)]

/-- The names of the root's props that are metadata; all others are settings. -/
def metadataNames : List String := ["subject", "preheader"]

/-- The stored form of the template of editor data. -/
def templateOf (data : Value) : Except Fault Value := do
  let fields : Fields := data.fields
  let root : Fields := (Fields.get (fields.get "root").fields "props").fields
  let zones : Fields := (fields.get "zones").fields
  let content ← (fields.get "content").items.filterMapM fun item =>
    match item with
    | .object node => some <$> blockOfNode zones zones.length node
    | _ => pure none
  return .object [
    ("version", .text formatVersion),
    ("metadata", .object [
      ("subject", (root.get "subject").orElse (.text "")),
      ("preheader", (root.get "preheader").orElse (.text ""))]),
    ("settings", .object (defaultSettings.update (root.filter fun (key, v) =>
      !metadataNames.contains key && !v.isNull))),
    ("content", .list content)]

end EmailStudio.Editor
