import EmailStudio.Catalog
import EmailStudio.Fault

/-!
# Social networks in the editor

The editor has one field for the address of each network instead of a list. Spreading a list over
the fields keeps the last address of each network; gathering the fields lists the networks that have
an address, in the order of the catalog.
-/

namespace EmailStudio.Editor

/-- What one item of a list of networks adds to the addresses, by network. -/
def listUrl (urls : Fields) : Value → Except Fault Fields
  | .object (fields : Fields) =>
    match fields.get "type" with
    | .text name => .ok (urls.set name ((fields.get "url").orElse (.text "")))
    | .list _ | .object _ => .error .notKey
    | _ => .ok urls
  | _ => .ok urls

/-- The addresses that the items of a list of networks give. -/
def listedUrls (items : List Value) : Except Fault Fields :=
  items.foldlM listUrl []

/-- Writes the address of a network into its field. What the list says counts before what the field
already holds. -/
def spreadUrl (urls : Fields) (props : Fields) (name : String) : Fields :=
  let field := Catalog.urlField name
  props.set field ((urls.get? name).getD ((props.get? field).getD (.text "")))

/-- Spreads the list of networks over the fields. -/
def spreadNetworks (props : Fields) : Except Fault Fields := do
  let urls ← listedUrls (props.get "networks").items
  return Catalog.socialNetworks.foldl (spreadUrl urls) (props.erase "networks")

/-- The list of the networks whose fields hold an address. -/
def gatheredNetworks (props : Fields) : List Value :=
  Catalog.socialNetworks.filterMap fun name =>
    let url := props.get (Catalog.urlField name)
    if url.truthy then some (.object [("type", .text name), ("url", url)]) else none

/-- Gathers the fields into a list of networks. Props that have a list are left as they are. -/
def gatherNetworks (props : Fields) : Fields :=
  if props.has "networks" then props
  else
    (Catalog.socialNetworks.foldl (fun (acc : Fields) name => acc.erase (Catalog.urlField name))
      props).set "networks" (.list (gatheredNetworks props))

end EmailStudio.Editor
