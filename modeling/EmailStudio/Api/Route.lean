import EmailStudio.Text.Path

/-!
# Routes

A path leads to one or more endpoints, which differ by method. Paths are compared name by name; all
but the two for health lie below a common start.
-/

namespace EmailStudio.Api

/-- What a request can be about. -/
inductive Endpoint where
  | health
  | live
  | root
  | constraints
  | validate
  | compile
  | createDesign
  | listDesigns
  | getDesign (id : String)
  | editorData (id : String)
  | publishDesign (id : String)
  | saveDraft (id : String)
  | deleteDesign (id : String)
  | preview
  | uploadImage
  | downloadImage (key : String)
  /-- A page about the interface itself. -/
  | manual
deriving DecidableEq, Repr

namespace Endpoint

/-- What is left of some names behind others. -/
def behind? : List String → List String → Option (List String)
  | [], names => some names
  | start :: starts, name :: names => if start = name then behind? starts names else none
  | _ :: _, [] => none

/-- The endpoints below the common start, with their methods. -/
def below : List String → List (String × Endpoint)
  | ["templates", "constraints"] => [("GET", constraints)]
  | ["templates", "validate"] => [("POST", validate)]
  | ["templates", "compile"] => [("POST", compile)]
  | ["designs"] => [("POST", createDesign), ("GET", listDesigns)]
  | ["designs", id] =>
    if id.isEmpty then []
    else [("GET", getDesign id), ("PUT", publishDesign id), ("DELETE", deleteDesign id)]
  | ["designs", id, "editor"] => if id.isEmpty then [] else [("GET", editorData id)]
  | ["designs", id, "draft"] => if id.isEmpty then [] else [("PUT", saveDraft id)]
  | ["preview"] => [("POST", preview)]
  | ["uploads", "images"] => [("POST", uploadImage)]
  | "uploads" :: "files" :: name :: names =>
    [("GET", downloadImage ("/".intercalate (name :: names)))]
  | [] => [("GET", root)]
  | _ => []

/-- The endpoints of a path. Pages about the interface are shown only during development. -/
def ofPath (start : String) (hasManual : Bool) (path : String) : List (String × Endpoint) :=
  let manuals := ["/openapi.json", "/docs", "/docs/oauth2-redirect", "/redoc"]
  (if hasManual && manuals.contains path then [("GET", manual)] else [])
    ++ (if path = "/health" then [("GET", health)] else [])
    ++ (if path = "/live" then [("GET", live)] else [])
    ++ ((behind? (Path.names start) (Path.names path)).map below).getD []

/-- The path with a slash more at its end, or with none. -/
def respelled (path : String) : String :=
  if path.endsWith "/" then Path.trimEnd path
  else path ++ "/"

end Endpoint

/-- Where a request leads. -/
inductive Destination where
  | endpoint (endpoint : Endpoint)
  | wrongMethod
  | redirect
  | nowhere
deriving DecidableEq, Repr

/-- Follows a path with a method. -/
def Destination.of (start : String) (hasManual : Bool) (method path : String) : Destination :=
  let endpoints := Endpoint.ofPath start hasManual path
  match endpoints.lookup method with
  | some target => .endpoint target
  | none =>
    if !endpoints.isEmpty then .wrongMethod
    else if path ≠ "/" && !(Endpoint.ofPath start hasManual (Endpoint.respelled path)).isEmpty then
      .redirect
    else .nowhere

end EmailStudio.Api
