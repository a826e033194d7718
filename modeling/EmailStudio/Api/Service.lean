import EmailStudio.Api.Body
import EmailStudio.Api.Document
import EmailStudio.Designs.Database
import EmailStudio.Editor.Data
import EmailStudio.Storage.Images

/-!
# The service

The state of the service is the database of designs and the store of images. What it does with them
is made of steps that each are one transaction on the state.
-/

namespace EmailStudio.Api

/-- The service and its state. -/
structure Service where
  settings : Settings
  engine : Engine
  database : Database
  /-- How the database comes upon its rows when it is asked at a time. -/
  scan : Time → Scan
  images : ImageStore
  /-- How many identifiers were given out for images. -/
  imagesNamed : Nat

/-- Why an endpoint does not answer with what it was asked for. -/
inductive Failure where
  | issues (issues : List IntakeIssue)
  /-- The body is no text that can be read. -/
  | unreadableBody
  | invalidTemplate (errors : List String)
  | noDesign
  | noFile
  | badPath
  | refusedUpload (fault : Image.UploadFault)
  /-- Something that was not foreseen, with details where there are some. -/
  | unexpected (details : String)

/-- What an endpoint answers. -/
abbrev Answer := Except Failure Response

namespace Failure

/-- A body that cannot be used. -/
def ofBody : BodyFault → Failure
  | .empty => issues [⟨.missing, [.name "body"]⟩]
  | .unreadable position => issues [⟨.unreadable, [.name "body", .index position]⟩]
  | .hugeNumber => unreadableBody

/-- A fault while publishing. -/
def ofPublish : PublishFault → Failure
  | .invalid errors => invalidTemplate errors
  | .fault fault => unexpected (fault.message?.getD "")

end Failure

/-! ## Publishing designs -/

/-- The name of a design that neither the request nor the subject names. -/
def defaultName : String := "Untitled design"

/-- The name of a new design: the one of the request, else the subject, else the default. -/
def nameOf (requested : Option String) (template : Value) : String :=
  match requested with
  | some name => name
  | none =>
    match Fields.get (Fields.get template.fields "metadata").fields "subject" with
    | .text subject => if subject.isEmpty then defaultName else subject
    | _ => defaultName

/-- The candidate of a source. -/
def candidateOf : TemplateSource → Except Fault Value
  | .template candidate => .ok candidate
  | .editor data => Editor.templateOf (.object data)

/-- Validates, compiles and renders what a form holds. -/
def DesignForm.publish (form : DesignForm) (publisher : Publisher) :
    Except PublishFault Published := do
  let candidate ← (candidateOf form.source).mapError .fault
  publisher.publish candidate

namespace Service

/-- How the service publishes. -/
def publisher (service : Service) : Publisher where
  engine := service.engine
  level := service.settings.validationLevel
  rendersHtml := service.settings.rendersHtmlOnSave

/-- Works on the designs, as one transaction. Without tables nothing can be done. -/
def transact (service : Service) (work : DesignStore → DesignStore × Except Failure α) :
    Service × Except Failure α :=
  match service.database with
  | .ready store =>
    let (store, result) := work store
    ({ service with database := .ready store }, result)
  | _ => (service, .error (.unexpected ""))

/-- Looks at the designs. -/
def consult (service : Service) (look : DesignStore → Except Failure α) : Except Failure α :=
  match service.database with
  | .ready store => look store
  | _ => .error (.unexpected "")

/-- The design of an identifier. -/
def lookup (service : Service) (id : String) : Except Failure Design :=
  service.consult fun store =>
    match store.get? id with
    | some design => .ok design
    | none => .error .noDesign

/-- Creates a design from what was published. -/
def createDesign (service : Service) (name : Option String) (published : Published) (now : Time) :
    Service × Answer :=
  service.transact fun store =>
    let (store, design) := store.create (nameOf name published.template) published.template
      published.markup published.rendering.html now
    (store, .ok (.created (designValue design published.rendering.diagnostics)))

/-- Stores what was published as the new version of a design. The design may have been deleted since
it was looked up. -/
def commitDesign (service : Service) (id : String) (name : Option String) (published : Published)
    (now : Time) : Service × Answer :=
  service.transact fun store =>
    let (store, design) := store.republish id name published.template published.markup
      published.rendering.html now
    match design with
    | some design => (store, .ok (.ok (designValue design published.rendering.diagnostics)))
    | none => (store, .error .noDesign)

/-- Saves a draft, which need not be sound, and says whether it is. -/
def saveDraft (service : Service) (id : String) (draft : Fields) (now : Time) : Service × Answer :=
  service.transact fun store =>
    let (store, design) := store.saveDraft id (.object draft) now
    match design with
    | some design =>
      (store, .ok (.ok (.object ([("id", .text design.id), ("draft_saved_at", .text now.text)]
        ++ soundnessFields (.object draft)))))
    | none => (store, .error .noDesign)

/-- Deletes a design. -/
def deleteDesign (service : Service) (id : String) : Service × Answer :=
  service.transact fun store =>
    let (store, existed) := store.delete id
    (store, if existed then .ok ⟨204, .nothing, none⟩ else .error .noDesign)

/-- A page of the listing of designs. -/
def listDesigns (service : Service) (skip limit : Int) (now : Time) : Answer :=
  service.consult fun store =>
    match store.page (service.scan now) skip limit with
    | some designs => .ok (.ok (.list (designs.map summaryValue)))
    | none => .error (.unexpected DesignStore.uncountableMessage)

/-- A design as editor data; the draft, where it is asked for and there is one. -/
def editorData (service : Service) (id : String) (ofDraft : Bool) : Answer := do
  let design ← service.lookup id
  let draft := if ofDraft then design.loadableDraft else none
  match Editor.Data.ofTemplate (draft.getD design.template) with
  | .ok data => return .ok (finite data.toValue)
  | .error fault => throw (Failure.ofPublish (.fault fault))

/-! ## Images -/

/-- The media type of an image on disk. -/
def typeOfName (filename : String) : String :=
  match Url.extension filename.toList with
  | "png" => "image/png"
  | "jpg" | "jpeg" => "image/jpeg"
  | "gif" => "image/gif"
  | _ => "text/plain; charset=utf-8"

/-- Stores an uploaded image. -/
def uploadImage (service : Service) (form : UploadForm) (now : Time) : Service × Answer :=
  match Image.accept Image.sizeLimit form.filename form.type form.data.toList with
  | .error fault => (service, .error (.refusedUpload fault))
  | .ok image =>
    let named := { service with imagesNamed := service.imagesNamed + 1 }
    let key := Image.keyFor now (identifier named.imagesNamed) image.extension
    match image.store key service.images.save with
    | .ok (images, stored) =>
      ({ named with images := images },
        .ok (.created (.object [("url", .text stored.url), ("path", .text stored.key),
          ("size", .int stored.size), ("mime_type", .text stored.type)])))
    | .error (.refused fault) => (named, .error (.refusedUpload fault))
    | .error (.defect name) => (named, .error (.unexpected name))

/-- Serves a stored image. -/
def downloadImage (service : Service) (key : String) : Answer :=
  match service.images.fetch key with
  | .ok image =>
    .ok ⟨200, .bytes (image.type.getD (typeOfName image.filename)) image.content, none⟩
  | .error .missing => .error .noFile
  | .error .badPath => .error .badPath
  | .error .failed => .error (.unexpected "")

/-! ## Other endpoints -/

def infoFields (service : Service) : Fields :=
  [("service", .text service.settings.appName), ("version", .text service.settings.appVersion)]

/-- Whether the service can work. -/
def health (service : Service) : Answer :=
  let connected (status : Nat) (health database : String) : Answer :=
    .ok ⟨status, .document (.object ([("status", .text health), ("database", .text database)]
      ++ service.infoFields)), none⟩
  match service.database with
  | .ready _ | .withoutTables => connected 200 "healthy" "connected"
  | .unusable .driverMissing | .unusable (.url (.port _)) | .unusable (.url (.hugePort _)) =>
    .error (.unexpected "")
  | _ => connected 503 "unhealthy" "disconnected"

def rootValue (service : Service) : Value :=
  .object [("name", .text service.settings.appName), ("version", .text service.settings.appVersion),
    ("api_version", .text "v1"),
    ("endpoints", .list [.text "designs", .text "preview", .text "templates", .text "uploads"])]

/-- Compiles a candidate. -/
def compile (candidate : Value) : Answer :=
  match Publisher.compile candidate with
  | .ok (_, markup) => .ok (.ok (.object [("mjml", .text markup)]))
  | .error fault => .error (.ofPublish fault)

/-- Renders markup. -/
def preview (service : Service) (markup : String) : Answer :=
  match service.engine.render service.settings.validationLevel markup with
  | .ok rendering =>
    .ok (.ok (.object [("html", .text rendering.html),
      ("errors", .list (rendering.diagnostics.map (·.toValue)))]))
  | .error fault => .error (.ofPublish (.fault fault))

end Service

end EmailStudio.Api
