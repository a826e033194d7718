import EmailStudio.Api.Query
import EmailStudio.Api.Route
import EmailStudio.Api.Service

/-!
# Answers

A request leads to an endpoint, and the endpoint answers or says why it does not. Bodies are read
before the designs are looked at, and the form of a body is judged before its content.
-/

namespace EmailStudio.Api

namespace Failure

/-- The response that tells a failure. -/
def response (isDebugging : Bool) : Failure → Response
  | issues found => .detail 422 (.list (found.map (·.toValue)))
  | invalidTemplate errors =>
    .detail 422 (.object [("message", .text "Template is invalid"),
      ("errors", .list (errors.map .text))])
  | unreadableBody => .detail 400 (.text "There was an error parsing the body")
  | noDesign => .detail 404 (.text "Design not found")
  | noFile => .detail 404 (.text "File not found")
  | badPath => .detail 400 (.text "Invalid file path")
  | refusedUpload fault => ⟨400, .document (.object [("error", .text fault.message)]), none⟩
  | unexpected details => .internalError (if isDebugging then some details else none)

end Failure

namespace Endpoint

/-- Whether an endpoint works on designs. -/
def needsDesigns : Endpoint → Bool
  | createDesign | listDesigns | getDesign _ | editorData _ | publishDesign _ | saveDraft _
  | deleteDesign _ => true
  | _ => false

/-- Whether an endpoint reads the body of a request. -/
def readsBody : Endpoint → Bool
  | validate | compile | createDesign | publishDesign _ | saveDraft _ | preview
  | uploadImage => true
  | _ => false

end Endpoint

namespace Service

/-- The document of a request. -/
def documentOf (request : Request) : Except Failure Value :=
  (readBody request.body).mapError .ofBody

/-- A reading of a part of a request. -/
def partOf (place : String) (reading : Reading α) : Except Failure α :=
  (reading.within (.name place)).result.mapError .issues

/-- The form of a request. -/
def formOf (read : Fields → Reading α) (request : Request) : Except Failure α := do
  partOf "body" (record read (← documentOf request))

/-- An endpoint that leaves the service as it is. -/
def unchanged (service : Service) (answer : Answer) : Service × Answer :=
  (service, answer)

/-- Goes on with what a request holds. -/
def withInput (service : Service) (input : Except Failure α) (next : α → Service × Answer) :
    Service × Answer :=
  match input with
  | .ok a => next a
  | .error failure => (service, .error failure)

/-- Publishes a new version of a design: the design is looked up, what the form holds is rendered,
and the result is committed. -/
def publishDesign (service : Service) (id : String) (form : DesignForm) (now : Time) :
    Service × Answer :=
  service.withInput (service.lookup id) fun _ =>
    service.withInput ((form.publish service.publisher).mapError .ofPublish) fun published =>
      service.commitDesign id form.name published now

/-- Answers a request for an endpoint. -/
def answerAt (service : Service) (request : Request) (now : Time) :
    Endpoint → Service × Answer
  | .health => service.unchanged service.health
  | .live =>
    service.unchanged (.ok (.ok (.object (("status", .text "alive") :: service.infoFields))))
  | .root => service.unchanged (.ok (.ok service.rootValue))
  | .manual => service.unchanged (.ok ⟨200, .nothing, none⟩)
  | .constraints => service.unchanged (.ok (.ok Catalog.toValue))
  | .validate =>
    service.withInput (documentOf request) fun candidate =>
      service.unchanged (.ok (.ok (.object (soundnessFields candidate))))
  | .compile =>
    service.withInput (documentOf request) fun candidate => service.unchanged (compile candidate)
  | .preview =>
    service.withInput (formOf readMarkup request) fun markup =>
      service.unchanged (service.preview markup)
  | .uploadImage =>
    service.withInput (formOf UploadForm.read request) fun form => service.uploadImage form now
  | .downloadImage key => service.unchanged (service.downloadImage key)
  | .createDesign =>
    service.withInput (formOf DesignForm.read request) fun form =>
      service.withInput ((form.publish service.publisher).mapError .ofPublish) fun published =>
        service.createDesign form.name published now
  | .listDesigns =>
    let fields := Query.fields request.query
    let numbers := Prod.mk <$> Intake.optional "skip" 0 Intake.integer fields
      <*> Intake.optional "limit" 100 Intake.integer fields
    service.withInput (partOf "query" numbers) fun (skip, limit) =>
      service.unchanged (service.listDesigns skip limit now)
  | .getDesign id =>
    service.unchanged ((service.lookup id).map fun design => .ok (designValue design []))
  | .editorData id =>
    let ofDraft := Intake.optional "draft" false Intake.boolean (Query.fields request.query)
    service.withInput (partOf "query" ofDraft) fun ofDraft =>
      service.unchanged (service.editorData id ofDraft)
  | .publishDesign id =>
    service.withInput (formOf DesignForm.read request) fun form =>
      service.publishDesign id form now
  | .saveDraft id =>
    service.withInput (formOf readDraft request) fun draft => service.saveDraft id draft now
  | .deleteDesign id => service.deleteDesign id

/-- Answers a request for an endpoint. When no connection to the designs can even be tried, nothing
but the spelling of a body is judged. -/
def answerFor (service : Service) (request : Request) (now : Time) (endpoint : Endpoint) :
    Service × Answer :=
  match service.database, endpoint.needsDesigns with
  | .unusable _, true =>
    match endpoint.readsBody, readBody request.body with
    | false, _ | true, .ok _ | true, .error .empty => (service, .error (.unexpected ""))
    | true, .error fault => (service, .error (.ofBody fault))
  | _, _ => service.answerAt request now endpoint

/-- Follows a request by its identifier, unless something unforeseen happened. -/
def follow (request : Request) (response : Response) : Response :=
  { response with correlation := if response.status = 500 then none else request.correlation }

/-- Leaves out what a response carries when only its status was asked for. -/
def trim (request : Request) (response : Response) : Response :=
  if request.method = "HEAD" then { response with content := .nothing } else response

/-- Answers a request. -/
def respond (service : Service) (request : Request) (now : Time) : Service × Response :=
  let (service, response) : Service × Response :=
    match Destination.of service.settings.apiStart
      (service.settings.environment = .development) request.method request.path with
    | .endpoint endpoint =>
      let (service, answer) := service.answerFor request now endpoint
      (service, match answer with
        | .ok response => response
        | .error failure => failure.response service.settings.debug)
    | .wrongMethod => (service, .methodNotAllowed)
    | .redirect => (service, .redirect)
    | .nowhere => (service, .notFound)
  (service, trim request (follow request response))

/-! ## Starting -/

/-- Why the service does not start. -/
inductive StartFault where
  /-- The common start of paths does not begin with a slash. -/
  | badStart
  | database (fault : Database.PrepareFault)

/-- Starts the service. Unless the database is to be prepared, it is taken as it is found. -/
def start (settings : Settings) (engine : Engine) (scan : Time → Scan) (images : ImageStore)
    (prepares : Bool) : Except StartFault Service :=
  if settings.apiStart ≠ "" && !settings.apiStart.startsWith "/" then .error .badStart
  else
    let database : Except StartFault Database :=
      if prepares then (Database.prepared settings).mapError .database
      else .ok (Database.found settings)
    database.map fun database => ⟨settings, engine, database, scan, images, 0⟩

end Service

end EmailStudio.Api
