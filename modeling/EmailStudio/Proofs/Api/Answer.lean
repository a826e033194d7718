import EmailStudio.Proofs.Api.Reopening
import EmailStudio.Proofs.Value.Spelling

/-!
# From an endpoint to the answer

A request is answered with what its endpoint answers, followed by the identifier that the client
gave it. `Service.respond_of_ok` and `Service.respond_of_error` say so for the two ways in which an
endpoint ends, at every service that does not lack a database which the endpoint works on. The
settings and the engine of a service stay as they are whatever it is asked.
-/

namespace EmailStudio.Api

/-! ## What a response carries -/

/-- A field of the document that a response carries. -/
def Response.field (response : Response) (key : String) : Value :=
  Fields.get response.document.fields key

@[simp]
theorem Response.field_first (status : Nat) (key : String) (v : Value) (rest : Fields)
    (correlation : Option String) :
    (Response.mk status (.document (.object ((key, v) :: rest))) correlation).field key = v := by
  show ((if key = key then some v else Fields.get? key rest).getD .null : Value) = v
  rw [if_pos rfl, Option.getD_some]

/-- A failure is told as an object, and with a status that says so. -/
theorem Failure.response_spec (failure : Failure) (isDebugging : Bool) :
    400 ≤ (failure.response isDebugging).status ∧
      ∃ fields, (failure.response isDebugging).content = .document (.object fields) := by
  cases failure <;> exact ⟨Nat.le_of_ble_eq_true rfl, _, rfl⟩

/-! ## The method of an endpoint -/

namespace Endpoint

/-- The one method that an endpoint is asked with. -/
def method : Endpoint → String
  | validate | compile | createDesign | preview | uploadImage => "POST"
  | publishDesign _ | saveDraft _ => "PUT"
  | deleteDesign _ => "DELETE"
  | health | live | root | constraints | listDesigns | getDesign _ | editorData _
  | downloadImage _ | manual => "GET"

theorem method_ne_head (endpoint : Endpoint) : endpoint.method ≠ "HEAD" := by
  cases endpoint <;> simp [method]

theorem method_of_mem_below {names : List String} :
    ∀ entry ∈ below names, entry.1 = entry.2.method := by
  fun_cases below names <;> simp [method]

theorem method_of_mem_ofPath {start path : String} {hasManual : Bool} :
    ∀ entry ∈ ofPath start hasManual path, entry.1 = entry.2.method := by
  have single {c : Prop} [Decidable c] {e : Endpoint} (he : e.method = "GET") :
      ∀ entry ∈ if c then [("GET", e)] else [], entry.1 = entry.2.method := by
    split_ifs <;> simp [he]
  unfold ofPath
  refine List.forall_mem_append.2 ⟨List.forall_mem_append.2 ⟨List.forall_mem_append.2
    ⟨single rfl, single rfl⟩, single rfl⟩, ?_⟩
  cases behind? (Path.names start) (Path.names path) with
  | none => exact fun _ h => absurd h List.not_mem_nil
  | some names => exact method_of_mem_below

end Endpoint

namespace Service

variable {service : Service} {request : Request} {now : Time} {endpoint : Endpoint}

theorem LeadsTo.method_eq (h : service.LeadsTo request endpoint) :
    request.method = endpoint.method := by
  unfold LeadsTo Destination.of at h
  dsimp only at h
  split at h
  · rename_i target hlookup
    obtain ⟨before, after, hsplit, -⟩ := List.lookup_eq_some_iff.1 hlookup
    cases h
    have hmem : (request.method, endpoint) ∈ before ++ (request.method, endpoint) :: after :=
      List.mem_append_right _ List.mem_cons_self
    rw [← hsplit] at hmem
    exact Endpoint.method_of_mem_ofPath _ hmem
  · split_ifs at h

/-! ## What an endpoint leaves alone -/

/-- A service at two times: the settings and the engine are the same. -/
structure IsAlike (service other : Service) : Prop where
  settings : other.settings = service.settings
  engine : other.engine = service.engine

theorem isAlike_self (service : Service) : service.IsAlike service :=
  ⟨rfl, rfl⟩

theorem IsAlike.leadsTo_iff {other : Service} (h : service.IsAlike other) :
    other.LeadsTo request endpoint ↔ service.LeadsTo request endpoint := by
  rw [LeadsTo, LeadsTo, h.settings]

section Induction

variable {P : Service → Prop}

theorem withInput_induction {α : Type} {input : Except Failure α} {next : α → Service × Answer}
    (same : P service) (h : ∀ a, P (next a).1) : P (service.withInput input next).1 := by
  cases input with
  | ok a => exact h a
  | error failure => exact same

theorem transact_induction {α : Type} (same : P service)
    (designs : ∀ database, P { service with database := database })
    (work : DesignStore → DesignStore × Except Failure α) : P (service.transact work).1 := by
  unfold transact
  split
  · exact designs _
  · exact same

/-- An endpoint leaves a service as it is, works on the designs or stores an image. -/
theorem answerAt_induction (service : Service) (request : Request) (now : Time)
    (endpoint : Endpoint) (same : P service)
    (designs : ∀ database, P { service with database := database })
    (upload : ∀ form, P (service.uploadImage form now).1) :
    P (service.answerAt request now endpoint).1 := by
  have transacts {α : Type} (work : DesignStore → DesignStore × Except Failure α) :
      P (service.transact work).1 :=
    transact_induction same designs work
  cases endpoint with
  | createDesign =>
    exact withInput_induction same fun _ => withInput_induction same fun _ => transacts _
  | publishDesign =>
    exact withInput_induction same fun _ => withInput_induction same fun _ =>
      withInput_induction same fun _ => transacts _
  | saveDraft => exact withInput_induction same fun _ => transacts _
  | deleteDesign => exact transacts _
  | uploadImage => exact withInput_induction same upload
  | validate | compile | preview | listDesigns | editorData =>
    exact withInput_induction same fun _ => same
  | health | live | root | manual | constraints | downloadImage | getDesign => exact same

/-- What holds of a service, with any designs and after any upload, holds after every request. -/
theorem respond_induction (service : Service) (request : Request) (now : Time)
    (same : P service) (designs : ∀ database, P { service with database := database })
    (upload : ∀ form, P (service.uploadImage form now).1) :
    P (service.respond request now).1 := by
  rw [respond]
  dsimp only
  split
  · rename_i endpoint _
    show P (service.answerFor request now endpoint).1
    unfold answerFor
    split
    · split <;> exact same
    · exact answerAt_induction service request now endpoint same designs upload
  all_goals exact same

end Induction

theorem isAlike_uploadImage (service : Service) (form : UploadForm) (now : Time) :
    service.IsAlike (service.uploadImage form now).1 := by
  unfold uploadImage
  split
  · exact ⟨rfl, rfl⟩
  · dsimp only
    split <;> exact ⟨rfl, rfl⟩

theorem isAlike_answerAt (service : Service) (request : Request) (now : Time)
    (endpoint : Endpoint) : service.IsAlike (service.answerAt request now endpoint).1 :=
  answerAt_induction service request now endpoint (isAlike_self service) (fun _ => ⟨rfl, rfl⟩)
    fun form => isAlike_uploadImage service form now

theorem isAlike_respond (service : Service) (request : Request) (now : Time) :
    service.IsAlike (service.respond request now).1 :=
  respond_induction service request now (isAlike_self service) (fun _ => ⟨rfl, rfl⟩)
    fun form => isAlike_uploadImage service form now

/-! ## What is answered -/

/-- The service can be asked for an endpoint: there is some database for one that works on
designs. -/
def Reaches (service : Service) (endpoint : Endpoint) : Prop :=
  endpoint.needsDesigns = true → ∀ fault, service.database ≠ .unusable fault

theorem reaches_of_ready {store : DesignStore} (h : service.database = .ready store)
    (endpoint : Endpoint) : service.Reaches endpoint :=
  fun _ _ hunusable => Database.noConfusion (h.symm.trans hunusable)

theorem answerFor_eq (h : service.Reaches endpoint) :
    service.answerFor request now endpoint = service.answerAt request now endpoint := by
  unfold answerFor
  split
  · rename_i hunusable hneeds
    exact absurd hunusable (h hneeds _)
  · rfl

theorem trim_eq_self (h : service.LeadsTo request endpoint) (response : Response) :
    trim request response = response := by
  rw [trim, if_neg]
  rw [h.method_eq]
  exact endpoint.method_ne_head

/-- An endpoint that answers is heard, with the identifier of the request. -/
theorem respond_of_ok {later : Service} {response : Response}
    (hleads : service.LeadsTo request endpoint) (hreach : service.Reaches endpoint)
    (h : service.answerAt request now endpoint = (later, .ok response))
    (hforeseen : response.status ≠ 500) :
    service.respond request now =
      (later, ⟨response.status, response.content, request.correlation⟩) := by
  have hdest : Destination.of service.settings.apiStart _ _ _ = .endpoint endpoint := hleads
  rw [respond, hdest]
  dsimp only
  rw [answerFor_eq hreach, h]
  dsimp only
  rw [trim_eq_self hleads, follow, if_neg hforeseen]

/-- An endpoint that fails is told by the response to its failure. -/
theorem respond_of_error {later : Service} {failure : Failure}
    (hleads : service.LeadsTo request endpoint) (hreach : service.Reaches endpoint)
    (h : service.answerAt request now endpoint = (later, .error failure)) :
    service.respond request now =
      (later, follow request (failure.response service.settings.debug)) := by
  have hdest : Destination.of service.settings.apiStart _ _ _ = .endpoint endpoint := hleads
  have hsettings : later.settings = service.settings := by
    have halike := (isAlike_answerAt service request now endpoint).settings
    rwa [h] at halike
  rw [respond, hdest]
  dsimp only
  rw [answerFor_eq hreach, h]
  dsimp only
  rw [trim_eq_self hleads, hsettings]

/-! ## What a request holds -/

variable {candidate : Value} {markup : String}

/-- A body that an object is written in is read as the object if its characters are. -/
theorem readBody_write {fields : Fields}
    (hread : (Value.read (Value.object fields).spelling).toOption = some (.object fields)) :
    readBody (Value.object fields).write = .ok (.object fields) := by
  have hfirst : (Value.object fields).write.toList.head? = some '\x7b' := by
    rw [Value.toList_write, Value.spelling]
    rfl
  rw [← Value.toList_write] at hread
  exact readBody_of_read hfirst (by decide) hread

/-- The form of a body that holds a candidate and nothing else. -/
theorem formOf_template (given : candidate ≠ .null)
    (h : readBody request.body = .ok (.object [("json", candidate)])) :
    formOf DesignForm.read request = .ok ⟨none, .template candidate⟩ := by
  rw [formOf, documentOf, h]
  cases candidate with
  | null => exact absurd rfl given
  | _ => rfl

/-- The form of a body that holds markup and nothing else. -/
theorem formOf_markup (given : markup ≠ "")
    (h : readBody request.body = .ok (.object [("mjml", .text markup)])) :
    formOf readMarkup request = .ok markup := by
  have hlength : ¬markup.length < 1 := by
    rw [Nat.lt_one_iff, String.length_eq_zero_iff]
    exact given
  have hread : Intake.textOfLength (some 1) none (.text markup) = .good markup := by
    unfold Intake.textOfLength
    simp only [Intake.text, Reading.andThen, Reading.good, Option.any_some, Option.any_none,
      decide_eq_false hlength]
    rfl
  rw [formOf, documentOf, h]
  dsimp only [Except.mapError]
  simp only [bind, Except.bind]
  rw [record, readMarkup, Intake.required, show Fields.get? "mjml" _ = some (.text markup) from rfl]
  dsimp only
  rw [hread]
  rfl

/-! ## Endpoints that only answer -/

variable {template : Value}

theorem reaches_of_needsDesigns (h : endpoint.needsDesigns = false) : service.Reaches endpoint :=
  fun hneeds => absurd (h.symm.trans hneeds) Bool.false_ne_true

/-- A candidate is judged without regard to what it holds. -/
theorem respond_validate (hleads : service.LeadsTo request .validate)
    (hbody : readBody request.body = .ok candidate) :
    service.respond request now =
      (service, ⟨200, .document (.object (soundnessFields candidate)), request.correlation⟩) := by
  have hanswer : service.answerAt request now .validate =
      (service, .ok (.ok (.object (soundnessFields candidate)))) := by
    rw [answerAt, documentOf, hbody]
    rfl
  exact respond_of_ok hleads (reaches_of_needsDesigns rfl) hanswer (by decide : 200 ≠ 500)

theorem respond_compile (hleads : service.LeadsTo request .compile)
    (hbody : readBody request.body = .ok candidate)
    (h : Publisher.compile candidate = .ok (template, markup)) :
    service.respond request now =
      (service, ⟨200, .document (.object [("mjml", .text markup)]), request.correlation⟩) := by
  have hanswer : service.answerAt request now .compile =
      (service, .ok (.ok (.object [("mjml", .text markup)]))) := by
    rw [answerAt, documentOf, hbody]
    simp only [Except.mapError, withInput, unchanged, compile, h]
  exact respond_of_ok hleads (reaches_of_needsDesigns rfl) hanswer (by decide : 200 ≠ 500)

theorem respond_compile_of_fault {fault : PublishFault} (hleads : service.LeadsTo request .compile)
    (hbody : readBody request.body = .ok candidate)
    (h : Publisher.compile candidate = .error fault) :
    service.respond request now =
      (service, follow request ((Failure.ofPublish fault).response service.settings.debug)) := by
  refine respond_of_error hleads (reaches_of_needsDesigns rfl) ?_
  rw [answerAt, documentOf, hbody]
  simp only [Except.mapError, withInput, unchanged, compile, h]

theorem respond_preview {rendering : Rendering} (hleads : service.LeadsTo request .preview)
    (hform : formOf readMarkup request = .ok markup)
    (h : service.engine.render service.settings.validationLevel markup = .ok rendering) :
    service.respond request now = (service, ⟨200, .document (.object [
      ("html", .text rendering.html),
      ("errors", .list (rendering.diagnostics.map (·.toValue)))]), request.correlation⟩) := by
  have hanswer : service.answerAt request now .preview = (service, .ok (.ok (.object [
      ("html", .text rendering.html),
      ("errors", .list (rendering.diagnostics.map (·.toValue)))]))) := by
    rw [answerAt, hform]
    simp only [withInput, unchanged, preview, h]
  exact respond_of_ok hleads (reaches_of_needsDesigns rfl) hanswer (by decide : 200 ≠ 500)

end Service

/-! ## Sessions -/

namespace Session

variable {s : Session} {request : Request} {endpoint : Endpoint}

/-- What a request is answered in a session. -/
def answer (s : Session) (request : Request) (engine : Engine) (now : Time) : Response :=
  ((s.service.withEngine engine).respond request now).2

theorem run_nil (s : Session) : s.run [] = s :=
  rfl

theorem run_cons (s : Session) (e : Event) (events : List Event) :
    s.run (e :: events) = (s.step e).run events :=
  rfl

/-- A step answers a request, works on the designs or only tries out an engine. -/
theorem step_induction {P : Service → Prop} (s : Session) (e : Event)
    (engine : ∀ engine, P (s.service.withEngine engine)) (same : P s.service)
    (designs : ∀ database, P { s.service with database := database })
    (respond : ∀ request engine now, P ((s.service.withEngine engine).respond request now).1) :
    P (s.step e).service := by
  cases e with
  | request request engine now => exact respond request engine now
  | lookUp => exact same
  | render n answers =>
    rw [step, render]
    split
    · split <;> exact engine answers
    · exact engine answers
  | commit n now =>
    rw [step, commit]
    split
    · exact Service.transact_induction same designs _
    · exact same

theorem settings_step (s : Session) (e : Event) :
    (s.step e).service.settings = s.service.settings :=
  step_induction (P := fun later => later.settings = s.service.settings) s e (fun _ => rfl) rfl
    (fun _ => rfl) fun request engine now =>
      (Service.isAlike_respond (s.service.withEngine engine) request now).settings

theorem settings_run (s : Session) (events : List Event) :
    (s.run events).service.settings = s.service.settings := by
  induction events generalizing s with
  | nil => rfl
  | cons e events ih => exact (ih (s.step e)).trans (s.settings_step e)

/-- A request leads to the same endpoint throughout a session. -/
theorem leadsTo_run_iff {events : List Event} :
    (s.run events).LeadsTo request endpoint ↔ s.LeadsTo request endpoint := by
  rw [LeadsTo, LeadsTo, settings_run]

end Session

end EmailStudio.Api
