import EmailStudio.Proofs.Api.Answer
import EmailStudio.Proofs.Markup.Grammar

/-!
# One candidate on four ways

A candidate can be judged, compiled or saved as a design, and the markup of the design can be
previewed. By `Service.saving_agrees` it does not matter which way is taken: what is saved has the
markup that compiling answers and the HTML and diagnostics that a preview answers, and what is
refused is refused on every way with the same messages.
-/

namespace EmailStudio

/-! ## Markup can be previewed -/

theorem Markup.text_ne_empty (markup : Markup) : markup.text ≠ "" :=
  joinLines_ne_empty (by decide) _

theorem Publisher.markup_ne_empty {candidate template : Value} {markup : String}
    (h : Publisher.compile candidate = .ok (template, markup)) : markup ≠ "" := by
  obtain ⟨-, t, -, -, hm⟩ := Publisher.compile_eq_ok_iff.1 h
  obtain ⟨tree, -, htext⟩ := Outcome.bind_eq_ok_iff.1 hm
  rw [← Outcome.pure_eq_ok_iff.1 htext]
  exact tree.text_ne_empty

/-- Rendering refuses no candidate; where it fails, something was not foreseen. -/
theorem Publisher.exists_fault_of_rendering {publisher : Publisher} {markup : String}
    {error : PublishFault} (h : publisher.rendering markup = .error error) :
    ∃ fault, error = .fault fault := by
  unfold rendering at h
  split_ifs at h
  · cases hrender : publisher.engine.render publisher.level markup with
    | ok rendering =>
      rw [hrender] at h
      cases h
    | error fault =>
      rw [hrender] at h
      cases h
      exact ⟨fault, rfl⟩
  · cases h

theorem Publisher.render_of_rendering {publisher : Publisher} {markup : String}
    {result : Rendering} (renders : publisher.rendersHtml = true)
    (h : publisher.rendering markup = .ok result) :
    publisher.engine.render publisher.level markup = .ok result := by
  rw [rendering, if_pos renders] at h
  exact Outcome.mapError_eq_ok_iff.1 h

namespace Api

namespace Service

variable {service : Service} {request : Request} {now : Time} {candidate template : Value}
  {markup : String}

/-! ## Saving a candidate -/

theorem answerAt_createDesign (service : Service) (now : Time)
    (hform : formOf DesignForm.read request = .ok ⟨none, .template candidate⟩) :
    service.answerAt request now .createDesign =
      service.withInput ((service.publisher.publish candidate).mapError .ofPublish)
        fun published => service.createDesign none published now := by
  rw [answerAt, hform]
  rfl

theorem respond_createDesign_of_fault {fault : PublishFault}
    (hleads : service.LeadsTo request .createDesign) (hreach : service.Reaches .createDesign)
    (hform : formOf DesignForm.read request = .ok ⟨none, .template candidate⟩)
    (h : Publisher.compile candidate = .error fault) :
    service.respond request now =
      (service, follow request ((Failure.ofPublish fault).response service.settings.debug)) := by
  refine respond_of_error hleads hreach ?_
  rw [answerAt_createDesign service now hform, Publisher.publish, h]
  rfl

/-- A candidate that compiles and is rendered is saved with its markup and its rendering. -/
theorem respond_createDesign {store : DesignStore} {rendering : Rendering}
    (hleads : service.LeadsTo request .createDesign) (hready : service.database = .ready store)
    (hform : formOf DesignForm.read request = .ok ⟨none, .template candidate⟩)
    (h : Publisher.compile candidate = .ok (template, markup))
    (hrendering : service.publisher.rendering markup = .ok rendering) :
    (service.respond request now).2 = ⟨201, .document (designValue
      (store.create (nameOf none template) template markup rendering.html now).2
      rendering.diagnostics), request.correlation⟩ := by
  have hreach := reaches_of_ready hready .createDesign
  have hanswer := service.answerAt_createDesign now hform
  have hcreated : service.createDesign none ⟨template, markup, rendering⟩ now = (_,
      .ok (.created (designValue (store.create (nameOf none template) template markup
        rendering.html now).2 rendering.diagnostics))) :=
    transact_eq hready _
  rw [service.publisher.publish_of_compile h, hrendering] at hanswer
  rw [respond_of_ok hleads hreach (hanswer.trans hcreated) (by decide : 201 ≠ 500)]
  rfl

/-- A candidate that compiles is saved, or something goes wrong that is not the candidate's. -/
theorem respond_createDesign_cases (now : Time) (hleads : service.LeadsTo request .createDesign)
    (hreach : service.Reaches .createDesign)
    (hform : formOf DesignForm.read request = .ok ⟨none, .template candidate⟩)
    (h : Publisher.compile candidate = .ok (template, markup)) :
    (service.respond request now).2.status = 500 ∨
      ∃ design rendering, service.publisher.rendering markup = .ok rendering ∧
        design.markup = markup ∧ design.html = rendering.html ∧
        (service.respond request now).2 =
          ⟨201, .document (designValue design rendering.diagnostics), request.correlation⟩ := by
  have hanswer := service.answerAt_createDesign now hform
  rw [service.publisher.publish_of_compile h] at hanswer
  cases hrendering : service.publisher.rendering markup with
  | error error =>
    obtain ⟨fault, rfl⟩ := Publisher.exists_fault_of_rendering hrendering
    rw [hrendering] at hanswer
    rw [respond_of_error hleads hreach hanswer]
    exact .inl rfl
  | ok rendering =>
    rw [hrendering] at hanswer
    cases hdatabase : service.database with
    | ready store =>
      exact .inr ⟨_, rendering, rfl, by rfl, by rfl,
        respond_createDesign hleads hdatabase hform h hrendering⟩
    | withoutTables | unreachable | unusable =>
      have hrefused : service.createDesign none ⟨template, markup, rendering⟩ now =
          (service, .error (.unexpected "")) := by
        rw [createDesign, transact, hdatabase]
      rw [respond_of_error hleads hreach (hanswer.trans hrefused)]
      exact .inl rfl

/-! ## Refusals -/

/-- The messages that a candidate is refused with, null where it is not refused. -/
def messages (response : Response) : Value :=
  Fields.get (response.field "detail").fields "errors"

/-- A response refuses a candidate exactly if the candidate has issues, and tells their messages. -/
structure Judges (response : Response) (candidate : Value) : Prop where
  refuses_iff : response.status = 422 ↔ Template.isValid candidate = false
  messages_eq : response.status = 422 →
    messages response = .list ((Template.errors candidate).map .text)

theorem Judges.of_isValid {response : Response} (h : Template.isValid candidate = true)
    (hstatus : response.status ≠ 422) : Judges response candidate where
  refuses_iff := iff_of_false hstatus (by rw [h]; exact Bool.noConfusion)
  messages_eq hrefused := absurd hrefused hstatus

/-- A fault of compiling is told by a status of 422 if the candidate has issues, with their messages,
and by 500 otherwise. -/
theorem judges_fault (request : Request) (isDebugging : Bool) {fault : PublishFault}
    (h : Publisher.compile candidate = .error fault) :
    Judges (follow request ((Failure.ofPublish fault).response isDebugging)) candidate := by
  cases hvalid : Template.isValid candidate with
  | false =>
    rw [Publisher.compile_of_errors hvalid] at h
    cases h
    exact ⟨iff_of_true rfl hvalid, fun _ => rfl⟩
  | true =>
    obtain ⟨t, ht, -⟩ := Template.sound_of_isValid hvalid
    rw [Publisher.compile_of_isValid hvalid ht] at h
    cases hmarkup : t.compile with
    | ok markup =>
      rw [hmarkup] at h
      cases h
    | error reason =>
      rw [hmarkup] at h
      cases h
      exact .of_isValid hvalid (by decide : 500 ≠ 422)

theorem judges_compile (now : Time) (hleads : service.LeadsTo request .compile)
    (hbody : readBody request.body = .ok candidate) :
    Judges (service.respond request now).2 candidate := by
  cases hresult : Publisher.compile candidate with
  | error fault =>
    rw [respond_compile_of_fault hleads hbody hresult]
    exact judges_fault request _ hresult
  | ok result =>
    rw [respond_compile hleads hbody hresult]
    exact .of_isValid (Publisher.compile_eq_ok_iff.1 hresult).1 (by decide : 200 ≠ 422)

theorem judges_createDesign (now : Time) (hleads : service.LeadsTo request .createDesign)
    (hreach : service.Reaches .createDesign)
    (hform : formOf DesignForm.read request = .ok ⟨none, .template candidate⟩) :
    Judges (service.respond request now).2 candidate := by
  cases hresult : Publisher.compile candidate with
  | error fault =>
    rw [respond_createDesign_of_fault hleads hreach hform hresult]
    exact judges_fault request _ hresult
  | ok result =>
    refine .of_isValid (Publisher.compile_eq_ok_iff.1 hresult).1 ?_
    obtain hfailed | ⟨design, rendering, -, -, -, hsaved⟩ :=
      respond_createDesign_cases now hleads hreach hform hresult
    · rw [hfailed]
      exact (by decide : 500 ≠ 422)
    · rw [hsaved]
      exact (by decide : 201 ≠ 422)

/-- What is saved was compiled and rendered. -/
theorem exists_rendering_of_saved (hleads : service.LeadsTo request .createDesign)
    (hreach : service.Reaches .createDesign)
    (hform : formOf DesignForm.read request = .ok ⟨none, .template candidate⟩)
    (hstatus : (service.respond request now).2.status = 201) :
    ∃ template design rendering, Publisher.compile candidate = .ok (template, design.markup) ∧
      service.publisher.rendering design.markup = .ok rendering ∧ design.html = rendering.html ∧
      (service.respond request now).2 =
        ⟨201, .document (designValue design rendering.diagnostics), request.correlation⟩ := by
  cases hresult : Publisher.compile candidate with
  | error fault =>
    have hle : 400 ≤ (service.respond request now).2.status := by
      rw [respond_createDesign_of_fault hleads hreach hform hresult]
      exact (Failure.response_spec _ _).1
    omega
  | ok result =>
    obtain ⟨template, markup⟩ := result
    obtain hfailed | ⟨design, rendering, hrendering, rfl, hhtml, hsaved⟩ :=
      respond_createDesign_cases now hleads hreach hform hresult
    · omega
    · exact ⟨template, design, rendering, rfl, hrendering, hhtml, hsaved⟩

/-! ## Agreement -/

/-- With rendering on, at a service that has some database: if a candidate is saved with some markup,
then compiling it answers this markup, previewing the markup answers the HTML and the diagnostics
that came with the design, and judging the candidate finds no issue. It is refused by compiling
exactly if saving refuses it and judging finds issues, and all three tell the same messages. The
candidate may be saved at any time before or after: only the settings and the engine have to be the
same. -/
theorem saving_agrees {service other : Service} (same : service.IsAlike other)
    (usable : ∀ fault, service.database ≠ .unusable fault)
    (renders : service.settings.rendersHtmlOnSave = true) {candidate : Value}
    (given : candidate ≠ .null) {create compile validate : Request} (now later : Time)
    (hcreate : service.LeadsTo create .createDesign) (hcompile : other.LeadsTo compile .compile)
    (hvalidate : other.LeadsTo validate .validate)
    (posted : readBody create.body = .ok (.object [("json", candidate)]))
    (sent : readBody compile.body = .ok candidate)
    (asked : readBody validate.body = .ok candidate) :
    let saved := (service.respond create now).2
    let compiled := (other.respond compile later).2
    let judged := (other.respond validate later).2
    (saved.status = 201 → ∃ markup, saved.field "mjml" = .text markup ∧
      compiled = ⟨200, .document (.object [("mjml", .text markup)]), compile.correlation⟩ ∧
      judged.status = 200 ∧ judged.field "valid" = .bool true ∧
      ∀ {preview : Request}, other.LeadsTo preview .preview →
        readBody preview.body = .ok (.object [("mjml", .text markup)]) →
        (other.respond preview later).2 = ⟨200, .document (.object [
          ("html", saved.field "html"), ("errors", saved.field "errors")]),
          preview.correlation⟩) ∧
    (compiled.status = 422 ↔ saved.status = 422) ∧
    (compiled.status = 422 ↔ judged.field "valid" = .bool false) ∧
    (compiled.status = 422 → messages compiled = judged.field "errors" ∧
      messages saved = judged.field "errors") := by
  intro saved compiled judged
  have hreach : service.Reaches .createDesign := fun _ => usable
  have hform := formOf_template given posted
  have hjudged : judged = ⟨200, .document (.object (soundnessFields candidate)),
      validate.correlation⟩ := congrArg Prod.snd (respond_validate hvalidate asked)
  have hvalid : judged.field "valid" = .bool (Template.isValid candidate) := by
    rw [hjudged]
    rfl
  have herrors : judged.field "errors" = .list ((Template.errors candidate).map .text) := by
    rw [hjudged]
    rfl
  have hsaving : Judges saved candidate := judges_createDesign now hcreate hreach hform
  have hcompiling : Judges compiled candidate := judges_compile later hcompile sent
  have hagree : compiled.status = 422 ↔ saved.status = 422 :=
    hcompiling.refuses_iff.trans hsaving.refuses_iff.symm
  refine ⟨fun hstatus => ?_, hagree, ?_, fun hrefused => ?_⟩
  · obtain ⟨template, design, rendering, hresult, hrendering, hhtml, hsaved⟩ :=
      exists_rendering_of_saved hcreate hreach hform hstatus
    have hsaved : saved = _ := hsaved
    refine ⟨design.markup, ?_, congrArg Prod.snd (respond_compile hcompile sent hresult), ?_, ?_,
      fun {preview} hpreview hbody => ?_⟩
    · rw [hsaved]
      rfl
    · rw [hjudged]
    · rw [hvalid, (Publisher.compile_eq_ok_iff.1 hresult).1]
    · have hmarkup := formOf_markup (Publisher.markup_ne_empty hresult) hbody
      have hrender : other.engine.render other.settings.validationLevel design.markup =
          .ok rendering := by
        rw [same.engine, same.settings]
        exact Publisher.render_of_rendering renders hrendering
      rw [respond_preview hpreview hmarkup hrender, hsaved, ← hhtml]
      rfl
  · rw [hcompiling.refuses_iff, hvalid, Value.bool.injEq]
  · rw [herrors]
    exact ⟨hcompiling.messages_eq hrefused, hsaving.messages_eq (hagree.1 hrefused)⟩

/-- A service whose engine gives its markup back and reports something about it. -/
def reportingService : Service :=
  Session.emptyService.withEngine fun markup => .rendered (some markup) (.list [.text "odd"])

/-- A request that posts a document. -/
def posting (path : String) (document : Value) : Request :=
  ⟨"POST", "/api/v1/" ++ path, "", document.write, none⟩

/-- A template without blocks, saved, compiled and judged. -/
def savePlain : Request :=
  posting "designs" (.object [("json", Template.candidate [])])

def compilePlain : Request :=
  posting "templates/compile" (Template.candidate [])

def validatePlain : Request :=
  posting "templates/validate" (Template.candidate [])

/-- The template is compiled after it was saved, and any preview of what was saved shows the same as
the design. -/
theorem saving_agrees_plain :
    (reportingService.respond savePlain ⟨0⟩).2.status = 201 ∧
      ∃ markup, (reportingService.respond savePlain ⟨0⟩).2.field "mjml" = .text markup ∧
        ((reportingService.respond savePlain ⟨0⟩).1.respond compilePlain ⟨1⟩).2.field "mjml" =
          .text markup ∧
        ∀ {preview : Request}, reportingService.LeadsTo preview .preview →
          readBody preview.body = .ok (.object [("mjml", .text markup)]) →
          ((reportingService.respond savePlain ⟨0⟩).1.respond preview ⟨1⟩).2.field "html" =
            (reportingService.respond savePlain ⟨0⟩).2.field "html" := by
  have hleads : reportingService.LeadsTo savePlain .createDesign ∧
      reportingService.LeadsTo compilePlain .compile ∧
      reportingService.LeadsTo validatePlain .validate := by
    unfold LeadsTo
    decide +kernel
  have hposted : readBody savePlain.body = .ok (.object [("json", Template.candidate [])]) :=
    readBody_write (by decide +kernel)
  have hplain (path : String) : readBody (posting path (Template.candidate [])).body =
      .ok (Template.candidate []) := readBody_write (by decide +kernel)
  have hgiven : Template.candidate [] ≠ .null := nofun
  have hrenders : reportingService.settings.rendersHtmlOnSave = true := rfl
  have hready : reportingService.database = .ready .empty := rfl
  have husable : ∀ fault, reportingService.database ≠ .unusable fault := by
    rw [hready]
    exact fun _ => nofun
  have hsaved : (reportingService.respond savePlain ⟨0⟩).2.status = 201 := by
    obtain ⟨template, markup, hcompile⟩ : ∃ template markup,
        Publisher.compile (Template.candidate []) = .ok (template, markup) := ⟨_, _, rfl⟩
    have hform := formOf_template hgiven hposted
    have hrendered : reportingService.publisher.rendering markup =
        .ok ⟨markup, [⟨0, "odd", "mjml", "odd"⟩]⟩ := rfl
    rw [respond_createDesign hleads.1 hready hform hcompile hrendered]
  have halike := isAlike_respond reportingService savePlain ⟨0⟩
  generalize (reportingService.respond savePlain ⟨0⟩).1 = other at halike ⊢
  obtain ⟨agrees, -⟩ := saving_agrees halike husable hrenders hgiven ⟨0⟩ ⟨1⟩ hleads.1
    (halike.leadsTo_iff.2 hleads.2.1) (halike.leadsTo_iff.2 hleads.2.2) hposted (hplain _)
    (hplain _)
  obtain ⟨markup, hmarkup, hcompiled, -, -, previews⟩ := agrees hsaved
  refine ⟨hsaved, markup, hmarkup, ?_, fun {preview} hpreview hbody => ?_⟩
  · rw [hcompiled, Response.field_first]
  · rw [previews (halike.leadsTo_iff.2 hpreview) hbody, Response.field_first]

end Service

end Api

end EmailStudio
