import EmailStudio.Proofs.Api.Drafts
import EmailStudio.Proofs.Api.FiniteOpening
import EmailStudio.Proofs.Api.Sparing
import EmailStudio.Proofs.Publishing.Rendering

/-!
# Drafts that are kept

A draft is read in three ways: with its design, as a mark in listings, and in the editor. The main
result is `Session.draft_is_kept`: a draft that is saved changes nothing else, and whatever happens
to other designs, all three show it as it was saved until it is saved again, published or deleted
with its design.
-/

namespace EmailStudio

/-- What is published opens in the editor, and the response to that loses nothing. -/
theorem Template.IsStored.opens {template : Value} {markup : String}
    (h : Template.IsStored template markup) :
    ∃ data, Editor.Data.ofTemplate template = .ok data ∧ Api.finite data.toValue = data.toValue := by
  obtain ⟨hvalid, t, hread, htemplate, hmarkup⟩ := h
  have hs := Template.sound_of_ofValue hvalid hread
  exact ⟨_, htemplate ▸ Editor.ofTemplate_toValue hs,
    Api.finite_dataOf hs (hs.escapable_of_compile hmarkup)⟩

theorem DesignStore.mem_of_mem_page {store : DesignStore} {scan : Scan} {skip limit : Int}
    {designs : List Design} (h : store.page scan skip limit = some designs) {design : Design}
    (hd : design ∈ designs) : design ∈ store.designs := by
  have hlisting : design ∈ store.listing scan := by
    unfold page at h
    split_ifs at h with hcountable hlimit
    · cases h
      exact List.mem_of_mem_drop hd
    · cases h
      exact List.mem_of_mem_drop (List.mem_of_mem_take hd)
  exact (scan.perm _).mem_iff.1 (List.mem_mergeSort.1 hlisting)

namespace Api

namespace Service

variable {service : Service} {store : DesignStore} {design : Design} {request : Request}
  {now : Time}

/-! ## Listings -/

/-- What is listed are designs of the store. -/
theorem answerAt_listDesigns (h : service.database = .ready store) (request : Request)
    (now : Time) :
    (∃ failure, service.answerAt request now .listDesigns = (service, .error failure)) ∨
      ∃ designs : List Design, (∀ design ∈ designs, design ∈ store.designs) ∧
        service.answerAt request now .listDesigns =
          (service, .ok (.ok (.list (designs.map summaryValue)))) := by
  rw [answerAt]
  dsimp only
  generalize partOf "query" _ = numbers
  cases numbers with
  | error failure => exact .inl ⟨failure, rfl⟩
  | ok pair =>
    rw [withInput, unchanged, listDesigns, consult, h]
    dsimp only
    cases hpage : store.page (service.scan now) pair.1 pair.2 with
    | some designs => exact .inr ⟨designs, fun _ => DesignStore.mem_of_mem_page hpage, rfl⟩
    | none => exact .inl ⟨_, rfl⟩

/-! ## Writing designs -/

theorem le_status_of_error {later : Service} {failure : Failure} {endpoint : Endpoint}
    (hleads : service.LeadsTo request endpoint) (hreach : service.Reaches endpoint)
    (h : service.answerAt request now endpoint = (later, .error failure)) :
    400 ≤ (service.respond request now).2.status := by
  rw [respond_of_error hleads hreach h]
  exact (failure.response_spec _).1

/-- What was published is committed as the new version of a design. -/
theorem commitDesign_eq (h : service.database = .ready store)
    (hfound : store.get? design.id = some design) (name : Option String) (published : Published)
    (now : Time) :
    service.commitDesign design.id name published now =
      ({ service with database := .ready (store.republish design.id name published.template
          published.markup published.rendering.html now).1 },
        .ok (.ok (designValue (design.republish name published.template published.markup
          published.rendering.html now) published.rendering.diagnostics))) := by
  have hfound : (store.republish design.id name published.template published.markup
      published.rendering.html now).2 = some (design.republish name published.template
        published.markup published.rendering.html now) := by
    rw [DesignStore.republish, DesignStore.update, hfound]
  rw [commitDesign, transact_eq h]
  dsimp only
  rw [hfound]

/-- A request to publish fails before anything is written, or it commits what was published. -/
theorem answerAt_publishDesign_cases (service : Service) (request : Request) (now : Time)
    (id : String) :
    (∃ failure, service.answerAt request now (.publishDesign id) = (service, .error failure)) ∨
      ∃ (form : DesignForm) (published : Published),
        formOf DesignForm.read request = .ok form ∧
        form.publish service.publisher = .ok published ∧
        service.answerAt request now (.publishDesign id) =
          service.commitDesign id form.name published now := by
  rw [answerAt]
  cases formOf DesignForm.read request with
  | error failure => exact .inl ⟨failure, rfl⟩
  | ok form =>
    simp only [withInput, publishDesign]
    cases service.lookup id with
    | error failure => exact .inl ⟨failure, rfl⟩
    | ok design =>
      dsimp only
      cases hpublish : form.publish service.publisher with
      | error fault => exact .inl ⟨_, rfl⟩
      | ok published => exact .inr ⟨form, published, rfl, hpublish, rfl⟩

/-- A publication that succeeds commits what was published. -/
theorem exists_commit_of_publish {id : String} (hleads : service.LeadsTo request (.publishDesign id))
    (hreach : service.Reaches (.publishDesign id))
    (hstatus : (service.respond request now).2.status = 200) :
    ∃ (form : DesignForm) (published : Published), formOf DesignForm.read request = .ok form ∧
      form.publish service.publisher = .ok published ∧ (service.respond request now).1 =
        (service.commitDesign id form.name published now).1 := by
  obtain ⟨failure, h⟩ | ⟨form, published, hform, hpublish, h⟩ :=
    service.answerAt_publishDesign_cases request now id
  · have hle := le_status_of_error hleads hreach h
    omega
  · have hdest : Destination.of service.settings.apiStart _ _ _ = .endpoint _ := hleads
    refine ⟨form, published, hform, hpublish, ?_⟩
    rw [respond, hdest]
    dsimp only
    rw [answerFor_eq hreach, h]

end Service

namespace Session

variable {s : Session} {design : Design} {request : Request} {engine : Engine} {now : Time}

/-! ## Where a draft shows -/

theorem Has.answer_of_ok {endpoint : Endpoint} {later : Service} {response : Response}
    (h : s.Has design) (hleads : s.LeadsTo request endpoint)
    (hanswer : (s.service.withEngine engine).answerAt request now endpoint = (later, .ok response))
    (hforeseen : response.status ≠ 500) :
    s.answer request engine now = ⟨response.status, response.content, request.correlation⟩ := by
  have hleads : (s.service.withEngine engine).LeadsTo request endpoint := hleads
  rw [answer, Service.respond_of_ok hleads (h.reaches engine endpoint) hanswer hforeseen]

theorem Has.answer_getDesign (h : s.Has design)
    (hleads : s.LeadsTo request (.getDesign design.id)) :
    s.answer request engine now =
      ⟨200, .document (designValue design []), request.correlation⟩ :=
  h.answer_of_ok hleads (Service.answerAt_getDesign (h.lookup engine)) (by decide : 200 ≠ 500)

theorem Has.answer_editorData (h : s.Has design)
    (hleads : s.LeadsTo request (.editorData design.id)) {ofDraft : Bool} {data : Editor.Data}
    (hasked : Service.draftAsked request.query = .ok ofDraft)
    (hdata : Editor.Data.ofTemplate
      ((if ofDraft then design.loadableDraft else none).getD design.template) = .ok data) :
    s.answer request engine now =
      ⟨200, .document (finite data.toValue), request.correlation⟩ := by
  have hanswer := Service.answerAt_editorData (h.lookup engine) hasked now
  rw [hdata] at hanswer
  exact h.answer_of_ok hleads hanswer (by decide : 200 ≠ 500)

/-- A listing that holds a design says whether there is a draft of it. -/
theorem Has.hasDraft_of_listed (h : s.Has design) (hleads : s.LeadsTo request .listDesigns)
    {items : List Value}
    (hlisted : (s.answer request engine now).content = .document (.list items))
    {item : Value} (hitem : item ∈ items)
    (hid : Fields.get item.fields "id" = .text design.id) :
    Fields.get item.fields "has_draft" = .bool design.draft.template.isSome := by
  have hleads' : (s.service.withEngine engine).LeadsTo request .listDesigns := hleads
  have hreach := h.reaches engine .listDesigns
  obtain ⟨store, hstore, hnumbered, hd⟩ := id h
  have hready : (s.service.withEngine engine).database = .ready store := hstore.ready
  obtain ⟨failure, hanswer⟩ | ⟨designs, hdesigns, hanswer⟩ :=
    Service.answerAt_listDesigns hready request now
  · obtain ⟨fields, hfields⟩ := (failure.response_spec s.service.settings.debug).2
    rw [answer, Service.respond_of_error hleads' hreach hanswer] at hlisted
    cases hfields.symm.trans hlisted
  · rw [h.answer_of_ok hleads hanswer (by decide : 200 ≠ 500)] at hlisted
    cases hlisted
    obtain ⟨other, hother, rfl⟩ := List.mem_map.1 hitem
    have hsame : other = design :=
      List.inj_on_of_nodup_map hnumbered.nodup (hdesigns other hother) hd (Value.text.inj hid)
    rw [hsame]
    rfl

/-! ## What becomes of a draft -/

/-- Saving a draft of a design changes that draft and nothing else. -/
theorem Has.saveDraft (h : s.Has design) (engine : Engine) (now : Time)
    (hleads : s.LeadsTo request (.saveDraft design.id))
    {draft : Fields} (hform : Service.formOf readDraft request = .ok draft) :
    s.answer request engine now = ⟨200, .document (.object (([("id", .text design.id),
        ("draft_saved_at", .text now.text)] : Fields) ++ soundnessFields (.object draft))),
        request.correlation⟩ ∧
      (s.step (.request request engine now)).designs = s.designs.map fun d =>
        if d.id = design.id then d.withDraft (.object draft) now else d := by
  have hleads' : (s.service.withEngine engine).LeadsTo request (.saveDraft design.id) := hleads
  have hreach := h.reaches engine (.saveDraft design.id)
  obtain ⟨store, hstore, hnumbered, hd⟩ := id h
  have hready : (s.service.withEngine engine).database = .ready store := hstore.ready
  have hanswer := Service.answerAt_saveDraft hready
    ((DesignStore.mem_iff_get? hnumbered.nodup).1 hd) hform now
  refine ⟨h.answer_of_ok hleads hanswer (by decide : 200 ≠ 500), ?_⟩
  rw [step, Service.respond_of_ok hleads' hreach hanswer (by decide : 200 ≠ 500), hstore.designs_eq]
  exact DesignStore.designs_update store design.id _

/-- A step that publishes a new version of a design: a request that succeeds, or the commit of a
publication that was under way. -/
def Publishes (s : Session) (id : String) : Event → Prop
  | .request request engine now =>
    s.LeadsTo request (.publishDesign id) ∧ (s.answer request engine now).status = 200
  | .commit n _ => ∃ form published, s.underWay[n]? = some (.rendered id form published)
  | .lookUp _ | .render _ _ => False

/-- A design is published if its form can be read and what the form holds can be published. -/
theorem Has.publishes (h : s.Has design) (hleads : s.LeadsTo request (.publishDesign design.id))
    {form : DesignForm} {published : Published}
    (hform : Service.formOf DesignForm.read request = .ok form)
    (hpublish : form.publish (s.service.withEngine engine).publisher = .ok published) :
    s.Publishes design.id (.request request engine now) := by
  refine ⟨hleads, ?_⟩
  obtain ⟨store, hstore, hnumbered, hd⟩ := id h
  have hready : (s.service.withEngine engine).database = .ready store := hstore.ready
  have hcommit := Service.commitDesign_eq hready ((DesignStore.mem_iff_get? hnumbered.nodup).1 hd)
    form.name published now
  have hanswer : (s.service.withEngine engine).answerAt request now (.publishDesign design.id) =
      (s.service.withEngine engine).commitDesign design.id form.name published now := by
    rw [Service.answerAt, hform]
    simp only [Service.withInput, Service.publishDesign, h.lookup engine, hpublish, Except.mapError]
  rw [h.answer_of_ok hleads (hanswer.trans hcommit) (by decide : 200 ≠ 500)]
  rfl

/-- A step that commits a new version of a design. -/
theorem Has.step_of_commit (h : s.Has design) {e : Event} {service : Service}
    (same : service.database = s.service.database) {name : Option String} {published : Published}
    (hcommit : (s.step e).service = (service.commitDesign design.id name published now).1) :
    (s.step e).Has (design.republish name published.template published.markup
      published.rendering.html now) := by
  refine h.step_of_mem e ?_
  obtain ⟨store, hstore, hnumbered, hd⟩ := h
  have hfound := (DesignStore.mem_iff_get? hnumbered.nodup).1 hd
  rw [designs, hcommit, Service.commitDesign_eq (same.trans hstore.ready) hfound,
    DesignStore.republish]
  dsimp only
  rw [DesignStore.designs_update]
  exact List.mem_map.2 ⟨design, hd, if_pos rfl⟩

/-- A request to publish that succeeds leaves the version that its form was published as. -/
theorem Has.step_publishDesign (h : s.Has design)
    (hleads : s.LeadsTo request (.publishDesign design.id))
    (hstatus : (s.answer request engine now).status = 200) :
    ∃ (form : DesignForm) (published : Published),
      Service.formOf DesignForm.read request = .ok form ∧
      form.publish (s.service.withEngine engine).publisher = .ok published ∧
      (s.step (.request request engine now)).Has (design.republish form.name published.template
        published.markup published.rendering.html now) := by
  have hleads : (s.service.withEngine engine).LeadsTo request (.publishDesign design.id) := hleads
  obtain ⟨form, published, hform, hpublish, hcommit⟩ :=
    Service.exists_commit_of_publish hleads (h.reaches engine _) hstatus
  have same : (s.service.withEngine engine).database = s.service.database := rfl
  exact ⟨form, published, hform, hpublish, h.step_of_commit same hcommit⟩

/-- After a publication there is no draft. -/
theorem Has.publish (h : s.Has design) {e : Event} (publishes : s.Publishes design.id e) :
    ∃ later, later.id = design.id ∧ later.draft = .nothing ∧ (s.step e).Has later := by
  cases e with
  | request request engine now =>
    obtain ⟨hleads, hstatus⟩ := publishes
    obtain ⟨form, published, -, -, hlater⟩ := h.step_publishDesign hleads hstatus
    refine ⟨_, ?_, ?_, hlater⟩ <;> rfl
  | commit n now =>
    obtain ⟨form, published, hn⟩ := publishes
    have hcommit : (s.step (.commit n now)).service =
        (s.service.commitDesign design.id form.name published now).1 := by rw [step, commit, hn]
    refine ⟨_, ?_, ?_, h.step_of_commit rfl hcommit⟩ <;> rfl
  | lookUp | render => exact publishes.elim

/-- What is told of the draft of a design, which is null if there is none: reading the design gives
it, and every listing with the design says whether there is one. -/
structure ShowsDraft (s : Session) (id : String) (draft : Value) : Prop where
  read : ∀ {request : Request} (engine : Engine) (now : Time), s.LeadsTo request (.getDesign id) →
    (s.answer request engine now).status = 200 ∧
      (s.answer request engine now).field "draft" = draft
  listed : ∀ {request : Request} (engine : Engine) (now : Time) {items : List Value},
    s.LeadsTo request .listDesigns →
    (s.answer request engine now).content = .document (.list items) →
    ∀ item ∈ items, Fields.get item.fields "id" = .text id →
      Fields.get item.fields "has_draft" = .bool (!draft.isNull)

theorem Has.showsDraft (h : s.Has design) {draft : Value}
    (hloads : finite (design.loadableDraft.getD .null) = draft)
    (hmark : design.draft.template.isSome = !draft.isNull) : s.ShowsDraft design.id draft where
  read engine now hleads := by
    rw [h.answer_getDesign hleads]
    exact ⟨rfl, hloads⟩
  listed engine now _ hleads hlisted item hitem hid := by
    rw [h.hasDraft_of_listed hleads hlisted hitem hid, hmark]

/-- In every session from an empty store, a draft of any design may be any object of finite numbers.
Saving it is answered with its soundness and changes nothing else. As long as the design is spared,
the draft shows as it was saved, the editor opens it if it can be opened, and the published version
opens beside it. Once a new version is published, no draft shows. -/
theorem draft_is_kept {service : Service} (hempty : service.database = .ready .empty)
    {events : List Event} {s : Session} (reached : s = (start service).run events)
    {design : Design} (hd : design ∈ s.designs) {put : Request} {draft : Fields}
    (saves : Engine) (now : Time) (hput : s.LeadsTo put (.saveDraft design.id))
    (hform : Service.formOf readDraft put = .ok draft)
    (hfinite : finite (.object draft) = .object draft) :
    let saved := s.step (.request put saves now)
    s.answer put saves now = ⟨200, .document (.object (([("id", .text design.id),
      ("draft_saved_at", .text now.text)] : Fields) ++ soundnessFields (.object draft))),
      put.correlation⟩ ∧
    (saved.designs = s.designs.map fun d =>
      if d.id = design.id then d.withDraft (.object draft) now else d) ∧
    ∀ {further : List Event}, saved.RunSpares design.id further →
      let t := saved.run further
      design.withDraft (.object draft) now ∈ t.designs ∧
      t.ShowsDraft design.id (.object draft) ∧
      (∀ {edit : Request} (engine : Engine) (time : Time) {data : Editor.Data},
        t.LeadsTo edit (.editorData design.id) → edit.query = "draft=true" →
        Editor.Data.ofTemplate (.object draft) = .ok data →
        t.answer edit engine time = ⟨200, .document data.toValue, edit.correlation⟩) ∧
      (∃ data, Editor.Data.ofTemplate design.template = .ok data ∧
        ∀ {edit : Request} (engine : Engine) (time : Time),
          t.LeadsTo edit (.editorData design.id) → edit.query = "draft=false" →
          t.answer edit engine time = ⟨200, .document data.toValue, edit.correlation⟩) ∧
      ∀ {e : Event} {after : List Event}, t.Publishes design.id e →
        (t.step e).RunSpares design.id after →
        ((t.step e).run after).ShowsDraft design.id .null := by
  subst reached
  have hhas := has_run hempty hd
  obtain ⟨hanswer, hdesigns⟩ := hhas.saveDraft saves now hput hform
  refine ⟨hanswer, hdesigns, fun {further} spares => ?_⟩
  have hsaved : design.withDraft (.object draft) now ∈
      (((start service).run events).step (.request put saves now)).designs := by
    rw [hdesigns]
    exact List.mem_map.2 ⟨design, hd, if_pos rfl⟩
  have hkept := (hhas.step_of_mem _ hsaved).run_spares spares
  refine ⟨hkept.mem, hkept.showsDraft hfinite rfl, ?_, ?_, ?_⟩
  · intro edit engine time data hleads hquery hdata
    have hasked : Service.draftAsked edit.query = .ok true := hquery ▸ Service.draftAsked_true
    rw [hkept.answer_editorData hleads hasked hdata, finite_ofTemplate hfinite hdata]
  · obtain ⟨data, hdata, hall⟩ := ((holds_start hempty).run_isStored
      (fun _ hd => absurd hd List.not_mem_nil) events design hd).opens
    refine ⟨data, hdata, fun {edit} engine time hleads hquery => ?_⟩
    have hasked : Service.draftAsked edit.query = .ok false := hquery ▸ Service.draftAsked_false
    rw [hkept.answer_editorData hleads hasked hdata, hall]
  · intro e after publishes hspared
    obtain ⟨later, hid, hnone, hlater⟩ := hkept.publish publishes
    have hid : later.id = design.id := hid
    rw [← hid] at hspared ⊢
    refine (hlater.run_spares hspared).showsDraft ?_ ?_
    · rw [Design.loadableDraft, hnone]
      rfl
    · rw [hnone]
      rfl

/-- A draft that is no template, for the row of icons that was created. -/
def accentedDraft : Fields :=
  [("metadata", .object [("subject", .text "Été")])]

def saveAccented : Request :=
  ⟨"PUT", "/api/v1/designs/" ++ identifier 1 ++ "/draft", "",
    (Value.object [("json", .object accentedDraft)]).write, none⟩

/-- Another design is created. -/
def createPlain : Request :=
  ⟨"POST", "/api/v1/designs", "", (Value.object [("editor", .object [])]).write, none⟩

/-- A template without blocks as the new version of the row. -/
def publishPlain : Request :=
  ⟨"PUT", "/api/v1/designs/" ++ identifier 1, "",
    (Value.object [("json", Template.candidate [])]).write, none⟩

theorem leads_accented : (start emptyService).LeadsTo saveAccented (.saveDraft (identifier 1)) ∧
    (start emptyService).LeadsTo createPlain .createDesign ∧
    (start emptyService).LeadsTo publishPlain (.publishDesign (identifier 1)) := by
  unfold LeadsTo
  decide +kernel

theorem formOf_saveAccented : Service.formOf readDraft saveAccented = .ok accentedDraft := by
  have hbody : readBody saveAccented.body = .ok (.object [("json", .object accentedDraft)]) :=
    Service.readBody_write (by decide +kernel)
  rw [Service.formOf, Service.documentOf, hbody]
  rfl

/-- An engine that cannot render leaves nothing unpublished that compiles. -/
theorem exists_publish_of_compile (service : Service) (form : DesignForm)
    {candidate template : Value} {markup : String}
    (hsource : candidateOf form.source = .ok candidate)
    (hcompile : Publisher.compile candidate = .ok (template, markup)) :
    ∃ published,
      form.publish (service.withEngine emptyService.engine).publisher = .ok published := by
  rw [DesignForm.publish, hsource]
  exact (Publisher.exists_publish_iff _ hcompile).2 fun _ => trivial

theorem exists_publish_plain (service : Service) :
    ∃ published, DesignForm.publish ⟨none, .template (Template.candidate [])⟩
      (service.withEngine emptyService.engine).publisher = .ok published := by
  obtain ⟨template, markup, hcompile⟩ : ∃ template markup,
      Publisher.compile (Template.candidate []) = .ok (template, markup) := ⟨_, _, rfl⟩
  exact exists_publish_of_compile service _ rfl hcompile

/-- The draft shows while another design is created, until the row is published. -/
theorem draft_is_kept_accented :
    let engine : Engine := emptyService.engine
    let t := rowSession.run [.request saveAccented engine ⟨1⟩, .request createPlain engine ⟨2⟩]
    t.ShowsDraft (identifier 1) (.object accentedDraft) ∧
      (t.step (.request publishPlain engine ⟨3⟩)).ShowsDraft (identifier 1) .null := by
  intro engine t
  obtain ⟨hput, hcreate, hpublish⟩ := leads_accented
  obtain ⟨design, hd, heq⟩ := List.map_eq_singleton_iff.1 rowSession_leads.1
  obtain ⟨hid, -⟩ := Prod.mk.inj heq
  have hmem : design ∈ rowSession.designs := by rw [hd]; exact List.mem_singleton_self design
  rw [← hid] at hput hpublish ⊢
  have hstart : emptyService.database = .ready .empty := rfl
  have hrow : rowSession = (start emptyService).run _ := rfl
  obtain ⟨-, -, keeps⟩ := draft_is_kept hstart hrow hmem engine ⟨1⟩
    (leadsTo_run_iff.2 hput) formOf_saveAccented rfl
  have spares : (rowSession.step (.request saveAccented engine ⟨1⟩)).RunSpares design.id
      [.request createPlain engine ⟨2⟩] := by
    refine ⟨fun endpoint hleads => ?_, trivial⟩
    rw [LeadsTo, settings_step, hrow, settings_run] at hleads
    cases hcreate.symm.trans hleads
    exact (Option.some_ne_none _).symm
  have hkept := keeps spares
  rw [← run_cons] at hkept
  obtain ⟨hkept, shows, -, -, published⟩ := hkept
  have hrowHas : rowSession.Has design := has_run hstart hmem
  have hhas := hrowHas.run_of_mem _ hkept
  have hbody : readBody publishPlain.body = .ok (.object [("json", Template.candidate [])]) :=
    Service.readBody_write (by decide +kernel)
  have hgiven : Template.candidate [] ≠ .null := Value.noConfusion
  have hform := Service.formOf_template hgiven hbody
  have hleads : t.LeadsTo publishPlain (.publishDesign design.id) := by
    rw [LeadsTo, settings_run, hrow, settings_run]
    exact hpublish
  obtain ⟨_, hpublished⟩ := exists_publish_plain t.service
  have hspared (u : Session) : u.RunSpares design.id [] := trivial
  have hpublishes : t.Publishes design.id (.request publishPlain engine ⟨3⟩) :=
    hhas.publishes hleads hform hpublished
  have hnone := published hpublishes (hspared _)
  rw [run_nil] at hnone
  exact ⟨shows, hnone⟩

end Session

end Api

end EmailStudio
