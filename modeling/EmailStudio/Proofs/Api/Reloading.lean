import EmailStudio.Proofs.Api.Overlap
import EmailStudio.Proofs.Editor.Reloading

/-!
# Loading a design again

What a client is shown of a design does not change by saving it. The editor data of a design is the
same after it was sent back and published, though the stored template may be another one:
`Session.reloading_is_stable`.
-/

namespace EmailStudio.Api

namespace Session

variable {s : Session} {design : Design} {request : Request} {engine : Engine} {now : Time}

/-- A request for the editor data of a design as it was published. -/
structure AsksForPublished (s : Session) (request : Request) (id : String) : Prop where
  leads : s.LeadsTo request (.editorData id)
  published : Service.draftAsked request.query = .ok false

theorem AsksForPublished.spares {id : String} (h : s.AsksForPublished request id) (engine : Engine)
    (now : Time) : s.Spares id (.request request engine now) := by
  intro endpoint hleads
  cases h.leads.symm.trans hleads
  exact (Option.some_ne_none id).symm

theorem AsksForPublished.congr {t : Session} {id : String} (h : s.AsksForPublished request id)
    (same : t.service.settings = s.service.settings) : t.AsksForPublished request id := by
  refine ⟨?_, h.published⟩
  rw [LeadsTo, same]
  exact h.leads

/-- The published version of a design is shown without a loss. -/
theorem Has.answer_published (h : s.Has design) (hasks : s.AsksForPublished request design.id)
    (hstored : Template.IsStored design.template design.markup) {data : Editor.Data}
    (hdata : Editor.Data.ofTemplate design.template = .ok data) :
    s.answer request engine now = ⟨200, .document data.toValue, request.correlation⟩ := by
  obtain ⟨_, hopened, hfinite⟩ := hstored.opens
  cases hdata.symm.trans hopened
  rw [h.answer_editorData hasks.leads hasks.published hdata, hfinite]

/-- What a form is published as is what its candidate compiles to. -/
theorem compile_of_publishForm {form : DesignForm} {publisher : Publisher} {candidate : Value}
    {published : Published} (h : form.publish publisher = .ok published)
    (hsource : candidateOf form.source = .ok candidate) :
    Publisher.compile candidate = .ok (published.template, published.markup) := by
  rw [DesignForm.publish, hsource] at h
  exact Publisher.compile_of_publish h

/-- Editor data that is accepted leaves what it goes back to as the published version. -/
theorem Has.step_sendBack (h : s.Has design) (hleads : s.LeadsTo request (.publishDesign design.id))
    {fields : Fields} {back : Value}
    (hbody : readBody request.body = .ok (.object [("editor", .object fields)]))
    (hback : Editor.templateOf (.object fields) = .ok back)
    (hstatus : (s.answer request engine now).status = 200) :
    ∃ later, later.id = design.id ∧
      Publisher.compile back = .ok (later.template, later.markup) ∧
      (s.step (.request request engine now)).Has later := by
  obtain ⟨form, published, hform, hpublish, hlater⟩ := h.step_publishDesign hleads hstatus
  cases (Service.formOf_editor hbody).symm.trans hform
  refine ⟨_, ?_, ?_, hlater⟩
  · rfl
  · exact compile_of_publishForm hpublish hback

/-- The editor data of a normal valid template stays the same on the way back from the editor. So it
does in every session from an empty store: when a design is loaded, what was loaded is sent back as
its new version, and the request succeeds, then loading it again gives the same document, whatever
becomes of other designs in the meantime. -/
theorem reloading_is_stable :
    (∀ {candidate : Value} {t : Template}, Template.isValid candidate = true →
      Template.ofValue candidate = .ok t →
      ∃ data back, Editor.Data.ofTemplate t.toValue = .ok data ∧
        Editor.templateOf data.toValue = .ok back ∧ Editor.Data.ofTemplate back = .ok data) ∧
    (∀ {service : Service} {events : List Event} {s : Session} {design : Design}
      {get put again : Request} (opens saves reopens : Engine) (now later last : Time),
      service.database = .ready .empty → s = (start service).run events → design ∈ s.designs →
      s.AsksForPublished get design.id → s.LeadsTo put (.publishDesign design.id) →
      s.AsksForPublished again design.id →
      ∃ data, Editor.Data.ofTemplate design.template = .ok data ∧
        s.answer get opens now = ⟨200, .document data.toValue, get.correlation⟩ ∧
        ∀ {between after : List Event},
          let loaded := s.step (.request get opens now)
          let saved := (loaded.run between).step (.request put saves later)
          loaded.RunSpares design.id between →
          readBody put.body = .ok (.object [("editor", data.toValue)]) →
          ((loaded.run between).answer put saves later).status = 200 →
          saved.RunSpares design.id after →
          (saved.run after).answer again reopens last =
            ⟨200, .document data.toValue, again.correlation⟩) := by
  refine ⟨fun {candidate t} h ht => ?_, ?_⟩
  · have hs := Template.sound_of_ofValue h ht
    exact ⟨_, _, Editor.ofTemplate_toValue hs, Editor.templateOf_dataOf hs,
      Editor.ofTemplate_canonical_returned hs⟩
  · rintro service events s design get put again opens saves reopens now later last hempty rfl hd
      hget hput hagain
    have hhas := has_run hempty hd
    have hstored := (holds_start hempty).run_isStored (fun _ hd => absurd hd List.not_mem_nil)
      events design hd
    obtain ⟨data, back, hdata, hback, hreloads⟩ := hstored.reloads
    refine ⟨data, hdata, hhas.answer_published hget hstored hdata, ?_⟩
    intro between after loaded saved hbetween hbody hstatus hafter
    have hloaded : (loaded.run between).Has design :=
      (hhas.step_spares (hget.spares opens now)).run_spares hbetween
    have hleads : (loaded.run between).LeadsTo put (.publishDesign design.id) := by
      rw [LeadsTo, settings_run, settings_step]
      exact hput
    obtain ⟨version, hid, hcompile, hversion⟩ := hloaded.step_sendBack hleads hbody hback hstatus
    have hsaved : (saved.run after).Has version := hversion.run_spares (hid ▸ hafter)
    have same : (saved.run after).service.settings =
        ((start service).run events).service.settings := by
      rw [settings_run, settings_step, settings_run, settings_step]
    have hasks : (saved.run after).AsksForPublished again version.id := hid ▸ hagain.congr same
    exact hsaved.answer_published hasks (Publisher.isStored_of_compile hcompile)
      (hreloads hcompile)

/-- The row of icons as a new version that lists twitter before facebook. -/
def publishReversal : Request :=
  ⟨"PUT", "/api/v1/designs/" ++ identifier 1, "", (Value.object [("json", reversedRow)]).write,
    none⟩

def reversedSession : Session :=
  rowSession.step (.request publishReversal emptyService.engine ⟨1⟩)

/-- What the editor is answered for it. -/
def openedReversal : Value :=
  ((Editor.Data.ofTemplate reversedRow).toOption.map (·.toValue)).getD .null

def saveReversal : Request :=
  ⟨"PUT", "/api/v1/designs/" ++ identifier 1, "",
    (Value.object [("editor", openedReversal)]).write, none⟩

theorem readBody_reversal :
    readBody publishReversal.body = .ok (.object [("json", reversedRow)]) ∧
      readBody saveReversal.body = .ok (.object [("editor", openedReversal)]) :=
  ⟨Service.readBody_write (by decide +kernel), Service.readBody_write (by decide +kernel)⟩

theorem exists_run_reversedSession :
    ∃ events, reversedSession = (start emptyService).run events := by
  obtain ⟨events, hrow⟩ : ∃ events, rowSession = (start emptyService).run events := ⟨_, rfl⟩
  refine ⟨events ++ [.request publishReversal emptyService.engine ⟨1⟩], ?_⟩
  rw [run_append, ← hrow]
  rfl

theorem leads_reversal : reversedSession.AsksForPublished openRow (identifier 1) ∧
    rowSession.LeadsTo publishReversal (.publishDesign (identifier 1)) ∧
    reversedSession.LeadsTo saveReversal (.publishDesign (identifier 1)) := by
  obtain ⟨-, hopen, hsave⟩ := rowSession_leads
  have same : reversedSession.service.settings = rowSession.service.settings := settings_step _ _
  refine ⟨⟨?_, rfl⟩, hsave, ?_⟩
  · rw [LeadsTo, same]
    exact hopen
  · rw [LeadsTo, same]
    exact hsave

theorem exists_design_reversedSession :
    ∃ design, design.id = identifier 1 ∧ design.template = reversedRow ∧
      reversedSession.Has design := by
  obtain ⟨design, hd, heq⟩ := List.map_eq_singleton_iff.1 rowSession_leads.1
  obtain ⟨hid, -⟩ := Prod.mk.inj heq
  have hrow : rowSession.Has design :=
    has_run (rfl : emptyService.database = .ready .empty) (hd ▸ List.mem_singleton_self design)
  have hleads := hid ▸ leads_reversal.2.1
  have hform := Service.formOf_template Value.noConfusion readBody_reversal.1
  obtain ⟨markup, hcompile⟩ : ∃ markup, Publisher.compile reversedRow = .ok (reversedRow, markup) :=
    ⟨_, rfl⟩
  obtain ⟨_, hpublish⟩ := exists_publish_of_compile rowSession.service
    ⟨none, .template reversedRow⟩ rfl hcompile
  obtain ⟨_, hstatus⟩ := hrow.publishes hleads hform hpublish
  obtain ⟨form, published, hread, hpublished, hlater⟩ := hrow.step_publishDesign hleads hstatus
  cases hform.symm.trans hread
  have hsame := hcompile.symm.trans (compile_of_publishForm hpublished rfl)
  obtain ⟨htemplate, -⟩ := Prod.mk.inj (Except.ok.inj hsame)
  refine ⟨_, ?_, ?_, hlater⟩
  · exact hid
  · exact htemplate.symm

/-- What is sent back goes back to a template in the order of the catalog. -/
theorem exists_back_reversal : ∃ back markup, Editor.templateOf openedReversal = .ok back ∧
    Publisher.compile back = .ok (orderedRow, markup) := by
  obtain ⟨t, markup, ht, hstored, hordered, hmarkup⟩ : ∃ t markup,
      Template.ofValue reversedRow = .ok t ∧ t.toValue = reversedRow ∧
      t.canonical.toValue = orderedRow ∧ t.compile = .ok markup := ⟨_, _, rfl, rfl, rfl, rfl⟩
  have hs := Template.sound_of_ofValue (rfl : Template.isValid reversedRow = true) ht
  obtain ⟨later, -, hcompile, -⟩ := hs.compile_returned ht hmarkup
  have hopened : openedReversal = (Editor.dataOf t).toValue := by
    rw [openedReversal, ← hstored, Editor.ofTemplate_toValue hs]
    rfl
  exact ⟨_, _, hopened ▸ Editor.templateOf_dataOf hs, hordered ▸ hcompile⟩

/-- Saving what was loaded puts the networks in the order of the catalog, and yet the editor is
answered the same. -/
theorem reloading_is_stable_reversedRow :
    let engine := emptyService.engine
    let opened : Response := ⟨200, .document openedReversal, none⟩
    let saved := reversedSession.run [.request openRow engine ⟨2⟩, .request saveReversal engine ⟨3⟩]
    Template.isValid reversedRow = true ∧
      (∃ t, Template.ofValue reversedRow = .ok t ∧ ∃ data back,
        Editor.Data.ofTemplate t.toValue = .ok data ∧ Editor.templateOf data.toValue = .ok back ∧
        Editor.Data.ofTemplate back = .ok data) ∧
      (∃ design ∈ reversedSession.designs, design.template = reversedRow) ∧
      reversedSession.answer openRow engine ⟨2⟩ = opened ∧
      (∃ design ∈ saved.designs, design.template = orderedRow) ∧
      saved.answer openRow engine ⟨4⟩ = opened := by
  intro engine opened saved
  have hempty : emptyService.database = .ready .empty := rfl
  have hvalid : Template.isValid reversedRow = true := rfl
  obtain ⟨t, ht⟩ : ∃ t, Template.ofValue reversedRow = .ok t := ⟨_, rfl⟩
  obtain ⟨design, hid, htemplate, hhas⟩ := exists_design_reversedSession
  refine ⟨hvalid, ⟨t, ht, reloading_is_stable.1 hvalid ht⟩, ⟨design, hhas.mem, htemplate⟩, ?_⟩
  obtain ⟨events, reached⟩ := exists_run_reversedSession
  obtain ⟨hopen, -, hsave⟩ := leads_reversal
  rw [← hid] at hopen hsave
  obtain ⟨data, hdata, hanswer, hstable⟩ := reloading_is_stable.2 engine engine engine ⟨2⟩ ⟨3⟩ ⟨4⟩
    hempty reached hhas.mem hopen hsave hopen
  have hopened : openedReversal = data.toValue := by
    rw [openedReversal, ← htemplate, hdata]
    rfl
  rw [← hopened] at hanswer
  have hbody := readBody_reversal.2
  obtain ⟨back, markup, hback, hcompile⟩ := exists_back_reversal
  rw [hopened] at hbody hback
  have hloaded := hhas.step_spares (hopen.spares engine ⟨2⟩)
  have hleads : (reversedSession.step (.request openRow engine ⟨2⟩)).LeadsTo saveReversal
      (.publishDesign design.id) := by
    rw [LeadsTo, settings_step]
    exact hsave
  obtain ⟨_, hpublish⟩ := exists_publish_of_compile
    (reversedSession.step (.request openRow engine ⟨2⟩)).service ⟨none, .editor _⟩ hback hcompile
  obtain ⟨-, hstatus⟩ := hloaded.publishes hleads (Service.formOf_editor hbody) hpublish
  obtain ⟨version, -, hversion, hsaved⟩ := hloaded.step_sendBack hleads hbody hback hstatus
  obtain ⟨hordered, -⟩ := Prod.mk.inj (Except.ok.inj (hcompile.symm.trans hversion))
  have hspared (u : Session) : u.RunSpares design.id [] := trivial
  have hagain := hstable (hspared _) hbody hstatus (hspared _)
  rw [run_nil, run_nil, ← hopened] at hagain
  exact ⟨hanswer, ⟨version, hsaved.mem, hordered.symm⟩, hagain⟩

end Session

end EmailStudio.Api
