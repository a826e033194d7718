import EmailStudio.Proofs.Api.Finite
import EmailStudio.Proofs.Api.Session
import EmailStudio.Proofs.Value.Equality

/-!
# Opening a design and saving it unchanged

A client asks for the editor data of a design and sends the answer back as the new version of it.
By `Session.reopening_keeps_markup` the answer is all that the design holds, what is sent back is
accepted and compiled, and the stored markup stays as it was if the addresses in every row of icons
were in the order of the catalog, one for each network. Otherwise it becomes the markup of the
template with its networks in that form.
-/

namespace EmailStudio

/-! ## Reachable designs are stored templates -/

namespace Api

namespace Session

variable {s : Session} {store : DesignStore}

theorem Holds.run_isStored (h : s.Holds store)
    (hs : ∀ design ∈ store.designs, Template.IsStored design.template design.markup)
    (events : List Event) :
    ∀ design ∈ (s.run events).designs, Template.IsStored design.template design.markup := by
  induction events generalizing s store with
  | nil =>
    rw [Session.run, List.foldl_nil, h.designs_eq]
    exact hs
  | cons e events ih =>
    obtain ⟨next, hnext, rfl | ⟨now, -, hchange⟩⟩ := h.step e
    · exact ih hnext hs
    · exact ih hnext (hchange.isStored hs)

end Session

/-! ## Answers to the two requests -/

namespace Service

variable {service : Service} {store : DesignStore} {request : Request} {now : Time}

/-- Where a request leads at a service. -/
def LeadsTo (service : Service) (request : Request) (endpoint : Endpoint) : Prop :=
  Destination.of service.settings.apiStart (service.settings.environment = .development)
    request.method request.path = .endpoint endpoint

/-- What a service whose designs are ready answers at an endpoint. -/
theorem respond_endpoint (h : service.database = .ready store) {endpoint : Endpoint}
    (hd : Destination.of service.settings.apiStart (service.settings.environment = .development)
      request.method request.path = .endpoint endpoint) :
    service.respond request now = ((service.answerAt request now endpoint).1,
      trim request (follow request (match (service.answerAt request now endpoint).2 with
        | .ok response => response
        | .error failure =>
          failure.response (service.answerAt request now endpoint).1.settings.debug))) := by
  have hfor : service.answerFor request now endpoint = service.answerAt request now endpoint := by
    rw [answerFor, h]
  rw [respond, hd]
  exact hfor ▸ rfl

theorem status_trim_follow (request : Request) (response : Response) :
    (trim request (follow request response)).status = response.status := by
  unfold trim
  split_ifs <;> rfl

theorem find?_of_mem {designs : List Design} (nodup : (designs.map (·.id)).Nodup)
    {design : Design} (hd : design ∈ designs) :
    designs.find? (·.id = design.id) = some design := by
  induction designs with
  | nil => cases hd
  | cons first rest ih =>
    obtain ⟨hfirst, nodup⟩ := List.nodup_cons.1 nodup
    rcases List.mem_cons.1 hd with rfl | hd
    · exact List.find?_cons_of_pos (by simp)
    · have hid : design.id ∈ rest.map (·.id) := List.mem_map_of_mem hd
      have hne : first.id ≠ design.id := by
        intro heq
        rw [← heq] at hid
        exact hfirst hid
      rw [List.find?_cons_of_neg (by simpa using hne)]
      exact ih nodup hd

theorem lookup_eq_ok {design : Design} (h : service.database = .ready store)
    (nodup : store.ids.Nodup) (hd : design ∈ store.designs) :
    service.lookup design.id = .ok design := by
  have hfind : store.get? design.id = some design := find?_of_mem nodup hd
  rw [lookup, consult, h]
  dsimp only
  rw [hfind]

/-- The editor is answered with all that the stored template holds. -/
theorem editorData_eq {design : Design} {t : Template} (h : service.lookup design.id = .ok design)
    (hs : t.Sound) (he : t.Escapable) (ht : t.toValue = design.template) :
    service.editorData design.id false = .ok (.ok (Editor.dataOf t).toValue) := by
  have hdata : Editor.Data.ofTemplate design.template = .ok (Editor.dataOf t) :=
    ht ▸ Editor.ofTemplate_toValue hs
  rw [editorData, h, ← finite_dataOf hs he]
  simp only [bind, Except.bind, Bool.false_eq_true, if_false, Option.getD_none, hdata]
  rfl

/-- A request for the editor data of a design leaves everything as it is and is answered with it. -/
theorem respond_editorData {design : Design} {t : Template} (h : service.database = .ready store)
    (hlookup : service.lookup design.id = .ok design) (hs : t.Sound) (he : t.Escapable)
    (ht : t.toValue = design.template) (hmethod : request.method = "GET")
    (hquery : request.query = "")
    (hd : Destination.of service.settings.apiStart (service.settings.environment = .development)
      request.method request.path = .endpoint (.editorData design.id)) :
    service.respond request now =
      (service, ⟨200, .document (Editor.dataOf t).toValue, request.correlation⟩) := by
  have hdraft : partOf "query"
      (Intake.optional "draft" false Intake.boolean (Query.fields request.query)) = .ok false := by
    rw [hquery]
    rfl
  have hanswer : service.answerAt request now (.editorData design.id) =
      (service, .ok (.ok (Editor.dataOf t).toValue)) := by
    rw [answerAt, hdraft]
    simp only [withInput, unchanged, editorData_eq hlookup hs he ht]
  rw [respond_endpoint h hd, hanswer]
  simp only [follow, trim, hmethod]
  rfl

/-! ## Sending it back -/

/-- What is read of a body that does not begin with a byte order mark. -/
theorem readBody_of_read {body : String} {c : Char} {v : Value}
    (hfirst : body.toList.head? = some c) (hmark : c ≠ '\uFEFF')
    (h : (Value.read body.toList).toOption = some v) : readBody body = .ok v := by
  obtain ⟨cs, hcs⟩ : ∃ cs, body.toList = c :: cs := by
    cases hbody : body.toList with
    | nil => rw [hbody] at hfirst; cases hfirst
    | cons d ds =>
      rw [hbody] at hfirst
      exact ⟨ds, by rw [Option.some.inj hfirst]⟩
  have hne : body.isEmpty = false := by
    rw [Bool.eq_false_iff, Ne, String.isEmpty_iff, ← String.toList_inj, hcs]
    exact nofun
  rw [hcs] at h
  rw [readBody, hne, if_neg Bool.false_ne_true, hcs]
  split
  next heq => exact absurd (List.cons.inj heq).1 hmark
  next =>
    cases hread : Value.read (c :: cs) with
    | error fault => rw [hread] at h; cases h
    | ok w =>
      rw [hread] at h
      dsimp only
      rw [hread, Option.some.inj h]
      rfl

/-- The form of a body that holds editor data and nothing else. -/
theorem formOf_editor {fields : Fields}
    (h : readBody request.body = .ok (.object [("editor", .object fields)])) :
    formOf DesignForm.read request = .ok ⟨none, .editor fields⟩ := by
  rw [formOf, documentOf, h]
  rfl

theorem publish_editor {fields : Fields} {back template : Value} {markup : String}
    (hback : Editor.templateOf (.object fields) = .ok back)
    (hmarkup : Publisher.compile back = .ok (template, markup)) (name : Option String) :
    DesignForm.publish ⟨name, .editor fields⟩ service.publisher =
      Published.mk template markup <$> service.publisher.rendering markup := by
  rw [DesignForm.publish, candidateOf, hback]
  exact service.publisher.publish_of_compile hmarkup

/-- Markup that is published again leaves the markup of all designs as it was. -/
theorem markups_republish {design : Design} (nodup : store.ids.Nodup) (hd : design ∈ store.designs)
    (name : Option String) (template : Value) (html : String) :
    (store.republish design.id name template design.markup html now).1.designs.map (·.markup) =
      store.designs.map (·.markup) := by
  have hfind : store.get? design.id = some design := find?_of_mem nodup hd
  rw [DesignStore.republish, DesignStore.update, hfind]
  dsimp only
  rw [List.map_map]
  refine List.map_congr_left fun other hother => ?_
  by_cases hid : other.id = design.id
  · have hsame : other = design := List.inj_on_of_nodup_map nodup hother hd hid
    rw [Function.comp_apply, if_pos hid, hsame]
    rfl
  · rw [Function.comp_apply, if_neg hid]

/-- Editor data that is sent back for a design is published with its markup. When nothing can be
rendered, nothing is changed. -/
theorem respond_publishDesign (service : Service) (now : Time) {design : Design}
    {fields : Fields} {back template : Value}
    (h : service.database = .ready store) (nodup : store.ids.Nodup) (hd : design ∈ store.designs)
    (hback : Editor.templateOf (.object fields) = .ok back)
    (hmarkup : Publisher.compile back = .ok (template, design.markup))
    (hdest : Destination.of service.settings.apiStart (service.settings.environment = .development)
      request.method request.path = .endpoint (.publishDesign design.id))
    (hbody : readBody request.body = .ok (.object [("editor", .object fields)])) :
    ∃ later, (service.respond request now).1.database = .ready later ∧
      later.designs.map (·.markup) = store.designs.map (·.markup) ∧
      ∀ rendering, service.publisher.rendering design.markup = .ok rendering →
        (service.respond request now).2.status = 200 := by
  have hpublish : DesignForm.publish ⟨none, .editor fields⟩ service.publisher = _ :=
    publish_editor hback hmarkup none
  have hanswer : service.answerAt request now (.publishDesign design.id) =
      service.publishDesign design.id ⟨none, .editor fields⟩ now := by
    rw [answerAt, formOf_editor hbody]
    rfl
  rw [respond_endpoint h hdest, hanswer, publishDesign, lookup_eq_ok h nodup hd]
  simp only [withInput, hpublish, status_trim_follow]
  cases hrendering : service.publisher.rendering design.markup with
  | error fault =>
    refine ⟨store, h, rfl, fun rendering hr => ?_⟩
    cases hr
  | ok rendering =>
    have hfind : store.get? design.id = some design := find?_of_mem nodup hd
    simp only [Functor.map, Except.map, Except.mapError, commitDesign, transact_eq h]
    have hfound : (store.republish design.id none template design.markup rendering.html now).2 =
        some (design.republish none template design.markup rendering.html now) := by
      rw [DesignStore.republish, DesignStore.update, hfind]
    rw [hfound]
    exact ⟨_, rfl, markups_republish nodup hd none template rendering.html, fun _ _ => rfl⟩

end Service

/-! ## One request after the other -/

namespace Session

/-- Where a request leads in a session. -/
def LeadsTo (s : Session) (request : Request) (endpoint : Endpoint) : Prop :=
  Destination.of s.service.settings.apiStart (s.service.settings.environment = .development)
    request.method request.path = .endpoint endpoint

/-- After a request that leaves the service as it is, the next one is answered as if it was the
first. -/
theorem run_of_respond_self {s : Session} {get put : Request} {opens saves : Engine}
    {now later : Time}
    (h : ((s.service.withEngine opens).respond get now).1 = s.service.withEngine opens) :
    s.run [.request get opens now, .request put saves later] =
      ⟨((s.service.withEngine saves).respond put later).1, s.underWay⟩ := by
  have hopened : s.step (.request get opens now) = ⟨s.service.withEngine opens, s.underWay⟩ := by
    rw [step, h]
  rw [run, List.foldl_cons, List.foldl_cons, List.foldl_nil, hopened]
  rfl

/-- A template that compiles comes back from the editor without issues, and with the markup of its
canonical form. That is its own markup if the addresses in its rows of icons are in order, and then
the same holds of designs: whatever has led to a design, sending the answer for the editor back as
its new version leaves the stored markup as it was, and is refused by nothing but the rendering. -/
theorem reopening_keeps_markup :
    (∀ {candidate : Value} {t : Template} {markup : String},
      Template.isValid candidate = true → Template.ofValue candidate = .ok t →
      t.compile = .ok markup →
      ∃ data back later, Editor.Data.ofTemplate t.toValue = .ok data ∧
        Editor.templateOf data.toValue = .ok back ∧ Template.isValid back = true ∧
        t.canonical.compile = .ok later ∧
        Publisher.compile back = .ok (t.canonical.toValue, later) ∧
        (t.InOrder → later = markup)) ∧
    (∀ {service : Service} {events : List Event} {s : Session} {design : Design} {t : Template}
      {get put : Request} (opens saves : Engine) (now later : Time),
      service.database = .ready .empty → s = (start service).run events → design ∈ s.designs →
      Template.ofValue design.template = .ok t → t.InOrder →
      s.LeadsTo get (.editorData design.id) → get.method = "GET" → get.query = "" →
      s.LeadsTo put (.publishDesign design.id) →
      ∃ data, Editor.Data.ofTemplate design.template = .ok data ∧
        ((s.service.withEngine opens).respond get now).2 =
          ⟨200, .document data.toValue, get.correlation⟩ ∧
        (readBody put.body = .ok (.object [("editor", data.toValue)]) →
          (s.run [.request get opens now, .request put saves later]).designs.map (·.markup) =
            s.designs.map (·.markup) ∧
          ∀ rendering,
            (s.service.withEngine saves).publisher.rendering design.markup = .ok rendering →
              ((s.service.withEngine saves).respond put later).2.status = 200)) := by
  refine ⟨fun {candidate t markup} h ht hm => ?_, ?_⟩
  · have hs := Template.sound_of_ofValue h ht
    obtain ⟨later, hlater, hcompile, horder⟩ := hs.compile_returned ht hm
    exact ⟨_, _, later, Editor.ofTemplate_toValue hs, Editor.templateOf_dataOf hs,
      hs.canonical.isValid_returned, hlater, hcompile, horder⟩
  · rintro service events s design t get put opens saves now later hempty rfl hd ht horder hget
      hmethod hquery hput
    have hstart := holds_start hempty
    obtain ⟨store, hstore, hnumbered, -⟩ := hstart.run DesignStore.numbered_empty events
    obtain ⟨hvalid, _, hread, htemplate, hmarkup⟩ :=
      hstart.run_isStored (fun _ hd => absurd hd List.not_mem_nil) events design hd
    cases ht.symm.trans hread
    rw [hstore.designs_eq] at hd
    have hs := Template.sound_of_ofValue hvalid ht
    have hlookup := Service.lookup_eq_ok hstore.ready hnumbered.nodup hd
    have hopen : ((((start service).run events).service.withEngine opens).respond get now) = _ :=
      Service.respond_editorData hstore.ready hlookup hs (hs.escapable_of_compile hmarkup)
        htemplate hmethod hquery hget
    have hdata : Editor.Data.ofTemplate design.template = .ok (Editor.dataOf t) :=
      htemplate ▸ Editor.ofTemplate_toValue hs
    refine ⟨_, hdata, congrArg Prod.snd hopen, fun hbody => ?_⟩
    obtain ⟨markup, -, hcompile, hsame⟩ := hs.compile_returned ht hmarkup
    rw [hsame horder] at hcompile
    obtain ⟨saved, hsaved, hmarkups, haccepted⟩ :=
      Service.respond_publishDesign (((start service).run events).service.withEngine saves) later
        hstore.ready hnumbered.nodup hd (Editor.templateOf_dataOf hs) hcompile hput hbody
    refine ⟨?_, haccepted⟩
    rw [run_of_respond_self (congrArg Prod.fst hopen), designs, hsaved, hstore.designs_eq]
    exact hmarkups

/-- A template with one row of icons. -/
def rowOf (networks : List (String × String)) : Value :=
  Template.candidate [.object [("type", .text "EmailSocial"), ("props", .object [
    ("networks", .list (networks.map fun (name, url) =>
      .object [("type", .text name), ("url", .text url)])),
    ("iconSize", .int 32), ("align", .text "center"), ("iconStyle", .text "color")])]]

/-- A row in the order of the catalog. -/
def orderedRow : Value :=
  rowOf [("facebook", "f"), ("twitter", "t")]

/-- What the editor is answered for it. -/
def openedRow : Value :=
  ((Editor.Data.ofTemplate orderedRow).toOption.map (·.toValue)).getD .null

/-- Once the row was created by the editor. -/
def rowSession : Session :=
  let form := "\x7b\"editor\":\x7b\"content\":[\x7b\"type\":\"EmailSocial\",\"props\":\x7b" ++
    "\"facebookUrl\":\"f\",\"twitterUrl\":\"t\"\x7d\x7d],\"root\":\x7b\"props\":\x7b" ++
    "\"subject\":\"News\"\x7d\x7d\x7d\x7d"
  (start emptyService).run [.request ⟨"POST", "/api/v1/designs", "", form, none⟩
    (fun markup => .rendered (some markup) .null) ⟨0⟩]

def openRow : Request :=
  ⟨"GET", "/api/v1/designs/" ++ identifier 1 ++ "/editor", "", "", none⟩

def saveRow : Request :=
  let form := "\x7b\"editor\":\x7b\"content\":[\x7b\"type\":\"EmailSocial\",\"props\":\x7b" ++
    "\"iconSize\":32,\"align\":\"center\",\"iconStyle\":\"color\",\"facebookUrl\":\"f\"," ++
    "\"twitterUrl\":\"t\",\"linkedinUrl\":\"\",\"instagramUrl\":\"\",\"youtubeUrl\":\"\"," ++
    "\"id\":\"block-0\"\x7d\x7d],\"root\":\x7b\"props\":\x7b\"backgroundColor\":\"#ffffff\"," ++
    "\"contentWidth\":600,\"fontFamily\":\"Arial, Helvetica, sans-serif\"," ++
    "\"subject\":\"News\",\"preheader\":\"\"\x7d\x7d,\"zones\":\x7b\x7d\x7d\x7d"
  ⟨"PUT", "/api/v1/designs/" ++ identifier 1, "", form, none⟩

theorem rowSession_leads :
    rowSession.designs.map (fun design => (design.id, design.template)) =
        [(identifier 1, orderedRow)] ∧
      rowSession.LeadsTo openRow (.editorData (identifier 1)) ∧
      rowSession.LeadsTo saveRow (.publishDesign (identifier 1)) := by
  unfold LeadsTo
  decide +kernel

theorem readBody_saveRow : readBody saveRow.body = .ok (.object [("editor", openedRow)]) := by
  have hbody : saveRow.body.toList.head? = some '\x7b' := by
    simp only [saveRow, String.toList_append]
    rfl
  have hread : (Value.read saveRow.body.toList).toOption =
      some (.object [("editor", openedRow)]) := by
    simp only [saveRow, String.toList_append]
    decide +kernel
  exact Service.readBody_of_read hbody (by decide) hread

theorem reopening_keeps_markup_orderedRow :
    emptyService.database = .ready .empty ∧ Template.isValid orderedRow = true ∧
      ∃ t markup, Template.ofValue orderedRow = .ok t ∧ t.compile = .ok markup ∧ t.InOrder ∧
        (∃ data back, Editor.Data.ofTemplate t.toValue = .ok data ∧
          Editor.templateOf data.toValue = .ok back ∧ Template.isValid back = true ∧
          Publisher.compile back = .ok (t.canonical.toValue, markup)) ∧
        ∀ engine, (rowSession.run [.request openRow engine ⟨1⟩,
            .request saveRow engine ⟨2⟩]).designs.map (·.markup) =
          rowSession.designs.map (·.markup) := by
  have hempty : emptyService.database = .ready .empty := rfl
  have hvalid : Template.isValid orderedRow = true := rfl
  obtain ⟨t, ht, ⟨markup, hmarkup⟩, horder⟩ : ∃ t, Template.ofValue orderedRow = .ok t ∧
      (∃ markup, t.compile = .ok markup) ∧ t.InOrder := by
    refine ⟨_, rfl, ⟨_, rfl⟩, ?_⟩
    intro b hb
    obtain rfl := List.mem_singleton.1 hb
    exact .intro rfl nofun
  obtain ⟨data, back, later, hdata, hback, hreturned, -, hcompile, hsame⟩ :=
    reopening_keeps_markup.1 hvalid ht hmarkup
  rw [hsame horder] at hcompile
  refine ⟨hempty, hvalid, t, markup, ht, hmarkup, horder,
    ⟨data, back, hdata, hback, hreturned, hcompile⟩, fun engine => ?_⟩
  obtain ⟨hdesigns, hopen, hsave⟩ := rowSession_leads
  obtain ⟨design, hd, heq⟩ := List.map_eq_singleton_iff.1 hdesigns
  obtain ⟨hid, htemplate⟩ := Prod.mk.inj heq
  rw [← hid] at hopen hsave
  have hmem : design ∈ rowSession.designs := by rw [hd]; exact List.mem_singleton_self design
  obtain ⟨answer, hanswer, -, hsaved⟩ := reopening_keeps_markup.2 engine engine ⟨1⟩ ⟨2⟩ hempty rfl
    hmem (htemplate ▸ ht) horder hopen rfl rfl hsave
  have hbody : readBody saveRow.body = .ok (.object [("editor", answer.toValue)]) := by
    have hrow : openedRow = answer.toValue := by
      rw [openedRow, ← htemplate, hanswer]
      rfl
    rw [← hrow, readBody_saveRow]
  exact (hsaved hbody).1

/-- A row that lists twitter before facebook. -/
def reversedRow : Value :=
  rowOf [("twitter", "t"), ("facebook", "f")]

/-- The reversed row comes back without issues, but its icons are the other way round. -/
theorem reopening_reorders_icons :
    ∃ t markup data back later, Template.isValid reversedRow = true ∧
      Template.ofValue reversedRow = .ok t ∧ t.toValue = reversedRow ∧ t.compile = .ok markup ∧
      Editor.Data.ofTemplate t.toValue = .ok data ∧ Editor.templateOf data.toValue = .ok back ∧
      Template.isValid back = true ∧ Publisher.compile back = .ok (t.canonical.toValue, later) ∧
      later ≠ markup := by
  have hvalid : Template.isValid reversedRow = true := rfl
  obtain ⟨t, markup, ht, hstored, hmarkup, hdiffers⟩ : ∃ t markup,
      Template.ofValue reversedRow = .ok t ∧ t.toValue = reversedRow ∧ t.compile = .ok markup ∧
      t.canonical.compile.toOption ≠ some markup :=
    ⟨_, _, rfl, rfl, rfl, by decide +kernel⟩
  have hs := Template.sound_of_ofValue hvalid ht
  obtain ⟨later, hlater, hcompile, -⟩ := hs.compile_returned ht hmarkup
  refine ⟨t, markup, _, _, later, hvalid, ht, hstored, hmarkup, Editor.ofTemplate_toValue hs,
    Editor.templateOf_dataOf hs, hs.canonical.isValid_returned, hcompile, fun hsame => ?_⟩
  rw [hlater] at hdiffers
  exact hdiffers (congrArg some hsame)

end Session

end Api

end EmailStudio
