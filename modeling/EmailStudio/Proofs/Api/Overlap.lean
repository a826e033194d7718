import EmailStudio.Proofs.Api.DraftKeeping

/-!
# Drafts during a publication

A publication takes three steps, and a draft of the same design may be saved between them. Of all
steps only two kinds write the draft of a design: one that saves a draft, and one that commits a new
version of the design, which leaves no draft whenever the one before it was saved. By
`Session.Has.run_draft`, what the last such step of a run wrote is what is left at the end.

The main result is `Session.draft_of_interleaving`: so it is in every session from an empty store,
however the steps of publications and of other requests lie.
-/

namespace EmailStudio.Api

namespace Session

instance (s : Session) (request : Request) (endpoint : Endpoint) :
    Decidable (s.LeadsTo request endpoint) :=
  inferInstanceAs (Decidable (Destination.of _ _ _ _ = .endpoint endpoint))

/-- What a step writes as the draft of a design, if it writes it: the draft that a request saves, or
none once a new version is published. -/
def draftWrite? (s : Session) (id : String) : Event → Option Draft
  | .request request engine now =>
    if (s.answer request engine now).status ≠ 200 then none
    else if s.LeadsTo request (.publishDesign id) then some .nothing
    else if s.LeadsTo request (.saveDraft id) then
      match Service.formOf readDraft request with
      | .ok draft => some ⟨some (.object draft), some now⟩
      | .error _ => none
    else none
  | .commit n _ =>
    match s.underWay[n]? with
    | some (.rendered other _ _) => if other = id then some .nothing else none
    | _ => none
  | .lookUp _ | .render _ _ => none

/-- The draft of a design at the end of a run, from the one at its start. -/
def draftLeft (s : Session) (id : String) (draft : Draft) : List Event → Draft
  | [] => draft
  | e :: events => (s.step e).draftLeft id ((s.draftWrite? id e).getD draft) events

variable {s : Session} {design later : Design} {request : Request} {engine : Engine} {now : Time}

/-! ## What a step writes -/

theorem draftWrite?_eq_some {id : String} {e : Event} {written : Draft}
    (h : s.draftWrite? id e = some written) :
    s.Publishes id e ∧ written = .nothing ∨
      ∃ (request : Request) (engine : Engine) (now : Time) (fields : Fields),
        e = .request request engine now ∧ s.LeadsTo request (.saveDraft id) ∧
        Service.formOf readDraft request = .ok fields ∧
        written = ⟨some (.object fields), some now⟩ := by
  cases e with
  | request request engine now =>
    rw [draftWrite?] at h
    split_ifs at h with hstatus hpublish hsave
    · exact .inl ⟨⟨hpublish, not_not.1 hstatus⟩, (Option.some.inj h).symm⟩
    · split at h
      · rename_i fields hform
        exact .inr ⟨request, engine, now, fields, rfl, hsave, hform, (Option.some.inj h).symm⟩
      · cases h
  | commit n now =>
    rw [draftWrite?] at h
    split at h
    · rename_i other form published hn
      split_ifs at h with hid
      exact .inl ⟨⟨form, published, hid ▸ hn⟩, (Option.some.inj h).symm⟩
    · cases h
  | lookUp | render => cases h

theorem Has.eq_of_mem (h : s.Has design) (hlater : later ∈ s.designs)
    (same : later.id = design.id) : later = design := by
  obtain ⟨store, hstore, hnumbered, hd⟩ := h
  rw [hstore.designs_eq] at hlater
  exact List.inj_on_of_nodup_map hnumbered.nodup hlater hd same

/-! ## Steps that write no draft -/

/-- A request that fails at its endpoint without a change of the service. -/
theorem Has.designs_of_error (h : s.Has design) {endpoint : Endpoint} {failure : Failure}
    (hleads : s.LeadsTo request endpoint)
    (hanswer : (s.service.withEngine engine).answerAt request now endpoint =
      (s.service.withEngine engine, .error failure)) :
    (s.step (.request request engine now)).designs = s.designs := by
  have hleads : (s.service.withEngine engine).LeadsTo request endpoint := hleads
  rw [step, Service.respond_of_error hleads (h.reaches engine endpoint) hanswer]
  rfl

theorem Has.designs_of_failedPublication (h : s.Has design)
    (hleads : s.LeadsTo request (.publishDesign design.id))
    (hstatus : (s.answer request engine now).status ≠ 200) :
    (s.step (.request request engine now)).designs = s.designs := by
  obtain ⟨failure, hanswer⟩ | ⟨form, published, -, -, hanswer⟩ :=
    (s.service.withEngine engine).answerAt_publishDesign_cases request now design.id
  · exact h.designs_of_error hleads hanswer
  · refine absurd ?_ hstatus
    obtain ⟨store, hstore, hnumbered, hd⟩ := id h
    have hready : (s.service.withEngine engine).database = .ready store := hstore.ready
    have hcommit := Service.commitDesign_eq hready
      ((DesignStore.mem_iff_get? hnumbered.nodup).1 hd) form.name published now
    rw [h.answer_of_ok hleads (hanswer.trans hcommit) (by decide : 200 ≠ 500)]
    rfl

theorem Has.id_ne_of_delete (h : s.Has design)
    (hleads : s.LeadsTo request (.deleteDesign design.id))
    (hlater : later ∈ (s.step (.request request engine now)).designs) : later.id ≠ design.id := by
  have hleads : (s.service.withEngine engine).LeadsTo request (.deleteDesign design.id) := hleads
  have hreach := h.reaches engine (.deleteDesign design.id)
  obtain ⟨store, hstore, hnumbered, hd⟩ := h
  have hready : (s.service.withEngine engine).database = .ready store := hstore.ready
  have hfound := (DesignStore.mem_iff_get? hnumbered.nodup).1 hd
  have hanswer : (s.service.withEngine engine).answerAt request now (.deleteDesign design.id) =
      ({ s.service.withEngine engine with database := .ready (store.delete design.id).1 },
        .ok ⟨204, .nothing, none⟩) := by
    rw [Service.answerAt, Service.deleteDesign, Service.transact_eq hready, DesignStore.delete,
      hfound]
    rfl
  rw [step, Service.respond_of_ok hleads hreach hanswer (by decide : 204 ≠ 500)] at hlater
  exact (DesignStore.mem_designs_delete.1 hlater).2

/-- A step that does not write the draft of a design leaves the design as it is, or deletes it. -/
theorem Has.eq_of_unwritten (h : s.Has design) {e : Event}
    (unwritten : s.draftWrite? design.id e = none) (hlater : later ∈ (s.step e).designs)
    (same : later.id = design.id) : later = design := by
  by_cases spares : s.Spares design.id e
  · exact (h.step_spares spares).eq_of_mem hlater same
  cases e with
  | request request engine now =>
    obtain ⟨endpoint, hleads, hwrites⟩ :
        ∃ endpoint, s.LeadsTo request endpoint ∧ endpoint.writes? = some design.id := by
      simpa [Spares] using spares
    cases endpoint with
    | publishDesign id =>
      cases hwrites
      have hfailed : (s.answer request engine now).status ≠ 200 := by
        intro hstatus
        rw [draftWrite?, if_neg (not_not.2 hstatus), if_pos hleads] at unwritten
        cases unwritten
      exact h.eq_of_mem (h.designs_of_failedPublication hleads hfailed ▸ hlater) same
    | saveDraft id =>
      cases hwrites
      cases hform : Service.formOf readDraft request with
      | error failure =>
        have hanswer : (s.service.withEngine engine).answerAt request now (.saveDraft design.id) =
            (s.service.withEngine engine, .error failure) := by
          rw [Service.answerAt, hform]
          rfl
        exact h.eq_of_mem (h.designs_of_error hleads hanswer ▸ hlater) same
      | ok fields =>
        have hstatus : (s.answer request engine now).status = 200 := by
          rw [(h.saveDraft engine now hleads hform).1]
        have hother : ¬s.LeadsTo request (.publishDesign design.id) :=
          fun hpublish => by cases hleads.symm.trans hpublish
        rw [draftWrite?, if_neg (not_not.2 hstatus), if_neg hother, if_pos hleads,
          hform] at unwritten
        cases unwritten
    | deleteDesign id =>
      cases hwrites
      exact absurd same (h.id_ne_of_delete hleads hlater)
    | _ => cases hwrites
  | commit n now =>
    obtain ⟨publication, hn, hid⟩ :
        ∃ publication, s.underWay[n]? = some publication ∧ publication.id = design.id := by
      simpa [Spares] using spares
    cases publication with
    | found id form =>
      rw [step, commit, hn] at hlater
      exact h.eq_of_mem hlater same
    | rendered id form published =>
      have hid : id = design.id := hid
      rw [draftWrite?, hn] at unwritten
      dsimp only at unwritten
      rw [if_pos hid] at unwritten
      cases unwritten
  | lookUp | render => exact absurd trivial spares

/-! ## What is left of a draft -/

/-- What a step writes is the draft from then on, and the draft stays where nothing is written. -/
theorem Has.step_draft (h : s.Has design) (e : Event) (hlater : later ∈ (s.step e).designs)
    (same : later.id = design.id) :
    later.draft = (s.draftWrite? design.id e).getD design.draft := by
  cases hwrite : s.draftWrite? design.id e with
  | none =>
    rw [h.eq_of_unwritten hwrite hlater same]
    rfl
  | some written =>
    rcases draftWrite?_eq_some hwrite with
      ⟨publishes, rfl⟩ | ⟨request, engine, now, fields, rfl, hleads, hform, rfl⟩
    · obtain ⟨next, hid, hnone, hnext⟩ := h.publish publishes
      rw [hnext.eq_of_mem hlater (same.trans hid.symm), hnone]
      rfl
    · have hsaved : design.withDraft (.object fields) now ∈
          (s.step (.request request engine now)).designs := by
        rw [(h.saveDraft engine now hleads hform).2]
        exact List.mem_map.2 ⟨design, h.mem, if_pos rfl⟩
      rw [(h.step_of_mem _ hsaved).eq_of_mem hlater same]
      rfl

/-- A design that is there at the end of a run was there all the time. -/
theorem Has.exists_next (h : s.Has design) (e : Event) (events : List Event)
    (hlater : later ∈ ((s.step e).run events).designs) (same : later.id = design.id) :
    ∃ next ∈ (s.step e).designs, next.id = design.id := by
  obtain ⟨store, hstore, hnumbered, hd⟩ := h
  obtain ⟨one, hone, hnumbered', hgrows⟩ := hstore.run hnumbered [e]
  obtain ⟨two, htwo, -, hgrows'⟩ := hone.run hnumbered' events
  by_contra hgone
  have hstep : design.id ∉ one.ids := by
    rw [← hone.ids_eq]
    exact fun hmem => hgone (List.mem_map.1 hmem)
  have hend := hgrows.not_mem_ids hnumbered hgrows' (List.mem_map_of_mem hd) hstep
  rw [← htwo.ids_eq] at hend
  exact hend (List.mem_map.2 ⟨later, hlater, same⟩)

theorem Has.run_draft (h : s.Has design) (events : List Event)
    (hlater : later ∈ (s.run events).designs) (same : later.id = design.id) :
    later.draft = s.draftLeft design.id design.draft events := by
  induction events generalizing s design with
  | nil => rw [h.eq_of_mem hlater same, draftLeft]
  | cons e events ih =>
    obtain ⟨next, hnext, hid⟩ := h.exists_next e events hlater same
    have hstep := h.step_draft e hnext hid
    rw [draftLeft, ← hstep, ← hid]
    exact ih (h.step_of_mem e hnext) hlater (same.trans hid.symm)

/-- In every session from an empty store, however the steps of publications and of other requests
lie: as long as a design is not deleted, its draft is the one that was saved last, if no new version
was committed since, and there is none otherwise. A draft that can be read is always saved, and a
new version that is committed leaves none, be the one before it saved after the publication
began. -/
theorem draft_of_interleaving {service : Service} (hempty : service.database = .ready .empty)
    {before : List Event} {s : Session} (reached : s = (start service).run before)
    {design : Design} (hd : design ∈ s.designs) :
    (∀ {events : List Event} {later : Design}, later ∈ (s.run events).designs →
      later.id = design.id → later.draft = s.draftLeft design.id design.draft events) ∧
    (∀ {put : Request} (engine : Engine) (now : Time) {draft : Fields},
      s.LeadsTo put (.saveDraft design.id) → Service.formOf readDraft put = .ok draft →
        (s.answer put engine now).status = 200 ∧
          design.withDraft (.object draft) now ∈ (s.step (.request put engine now)).designs) ∧
    ∀ {n : Nat} {form : DesignForm} {published : Published} (now : Time),
      s.underWay[n]? = some (.rendered design.id form published) →
        ∃ later ∈ (s.step (.commit n now)).designs, later.id = design.id ∧
          later.draft = .nothing := by
  subst reached
  have hhas := has_run hempty hd
  refine ⟨fun {events} _ => hhas.run_draft events, fun {put} engine now draft hput hform => ?_,
    fun {n form published} now hn => ?_⟩
  · obtain ⟨hanswer, hdesigns⟩ := hhas.saveDraft engine now hput hform
    rw [hanswer, hdesigns]
    exact ⟨rfl, List.mem_map.2 ⟨design, hd, if_pos rfl⟩⟩
  · have publishes : ((start service).run before).Publishes design.id (.commit n now) :=
      ⟨form, published, hn⟩
    obtain ⟨later, hid, hnone, hlater⟩ := hhas.publish publishes
    exact ⟨later, hlater.mem, hid, hnone⟩

/-! ## A draft that is saved while a new version is published -/

/-- A design was created, and a request to publish the same again has looked it up. -/
def lookedUp : Session :=
  (start emptyService).run [.request createPlain emptyService.engine ⟨0⟩,
    .lookUp ⟨"PUT", "/api/v1/designs/" ++ identifier 1, "", createPlain.body, none⟩]

/-- A draft is saved, and then the new version is rendered. -/
def savedMeanwhile : List Event :=
  [.request saveAccented emptyService.engine ⟨1⟩, .render 0 emptyService.engine]

/-- The draft of a design as it is stored. -/
def storedDraft (draft : Draft) : Option String × Option Time :=
  (draft.template.map (·.write), draft.savedAt)

/-- After the commit the draft is saved once more, and it outlives a new version that is refused. -/
theorem draft_of_interleaving_refused :
    let events := savedMeanwhile ++ [.commit 0 ⟨2⟩,
      .request saveAccented emptyService.engine ⟨3⟩,
      .request Service.refusedRow emptyService.engine ⟨4⟩]
    (lookedUp.run events).ids = [identifier 1] ∧
      ∀ later ∈ (lookedUp.run events).designs, later.id = identifier 1 →
        storedDraft later.draft = (some (Value.object accentedDraft).write, some ⟨3⟩) := by
  intro events
  have hstart : emptyService.database = .ready .empty := rfl
  have hdesigns : lookedUp.designs.map (fun design => (design.id, design.draft.template.isNone,
      design.draft.savedAt)) = [(identifier 1, true, none)] := by decide +kernel
  obtain ⟨design, hd, heq⟩ := List.map_eq_singleton_iff.1 hdesigns
  obtain ⟨hid, htemplate, hsaved⟩ := by simpa only [Prod.mk.injEq] using heq
  have hnone : design.draft = .nothing :=
    congrArg₂ Draft.mk (Option.isNone_iff_eq_none.1 htemplate) hsaved
  have hmem : design ∈ lookedUp.designs := by rw [hd]; exact List.mem_singleton_self design
  have hleft : storedDraft (lookedUp.draftLeft (identifier 1) .nothing events) =
      (some (Value.object accentedDraft).write, some ⟨3⟩) := by decide +kernel
  obtain ⟨left, -, -⟩ := draft_of_interleaving hstart rfl hmem
  refine ⟨by decide +kernel, fun later hlater hsame => ?_⟩
  rw [left hlater (hsame.trans hid.symm), hid, hnone]
  exact hleft

/-- The draft was saved after the design was looked up and before the new version was committed, and
it is gone after that. -/
theorem draft_is_discarded :
    lookedUp.underWay.map (·.id) = [identifier 1] ∧
      (lookedUp.answer saveAccented emptyService.engine ⟨1⟩).status = 200 ∧
      (lookedUp.run savedMeanwhile).designs.map (fun design => storedDraft design.draft) =
        [(some (Value.object accentedDraft).write, some ⟨1⟩)] ∧
      ((lookedUp.run savedMeanwhile).step (.commit 0 ⟨2⟩)).designs.map
        (fun design => (design.id, storedDraft design.draft)) = [(identifier 1, none, none)] := by
  decide +kernel

end Session

end EmailStudio.Api
