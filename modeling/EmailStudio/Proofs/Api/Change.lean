import EmailStudio.Api.Answer
import EmailStudio.Proofs.Designs.Store

/-!
# What requests change

A request makes at most one change of the designs, and `Change` lists the changes there are. By
`Service.leads_respond`, no request does anything else to designs that are ready: every route,
method and body is covered, and every answer of the engine. What holds of the designs forever is
shown once for each change.
-/

namespace EmailStudio.Api

namespace DesignForm

/-- A form that some request was read as. -/
def IsRead (form : DesignForm) : Prop :=
  ∃ request, Service.formOf DesignForm.read request = .ok form

/-- What a form holds can be published as this, by some engine. -/
def Publishes (form : DesignForm) (published : Published) : Prop :=
  ∃ publisher, form.publish publisher = .ok published

theorem publishes_of_mapError {form : DesignForm} {publisher : Publisher} {published : Published}
    (h : (form.publish publisher).mapError Failure.ofPublish = .ok published) :
    form.Publishes published :=
  ⟨publisher, Outcome.mapError_eq_ok_iff.1 h⟩

theorem Publishes.isStored {form : DesignForm} {published : Published}
    (h : form.Publishes published) :
    Template.IsStored published.template published.markup := by
  obtain ⟨publisher, h⟩ := h
  obtain ⟨candidate, -, h⟩ := Outcome.bind_eq_ok_iff.1 h
  exact Publisher.isStored_of_publish h

end DesignForm

/-- A change of the designs at a time. -/
inductive Change (now : Time) (store : DesignStore) : DesignStore → Prop where
  | none : Change now store store
  | create {form : DesignForm} {published : Published} (read : form.IsRead)
      (publishes : form.Publishes published) :
      Change now store (store.create (nameOf form.name published.template) published.template
        published.markup published.rendering.html now).1
  | republish (id : String) {form : DesignForm} {published : Published} (read : form.IsRead)
      (publishes : form.Publishes published) :
      Change now store (store.republish id form.name published.template published.markup
        published.rendering.html now).1
  | saveDraft (id : String) (draft : Fields) :
      Change now store (store.saveDraft id (.object draft) now).1
  | delete (id : String) : Change now store (store.delete id).1

/-! ## What every change keeps -/

namespace Change

variable {now : Time} {store later : DesignStore}

theorem grows (h : Change now store later) : store.Grows later := by
  cases h with
  | none => exact .refl store
  | create => exact DesignStore.grows_create ..
  | republish => exact DesignStore.grows_update fun _ => rfl
  | saveDraft => exact DesignStore.grows_update fun _ => rfl
  | delete id => exact DesignStore.grows_delete store id

theorem numbered (h : Change now store later) (hn : store.Numbered) : later.Numbered := by
  cases h with
  | none => exact hn
  | create => exact hn.create ..
  | republish => exact hn.update fun _ => rfl
  | saveDraft => exact hn.update fun _ => rfl
  | delete id => exact hn.delete id

/-- Where a design comes from that is there after a change. -/
inductive Origin (now : Time) (store : DesignStore) : Design → Prop where
  | kept {design : Design} (before : design ∈ store.designs) : Origin now store design
  | created (id : String) {form : DesignForm} {published : Published}
      (publishes : form.Publishes published) :
      Origin now store (.created id (nameOf form.name published.template) published.template
        published.markup published.rendering.html now)
  | republished {old : Design} (before : old ∈ store.designs) {form : DesignForm}
      {published : Published} (publishes : form.Publishes published) :
      Origin now store (old.republish form.name published.template published.markup
        published.rendering.html now)
  | drafted {old : Design} (before : old ∈ store.designs) (draft : Fields) :
      Origin now store (old.withDraft (.object draft) now)

theorem origin (h : Change now store later) :
    ∀ design ∈ later.designs, Origin now store design := by
  intro design hd
  cases h with
  | none => exact .kept hd
  | create _ publishes =>
    rcases DesignStore.mem_designs_create.1 hd with hd | rfl
    · exact .kept hd
    · exact .created _ publishes
  | republish _ _ publishes =>
    rcases DesignStore.mem_designs_update hd with ⟨hd, -⟩ | ⟨old, hold, -, rfl⟩
    · exact .kept hd
    · exact .republished hold publishes
  | saveDraft _ draft =>
    rcases DesignStore.mem_designs_update hd with ⟨hd, -⟩ | ⟨old, hold, -, rfl⟩
    · exact .kept hd
    · exact .drafted hold draft
  | delete => exact .kept (DesignStore.mem_designs_delete.1 hd).1

theorem savedBy (h : Change now store later) {t : Time} (hnow : now ≤ t)
    (hs : ∀ design ∈ store.designs, design.SavedBy t) :
    ∀ design ∈ later.designs, design.SavedBy t := by
  intro design hd
  cases h.origin design hd with
  | kept before => exact hs design before
  | created => exact Design.SavedBy.created hnow ..
  | republished before => exact Design.SavedBy.republish hnow ..
  | drafted before => exact (hs _ before).withDraft hnow _

/-- A change keeps designs coherent if none of them was saved after it. -/
theorem coherent (h : Change now store later)
    (hs : ∀ design ∈ store.designs, design.SavedBy now)
    (hc : ∀ design ∈ store.designs, design.Coherent) :
    ∀ design ∈ later.designs, design.Coherent := by
  intro design hd
  cases h.origin design hd with
  | kept before => exact hc design before
  | created _ publishes => exact .created _ _ publishes.isStored _ now
  | republished before publishes =>
    exact (hc _ before).republish (hs _ before) _ publishes.isStored _
  | drafted before => exact (hc _ before).withDraft (hs _ before) _

/-- Stored templates stay stored templates, with the markup compiled from them. -/
theorem isStored (h : Change now store later)
    (hs : ∀ design ∈ store.designs, Template.IsStored design.template design.markup) :
    ∀ design ∈ later.designs, Template.IsStored design.template design.markup := by
  intro design hd
  cases h.origin design hd with
  | kept before => exact hs design before
  | created _ publishes | republished _ publishes => exact publishes.isStored
  | @drafted old before => exact hs old before

end Change

/-! ## What a request does -/

namespace Service

variable {service : Service} {now : Time} {store : DesignStore}

/-- A service came from designs by one change. -/
def Leads (now : Time) (store : DesignStore) (service : Service) : Prop :=
  ∃ later, service.database = .ready later ∧ Change now store later

theorem leads_self (h : service.database = .ready store) : service.Leads now store :=
  ⟨store, h, .none⟩

theorem leads_withInput {α : Type} {input : Except Failure α} {next : α → Service × Answer}
    (h : service.database = .ready store)
    (hnext : ∀ a, input = .ok a → (next a).1.Leads now store) :
    (service.withInput input next).1.Leads now store := by
  cases input with
  | ok a => exact hnext a rfl
  | error failure => exact leads_self h

theorem transact_eq {α : Type} (h : service.database = .ready store)
    (work : DesignStore → DesignStore × Except Failure α) :
    service.transact work =
      ({ service with database := .ready (work store).1 }, (work store).2) := by
  rw [transact, h]

theorem leads_createDesign (h : service.database = .ready store) {form : DesignForm}
    {published : Published} (read : form.IsRead) (publishes : form.Publishes published) :
    (service.createDesign form.name published now).1.Leads now store := by
  rw [createDesign, transact_eq h]
  exact ⟨_, rfl, .create read publishes⟩

/-- The design may have gone since it was looked up; nothing is changed then. -/
theorem leads_commitDesign (h : service.database = .ready store) (id : String) {form : DesignForm}
    {published : Published} (read : form.IsRead) (publishes : form.Publishes published) :
    (service.commitDesign id form.name published now).1.Leads now store := by
  rw [commitDesign, transact_eq h]
  refine ⟨_, rfl, ?_⟩
  dsimp only
  split <;> exact .republish id read publishes

theorem leads_saveDraft (h : service.database = .ready store) (id : String) (draft : Fields) :
    (service.saveDraft id draft now).1.Leads now store := by
  rw [saveDraft, transact_eq h]
  refine ⟨_, rfl, ?_⟩
  dsimp only
  split <;> exact .saveDraft id draft

theorem leads_deleteDesign (h : service.database = .ready store) (id : String) :
    (service.deleteDesign id).1.Leads now store := by
  rw [deleteDesign, transact_eq h]
  exact ⟨_, rfl, .delete id⟩

theorem leads_publishDesign (h : service.database = .ready store) (id : String)
    {form : DesignForm} (read : form.IsRead) :
    (service.publishDesign id form now).1.Leads now store :=
  leads_withInput h fun _ _ => leads_withInput h fun _ hp =>
    leads_commitDesign h id read (DesignForm.publishes_of_mapError hp)

theorem leads_uploadImage (h : service.database = .ready store) (form : UploadForm) :
    (service.uploadImage form now).1.Leads now store := by
  rw [uploadImage]
  split
  · exact leads_self h
  · dsimp only
    split <;> exact leads_self h

/-- The endpoints that write are few; every other one leaves the service as it is. -/
theorem leads_answerAt (h : service.database = .ready store) (request : Request)
    (endpoint : Endpoint) : (service.answerAt request now endpoint).1.Leads now store := by
  cases endpoint with
  | createDesign =>
    exact leads_withInput h fun form hf => leads_withInput h fun _ hp =>
      leads_createDesign h ⟨request, hf⟩ (DesignForm.publishes_of_mapError hp)
  | publishDesign id =>
    exact leads_withInput h fun form hf => leads_publishDesign h id ⟨request, hf⟩
  | saveDraft id => exact leads_withInput h fun draft _ => leads_saveDraft h id draft
  | deleteDesign id => exact leads_deleteDesign h id
  | uploadImage => exact leads_withInput h fun form _ => leads_uploadImage h form
  | validate | compile | preview | listDesigns | editorData =>
    exact leads_withInput h fun _ _ => leads_self h
  | health | live | root | manual | constraints | downloadImage | getDesign =>
    exact leads_self h

/-- Every request makes one of the changes, or none. -/
theorem leads_respond (h : service.database = .ready store) (request : Request) :
    (service.respond request now).1.Leads now store := by
  have hfor (endpoint : Endpoint) : service.answerFor request now endpoint =
      service.answerAt request now endpoint := by
    rw [answerFor, h]
  rw [respond]
  dsimp only
  split
  · rw [hfor]
    exact leads_answerAt h request _
  · exact leads_self h
  · exact leads_self h
  · exact leads_self h

end Service

end EmailStudio.Api
