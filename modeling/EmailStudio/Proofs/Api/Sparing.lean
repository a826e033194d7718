import EmailStudio.Proofs.Api.Answer
import EmailStudio.Proofs.Api.Atomicity

/-!
# Designs that are spared

A design stays as it is as long as nobody saves a draft of it, publishes it or deletes it, whatever
becomes of the other designs in the meantime. `Session.RunSpares` says so of a run step by step, and
the main result is `Session.Has.run_spares`: a design is found at the end of such a run as it was
at the start.
-/

namespace EmailStudio

namespace DesignStore

variable {store later : DesignStore} {design : Design} {id : String}

theorem mem_iff_get? (nodup : store.ids.Nodup) :
    design ∈ store.designs ↔ store.get? design.id = some design :=
  ⟨Api.Service.find?_of_mem nodup, List.mem_of_find?_eq_some⟩

/-- A change of another design. -/
theorem ChangesOne.mem {named : Option String} (h : store.ChangesOne later named)
    (hnamed : named ≠ some design.id) (hd : design ∈ store.designs) : design ∈ later.designs := by
  cases h with
  | added designs =>
    rw [designs]
    exact List.mem_append_left _ hd
  | @within other _ others =>
    have hother : design.id ≠ other := fun h => hnamed (congrArg some h.symm)
    have hfilter : design ∈ store.designs.filter (·.id ≠ other) :=
      List.mem_filter.2 ⟨hd, decide_eq_true hother⟩
    rw [← others] at hfilter
    exact (List.mem_filter.1 hfilter).1

end DesignStore

namespace Api

/-- The design that an endpoint changes or deletes. -/
def Endpoint.writes? : Endpoint → Option String
  | publishDesign id | saveDraft id | deleteDesign id => some id
  | _ => none

/-- The design that a publication under way is for. -/
def Publication.id : Publication → String
  | found id _ | rendered id _ _ => id

namespace Service

variable {service : Service} {store : DesignStore} {design : Design} {request : Request}
  {now : Time}

/-- Reading a design is no change of it. -/
theorem settles_writes (service : Service) (request : Request) (now : Time) (endpoint : Endpoint) :
    service.Settles endpoint.writes? (service.answerFor request now endpoint) := by
  have reading (h : service.Settles none (service.answerAt request now endpoint)) :
      service.Settles none (service.answerFor request now endpoint) := by
    unfold answerFor
    split
    · split <;> exact .kept rfl
    · exact h
  have hsettles : service.Settles endpoint.design? (service.answerFor request now endpoint) :=
    settles_answerFor service request endpoint
  cases endpoint with
  | getDesign => exact reading (settles_unchanged _)
  | editorData => exact reading (settles_withInput fun _ => settles_unchanged _)
  | _ => exact hsettles

/-- A request that does not lead to a change of a design leaves it as it is. -/
theorem mem_respond (now : Time) (h : service.database = .ready store)
    (hd : design ∈ store.designs)
    (spares : ∀ endpoint, service.LeadsTo request endpoint → endpoint.writes? ≠ some design.id) :
    ∃ later, (service.respond request now).1.database = .ready later ∧
      design ∈ later.designs := by
  cases hdest : Destination.of service.settings.apiStart
      (service.settings.environment = .development) request.method request.path with
  | endpoint endpoint =>
    have hafter : (service.respond request now).1 = (service.answerFor request now endpoint).1 := by
      rw [respond, hdest]
    rw [hafter]
    have hsettles := service.settles_writes request now endpoint
    generalize service.answerFor request now endpoint = result at hsettles
    cases hsettles with
    | kept same => exact ⟨store, same.trans h, hd⟩
    | committed before ready change =>
      cases before.symm.trans h
      exact ⟨_, ready, change.mem (spares endpoint hdest) hd⟩
  | wrongMethod | redirect | nowhere => exact ⟨store, by rw [respond, hdest]; exact h, hd⟩

end Service

namespace Session

variable {s : Session} {design : Design} {id : String}

/-- A step that does not change or delete a design. It may look the design up, and it may render a
new version of it, as long as it does not commit it. -/
def Spares (s : Session) (id : String) : Event → Prop
  | .request request _ _ => ∀ endpoint, s.LeadsTo request endpoint → endpoint.writes? ≠ some id
  | .commit n _ => ∀ publication, s.underWay[n]? = some publication → publication.id ≠ id
  | .lookUp _ | .render _ _ => True

/-- A run whose steps all spare a design. -/
def RunSpares (s : Session) (id : String) : List Event → Prop
  | [] => True
  | e :: events => s.Spares id e ∧ (s.step e).RunSpares id events

/-- A session whose designs are ready, each under its own identifier, with a design among them. -/
def Has (s : Session) (design : Design) : Prop :=
  ∃ store, s.Holds store ∧ store.Numbered ∧ design ∈ store.designs

theorem has_run {service : Service} (hempty : service.database = .ready .empty)
    {events : List Event} (hd : design ∈ ((start service).run events).designs) :
    ((start service).run events).Has design := by
  obtain ⟨store, hstore, hnumbered, -⟩ :=
    (holds_start hempty).run DesignStore.numbered_empty events
  exact ⟨store, hstore, hnumbered, hstore.designs_eq ▸ hd⟩

theorem Has.mem (h : s.Has design) : design ∈ s.designs := by
  obtain ⟨store, hstore, -, hd⟩ := h
  exact hstore.designs_eq ▸ hd

theorem Has.lookup (h : s.Has design) (engine : Engine) :
    (s.service.withEngine engine).lookup design.id = .ok design := by
  obtain ⟨store, hstore, hnumbered, hd⟩ := h
  exact Service.lookup_eq_ok hstore.ready hnumbered.nodup hd

theorem Has.reaches (h : s.Has design) (engine : Engine) (endpoint : Endpoint) :
    (s.service.withEngine engine).Reaches endpoint := by
  obtain ⟨store, hstore, -, -⟩ := h
  exact Service.reaches_of_ready hstore.ready endpoint

/-- At the end of a run, a session has what is among its designs. -/
theorem Has.run_of_mem (h : s.Has design) (events : List Event) {later : Design}
    (hlater : later ∈ (s.run events).designs) : (s.run events).Has later := by
  obtain ⟨store, hstore, hnumbered, -⟩ := h
  obtain ⟨next, hnext, hnumbered, -⟩ := hstore.run hnumbered events
  exact ⟨next, hnext, hnumbered, hnext.designs_eq ▸ hlater⟩

theorem Has.step_of_mem (h : s.Has design) (e : Event) {later : Design}
    (hlater : later ∈ (s.step e).designs) : (s.step e).Has later :=
  h.run_of_mem [e] hlater

theorem mem_commit {n : Nat} {now : Time} {store : DesignStore} (h : s.Holds store)
    (hd : design ∈ store.designs)
    (spares : ∀ publication, s.underWay[n]? = some publication → publication.id ≠ design.id) :
    design ∈ (s.commit n now).designs := by
  rw [commit]
  split
  · rename_i id form published hn
    have hid : some id ≠ some design.id := fun h => spares _ hn (Option.some.inj h)
    have hsettles : s.service.Settles (some id)
        (s.service.commitDesign id form.name published now) :=
      Service.settles_commitDesign s.service id form.name published
    generalize s.service.commitDesign id form.name published now = result at hsettles
    cases hsettles with
    | kept same =>
      rw [designs, same.trans h.ready]
      exact hd
    | committed before ready change =>
      cases before.symm.trans h.ready
      rw [designs, ready]
      exact change.mem hid hd
  · exact h.designs_eq ▸ hd

/-- A step that spares a design leaves it as it is. -/
theorem Has.step_spares (h : s.Has design) {e : Event} (spares : s.Spares design.id e) :
    (s.step e).Has design := by
  refine h.step_of_mem e ?_
  obtain ⟨store, hstore, -, hd⟩ := h
  cases e with
  | request request engine now =>
    have hready : (s.service.withEngine engine).database = .ready store := hstore.ready
    obtain ⟨later, hlater, hmem⟩ := Service.mem_respond now hready hd spares
    rw [step, designs, hlater]
    exact hmem
  | lookUp | render =>
    obtain ⟨next, hnext, rfl | ⟨now, hnow, -⟩⟩ := hstore.step _
    · exact hnext.designs_eq ▸ hd
    · cases hnow
  | commit n now => exact mem_commit hstore hd spares

/-- A design that is spared throughout a run is there at its end. -/
theorem Has.run_spares (h : s.Has design) {events : List Event}
    (spares : s.RunSpares design.id events) : (s.run events).Has design := by
  induction events generalizing s with
  | nil => exact h
  | cons e events ih => exact ih (h.step_spares spares.1) spares.2

end Session

end Api

end EmailStudio
