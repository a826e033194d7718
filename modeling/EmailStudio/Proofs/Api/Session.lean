import EmailStudio.Proofs.Api.Change
import EmailStudio.Value.Writer

/-!
# Sessions

Requests reach the service at the same time. What one transaction does cannot be interrupted, but to
publish a new version of a design takes three steps, and anything may happen between them: the
design is looked up, what the form holds is rendered, and the result is committed. A session is the
service together with the publications under way. By `Session.run_publish` the three steps taken at
once are the answer to the request.

The main result is `Session.run_designs`: whatever the requests, the answers of the engine and the
order of the steps, the designs are coherent, and an identifier that was deleted does not come back.
-/

namespace EmailStudio.Api

/-- A request to publish a new version of a design that is not committed yet. -/
inductive Publication where
  /-- The design was found. -/
  | found (id : String) (form : DesignForm)
  /-- What the form holds was compiled and rendered. -/
  | rendered (id : String) (form : DesignForm) (published : Published)

/-- A publication under way came from a request, and what was rendered came from its form. -/
def Publication.Fits : Publication → Prop
  | found _ form => form.IsRead
  | rendered _ form published => form.IsRead ∧ form.Publishes published

/-- The service and the publications under way, the oldest first. -/
structure Session where
  service : Service
  underWay : List Publication

/-- A step of a session. The engine may answer differently each time it is asked. -/
inductive Event where
  /-- A request is answered at once. -/
  | request (request : Request) (engine : Engine) (now : Time)
  /-- A request to publish looks for its design. -/
  | lookUp (request : Request)
  /-- A publication under way is compiled and rendered. -/
  | render (n : Nat) (engine : Engine)
  /-- A publication under way is committed. -/
  | commit (n : Nat) (now : Time)

namespace Event

/-- When a step reads the clock. -/
def time? : Event → Option Time
  | request _ _ now | commit _ now => some now
  | lookUp _ | render _ _ => none

end Event

/-- The times that steps read from the clock. -/
def times (events : List Event) : List Time :=
  events.filterMap Event.time?

/-- The clock never goes backwards. -/
def Clocked (events : List Event) : Prop :=
  (times events).Pairwise (· ≤ ·)

instance (events : List Event) : Decidable (Clocked events) :=
  inferInstanceAs (Decidable ((times events).Pairwise (· ≤ ·)))

theorem mem_times_cons {e : Event} {events : List Event} {t : Time} :
    t ∈ times (e :: events) ↔ t ∈ e.time? ∨ t ∈ times events := by
  simp only [times, List.mem_filterMap, List.mem_cons, exists_eq_or_imp, Option.mem_def]

theorem clocked_cons_iff {e : Event} {events : List Event} :
    Clocked (e :: events) ↔ (∀ now ∈ e.time?, ∀ t ∈ times events, now ≤ t) ∧ Clocked events := by
  rw [Clocked, times]
  cases he : e.time? with
  | none =>
    rw [List.filterMap_cons_none he]
    exact ⟨fun h => ⟨fun _ hnow => absurd hnow (Option.not_mem_none _), h⟩, And.right⟩
  | some now =>
    rw [List.filterMap_cons_some he, List.pairwise_cons]
    simp only [Option.mem_def, Option.some.injEq, forall_eq']
    rfl

/-- The service with an engine that answers as it does for now. -/
def Service.withEngine (service : Service) (engine : Engine) : Service :=
  { service with engine := engine }

namespace Session

/-- A session in which nothing is under way. -/
def start (service : Service) : Session :=
  ⟨service, []⟩

/-- What is under way after a request to publish has looked for its design. Where the form cannot be
read or the design is not found, the request is answered and nothing is under way. -/
def lookUp (service : Service) (request : Request) : Option Publication :=
  match Destination.of service.settings.apiStart (service.settings.environment = .development)
    request.method request.path with
  | .endpoint (.publishDesign id) =>
    match Service.formOf DesignForm.read request, service.lookup id with
    | .ok form, .ok _ => some (.found id form)
    | _, _ => none
  | _ => none

/-- Compiles and renders what the form of a publication under way holds. One that fails is answered
and no longer under way. -/
def render (s : Session) (n : Nat) (engine : Engine) : Session :=
  let service := s.service.withEngine engine
  match s.underWay[n]? with
  | some (.found id form) =>
    match form.publish service.publisher with
    | .ok published => ⟨service, s.underWay.set n (.rendered id form published)⟩
    | .error _ => ⟨service, s.underWay.eraseIdx n⟩
  | _ => ⟨service, s.underWay⟩

/-- Commits a publication under way. -/
def commit (s : Session) (n : Nat) (now : Time) : Session :=
  match s.underWay[n]? with
  | some (.rendered id form published) =>
    ⟨(s.service.commitDesign id form.name published now).1, s.underWay.eraseIdx n⟩
  | _ => s

/-- Takes a step. -/
def step (s : Session) : Event → Session
  | .request request engine now =>
    ⟨((s.service.withEngine engine).respond request now).1, s.underWay⟩
  | .lookUp request => ⟨s.service, s.underWay ++ (lookUp s.service request).toList⟩
  | .render n engine => s.render n engine
  | .commit n now => s.commit n now

/-- Takes steps one after the other. -/
def run (s : Session) (events : List Event) : Session :=
  events.foldl step s

theorem run_append (s : Session) (first second : List Event) :
    s.run (first ++ second) = (s.run first).run second :=
  List.foldl_append

/-- The designs as they are stored. -/
def designs (s : Session) : List Design :=
  match s.service.database with
  | .ready store => store.designs
  | _ => []

/-- The identifiers of the designs. -/
def ids (s : Session) : List String :=
  s.designs.map (·.id)

/-! ## Publishing in three steps -/

/-- What a request to publish leaves behind. Where the designs cannot be reached, nothing is looked
up, so that nothing is published either. -/
theorem respond_publish (service : Service) {request : Request} {id : String} (now : Time)
    (h : Destination.of service.settings.apiStart (service.settings.environment = .development)
      request.method request.path = .endpoint (.publishDesign id)) :
    (service.respond request now).1 =
      (service.withInput (Service.formOf DesignForm.read request) fun form =>
        service.publishDesign id form now).1 := by
  rw [Service.respond, h]
  dsimp only
  cases hd : service.database with
  | unusable fault =>
    have hlookup : service.lookup id = .error (.unexpected "") := by
      rw [Service.lookup, Service.consult, hd]
    rw [Service.answerFor, hd]
    dsimp only [Endpoint.needsDesigns, Endpoint.readsBody]
    cases hform : Service.formOf DesignForm.read request <;>
      simp only [Service.withInput, Service.publishDesign, hlookup] <;> split <;> rfl
  | _ =>
    rw [Service.answerFor, hd]
    rfl

theorem eraseIdx_concat {α : Type} (xs : List α) (x : α) : (xs ++ [x]).eraseIdx xs.length = xs := by
  rw [List.eraseIdx_append_of_length_le (Nat.le_refl _), Nat.sub_self, List.eraseIdx_cons_zero,
    List.append_nil]

theorem set_concat {α : Type} (xs : List α) (x y : α) :
    (xs ++ [x]).set xs.length y = xs ++ [y] := by
  rw [List.set_append_right _ _ (Nat.le_refl _), Nat.sub_self, List.set_cons_zero]

/-- The three steps of a publication, with nothing in between, are the answer to its request. -/
theorem run_publish (s : Session) {request : Request} {id : String} (engine : Engine) (now : Time)
    (h : Destination.of s.service.settings.apiStart
      (s.service.settings.environment = .development) request.method request.path =
      .endpoint (.publishDesign id)) :
    s.run [.lookUp request, .render s.underWay.length engine, .commit s.underWay.length now] =
      s.step (.request request engine now) := by
  have hnone : s.underWay[s.underWay.length]? = none := List.getElem?_eq_none (Nat.le_refl _)
  have hrespond : s.step (.request request engine now) =
      ⟨((s.service.withEngine engine).withInput (Service.formOf DesignForm.read request) fun form =>
        (s.service.withEngine engine).publishDesign id form now).1, s.underWay⟩ := by
    rw [step, respond_publish (s.service.withEngine engine) now h]
  have hlookup : (s.service.withEngine engine).lookup id = s.service.lookup id := rfl
  have hsteps : s.run [.lookUp request, .render s.underWay.length engine,
      .commit s.underWay.length now] =
      ((s.step (.lookUp request)).render s.underWay.length engine).commit s.underWay.length now :=
    rfl
  rw [hrespond, hsteps, step, lookUp, h]
  dsimp only
  cases hform : Service.formOf DesignForm.read request with
  | error failure =>
    simp only [Option.toList_none, List.append_nil, render, hnone, commit, Service.withInput]
  | ok form =>
    cases hl : s.service.lookup id with
    | error failure =>
      simp only [Option.toList_none, List.append_nil, render, hnone, commit, Service.withInput,
        Service.publishDesign, hlookup, hl]
    | ok design =>
      simp only [Option.toList_some, render, List.getElem?_concat_length, Service.withInput,
        Service.publishDesign, hlookup, hl]
      cases form.publish (s.service.withEngine engine).publisher with
      | error fault =>
        simp only [eraseIdx_concat, commit, hnone, Except.mapError]
      | ok published =>
        simp only [set_concat, commit, List.getElem?_concat_length, eraseIdx_concat,
          Except.mapError]

/-! ## What a step keeps -/

/-- The designs of a session are ready, and what is under way fits. -/
structure Holds (s : Session) (store : DesignStore) : Prop where
  ready : s.service.database = .ready store
  fits : ∀ publication ∈ s.underWay, publication.Fits

variable {s : Session} {store : DesignStore}

theorem Holds.designs_eq (h : s.Holds store) : s.designs = store.designs := by
  rw [designs, h.ready]

theorem Holds.ids_eq (h : s.Holds store) : s.ids = store.ids := by
  rw [ids, h.designs_eq, DesignStore.ids]

theorem fits_lookUp {service : Service} {request : Request} {publication : Publication}
    (h : lookUp service request = some publication) : publication.Fits := by
  rw [lookUp] at h
  split at h
  · split at h
    · rename_i form _ hform _
      cases h
      exact ⟨request, hform⟩
    · cases h
  · cases h

theorem Holds.render (h : s.Holds store) (n : Nat) (engine : Engine) :
    (s.render n engine).Holds store := by
  rw [Session.render]
  split
  · rename_i id form hn
    have hform : form.IsRead := h.fits _ (List.mem_of_getElem? hn)
    split
    · rename_i published hp
      refine ⟨h.ready, fun publication hm => ?_⟩
      rcases List.mem_or_eq_of_mem_set hm with hm | rfl
      · exact h.fits publication hm
      · exact ⟨hform, _, hp⟩
    · exact ⟨h.ready, fun publication hm => h.fits publication (List.mem_of_mem_eraseIdx hm)⟩
  · exact ⟨h.ready, h.fits⟩

theorem Holds.commit (h : s.Holds store) (n : Nat) (now : Time) :
    ∃ later, (s.commit n now).Holds later ∧ Change now store later := by
  rw [Session.commit]
  split
  · rename_i id form published hn
    obtain ⟨hform, hp⟩ : (Publication.rendered id form published).Fits :=
      h.fits _ (List.mem_of_getElem? hn)
    obtain ⟨later, hready, hchange⟩ := Service.leads_commitDesign h.ready id hform hp
    exact ⟨later, ⟨hready, fun publication hm => h.fits publication (List.mem_of_mem_eraseIdx hm)⟩,
      hchange⟩
  · exact ⟨store, h, .none⟩

/-- A step changes the designs once, at the time that it reads, or not at all. -/
theorem Holds.step (h : s.Holds store) (e : Event) :
    ∃ later, (s.step e).Holds later ∧
      (later = store ∨ ∃ now ∈ e.time?, Change now store later) := by
  cases e with
  | request request engine now =>
    have hengine : (s.service.withEngine engine).database = .ready store := h.ready
    obtain ⟨later, hready, hchange⟩ := Service.leads_respond hengine request
    exact ⟨later, ⟨hready, h.fits⟩, .inr ⟨now, rfl, hchange⟩⟩
  | lookUp request =>
    refine ⟨store, ⟨h.ready, fun publication hm => ?_⟩, .inl rfl⟩
    rcases List.mem_append.1 hm with hm | hm
    · exact h.fits publication hm
    · exact fits_lookUp (Option.mem_toList.1 hm)
  | render n engine => exact ⟨store, h.render n engine, .inl rfl⟩
  | commit n now =>
    obtain ⟨later, hlater, hchange⟩ := h.commit n now
    exact ⟨later, hlater, .inr ⟨now, rfl, hchange⟩⟩

/-! ## What a run keeps -/

/-- However long a run is, identifiers stay numbered and the store only grows. -/
theorem Holds.run (h : s.Holds store) (hn : store.Numbered) (events : List Event) :
    ∃ later, (s.run events).Holds later ∧ later.Numbered ∧ store.Grows later := by
  induction events generalizing s store with
  | nil => exact ⟨store, h, hn, .refl store⟩
  | cons e events ih =>
    obtain ⟨next, hnext, rfl | ⟨now, -, hchange⟩⟩ := h.step e
    · exact ih hnext hn
    · obtain ⟨later, hlater, hnumbered, hgrows⟩ := ih hnext (hchange.numbered hn)
      exact ⟨later, hlater, hnumbered, hchange.grows.trans hgrows⟩

/-- Designs stay coherent if the clock does not go back behind anything that was saved. -/
theorem Holds.run_coherent (h : s.Holds store) {events : List Event} (hclock : Clocked events)
    (hs : ∀ t ∈ times events, ∀ design ∈ store.designs, design.SavedBy t)
    (hc : ∀ design ∈ store.designs, design.Coherent) :
    ∀ design ∈ (s.run events).designs, design.Coherent := by
  induction events generalizing s store with
  | nil =>
    rw [Session.run, List.foldl_nil, h.designs_eq]
    exact hc
  | cons e events ih =>
    obtain ⟨hnow, hclock⟩ := clocked_cons_iff.1 hclock
    have hrest (t : Time) (ht : t ∈ times events) := hs t (mem_times_cons.2 (.inr ht))
    obtain ⟨next, hnext, rfl | ⟨now, ht, hchange⟩⟩ := h.step e
    · exact ih hnext hclock hrest hc
    · refine ih hnext hclock (fun t ht' => hchange.savedBy (hnow now ht t ht') (hrest t ht')) ?_
      exact hchange.coherent (hs now (mem_times_cons.2 (.inl ht))) hc

theorem holds_start {service : Service} (h : service.database = .ready store) :
    (start service).Holds store :=
  ⟨h, fun _ hm => absurd hm List.not_mem_nil⟩

/-- From an empty store, whatever is requested, whatever the engine answers and in whatever order
the steps are taken: the designs stay ready, every design is coherent, no two have the same
identifier, and an identifier that was in use and then not is not used again. -/
theorem run_designs {service : Service} (hempty : service.database = .ready .empty)
    {events : List Event} (hclock : Clocked events) :
    ∃ store, ((start service).run events).service.database = .ready store ∧
      (∀ design ∈ store.designs, design.Coherent) ∧ store.ids.Nodup ∧
      ∀ first middle last, events = first ++ middle ++ last →
        ∀ id ∈ ((start service).run first).ids, id ∉ ((start service).run (first ++ middle)).ids →
          id ∉ store.ids := by
  have hstart := holds_start hempty
  have hnone (p : Design → Prop) : ∀ design ∈ DesignStore.empty.designs, p design :=
    fun _ hd => absurd hd List.not_mem_nil
  have hcoherent := hstart.run_coherent hclock (fun t _ => hnone _) (hnone _)
  obtain ⟨store, hstore, hnumbered, -⟩ := hstart.run DesignStore.numbered_empty events
  rw [hstore.designs_eq] at hcoherent
  refine ⟨store, hstore.ready, hcoherent, hnumbered.nodup, ?_⟩
  rintro first middle last rfl id hfirst hmiddle
  obtain ⟨one, hone, hnumbered, -⟩ := hstart.run DesignStore.numbered_empty first
  obtain ⟨two, htwo, hnumbered', hgrows⟩ := hone.run hnumbered middle
  obtain ⟨three, hthree, -, hgrows'⟩ := htwo.run hnumbered' last
  rw [hone.ids_eq] at hfirst
  rw [run_append, htwo.ids_eq] at hmiddle
  rw [← hstore.ids_eq, run_append, run_append, hthree.ids_eq]
  exact hgrows.not_mem_ids hnumbered hgrows' hfirst hmiddle

/-! ## A draft that is saved during a publication -/

/-- A service with no designs, that keeps images nowhere. -/
def emptyService : Service where
  settings := ⟨"MailBlocks", "0.1.0", .development, false, "", "/api/v1", "", 8000, 1, "", false, 5,
    10, 30, 3600, [], false, [], [], .info, .json, .disk, "", none, "", none, none, none, "", none,
    .soft, true⟩
  engine := fun _ => .failed ""
  database := .ready .empty
  scan := fun _ => .newestFirst
  images := .disk ⟨[], "", "", none⟩
  imagesNamed := 0

/-- A design is created, and a draft of it is saved while a new version is published. -/
def overlapping : List Event :=
  let form := (Value.object [("editor", .object [])]).write
  let draft := (Value.object [("json", .object [])]).write
  let path := "/api/v1/designs/" ++ identifier 1
  let engine : Engine := fun markup => .rendered (some markup) .null
  [.request ⟨"POST", "/api/v1/designs", "", form, none⟩ engine ⟨0⟩,
    .lookUp ⟨"PUT", path, "", form, none⟩,
    .request ⟨"PUT", path ++ "/draft", "", draft, none⟩ engine ⟨1⟩,
    .render 0 fun _ => .failed "no answer",
    .commit 0 ⟨2⟩]

theorem run_designs_overlapping :
    emptyService.database = .ready .empty ∧ Clocked overlapping ∧
      ((start emptyService).run overlapping).ids = [identifier 1] ∧
      ∃ store, ((start emptyService).run overlapping).service.database = .ready store ∧
        ∀ design ∈ store.designs, design.Coherent := by
  have hempty : emptyService.database = .ready .empty := rfl
  have hclock : Clocked overlapping := by decide
  obtain ⟨store, hready, hcoherent, -⟩ := run_designs hempty hclock
  exact ⟨hempty, hclock, by decide +kernel, store, hready, hcoherent⟩

end Session

end EmailStudio.Api
