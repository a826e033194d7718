import EmailStudio.Migration.DesignTable
import EmailStudio.Proofs.Api.Answer
import EmailStudio.Proofs.Intake.Reading
import EmailStudio.Proofs.Markup.Faults

/-!
# Names of designs

A new design is named by the request that creates it, else by the subject of its template, else by
the default; a request that publishes a new version may name the design again. What requests name
and the default fit the column that names are kept in, but nothing bounds a subject.

The main result is `Session.run_names`: in every session from an empty store no name is empty, and
the names that do not fit are subjects of requests that give no name. All of those are stored.
-/

namespace EmailStudio

/-! ## The column of names -/

/-- Whether a column has room for a text. -/
def ColumnType.HasRoom : ColumnType → String → Prop
  | varchar length, s => s.length ≤ length
  | _, _ => True

/-- A name that is not empty and that the column of names has room for. -/
structure DesignTable.FitsName (name : String) : Prop where
  filled : name ≠ ""
  hasRoom : ∀ column ∈ columns none, column.name = "name" → column.type.HasRoom name

theorem DesignTable.fitsName_iff {name : String} :
    FitsName name ↔ name ≠ "" ∧ name.length ≤ 255 := by
  have hroom : (∀ column ∈ columns none, column.name = "name" → column.type.HasRoom name) ↔
      name.length ≤ 255 := by
    simp [columns, column, ColumnType.HasRoom]
  exact ⟨fun h => ⟨h.filled, hroom.1 h.hasRoom⟩, fun h => ⟨h.1, hroom.2 h.2⟩⟩

/-! ## Subjects -/

/-- The subject of a candidate or of a stored template. -/
def Template.subjectOf (v : Value) : Value :=
  Fields.get (Fields.get v.fields "metadata").fields "subject"

/-- What compiles has a text as its subject, and keeps it. -/
theorem Publisher.exists_subject_of_compile {candidate template : Value} {markup : String}
    (h : compile candidate = .ok (template, markup)) :
    ∃ subject, Template.subjectOf candidate = .text subject ∧
      Template.subjectOf template = .text subject := by
  obtain ⟨hvalid, t, hread, rfl, -⟩ := compile_eq_ok_iff.1 h
  have hsubject : t.metadata.subject.isText = true :=
    (Template.sound_of_ofValue hvalid hread).subject
  obtain ⟨subject, htext⟩ : ∃ subject, Template.subjectOf t.toValue = .text subject := by
    revert hsubject
    show t.metadata.subject.isText = true → ∃ subject, t.metadata.subject = .text subject
    cases t.metadata.subject <;> simp [Value.isText]
  refine ⟨subject, ?_, htext⟩
  have hnormal := Template.normalizes_toValue hvalid hread
  generalize t.toValue = template at hnormal htext
  cases hnormal with
  | intro metadata_eq =>
    rw [Template.subjectOf, Value.fields, metadata_eq]
    exact htext

namespace Api

open DesignTable (FitsName)

theorem fitsName_defaultName : FitsName defaultName :=
  DesignTable.fitsName_iff.2 (by decide +kernel)

/-- Without a name in the request, the subject is the name unless it is empty. -/
theorem nameOf_none {template : Value} {subject : String}
    (h : Template.subjectOf template = .text subject) :
    nameOf none template = if subject = "" then defaultName else subject := by
  have h : Fields.get (Fields.get template.fields "metadata").fields "subject" = .text subject := h
  rw [nameOf, h]
  simp only [String.isEmpty_iff]

/-! ## Names in requests -/

namespace DesignForm

theorem name_of_ofParts {name : Option String} {template : Value} {editor : Option Fields}
    {form : DesignForm} (h : (ofParts name template editor).result = .ok form) :
    form.name = name := by
  unfold ofParts at h
  split at h <;> cases h
  · rfl
  · rfl

/-- A name that a form gives fits. -/
theorem IsRead.fitsName {form : DesignForm} (h : form.IsRead) {name : String}
    (given : form.name = some name) : FitsName name := by
  obtain ⟨request, h⟩ := h
  obtain ⟨document, -, h⟩ := Outcome.bind_eq_ok_iff.1 h
  have h := Reading.within_eq_ok_iff.1 (Outcome.mapError_eq_ok_iff.1 h)
  cases document with
  | object fields =>
    obtain ⟨parts, hparts, hform⟩ := Reading.andThen_eq_ok_iff.1 h
    obtain ⟨_, hfront, _, -, rfl⟩ := Reading.seq_eq_ok_iff.1 hparts
    obtain ⟨_, hsources, _, -, rfl⟩ := Reading.seq_eq_ok_iff.1 hfront
    obtain ⟨_, hfirst, _, -, rfl⟩ := Reading.seq_eq_ok_iff.1 hsources
    obtain ⟨_, hname, rfl⟩ := Reading.map_eq_ok_iff.1 hfirst
    rw [name_of_ofParts hform] at given
    refine Intake.optional_induction (P := fun read => read = some name → FitsName name) hname
      nofun (fun v hv hread => ?_) given
    subst hread
    have hlength := Intake.length_of_textOfLength (Intake.nullable_eq_ok_iff.1 hv).2
    exact DesignTable.fitsName_iff.2
      ⟨fun hempty => absurd hlength.1 (by rw [hempty]; decide), hlength.2⟩
  | _ => cases h

end DesignForm

/-! ## Names after a request -/

namespace Service

variable {service : Service} {store : DesignStore} {request : Request} {now : Time}
  {p : String → Prop}

/-- A request that names a new design by its subject: the form gives no name, and what it holds is
published. -/
structure NamesBySubject (service : Service) (request : Request) (subject : String) : Prop where
  leads : service.LeadsTo request .createDesign
  filled : subject ≠ ""
  published : ∃ (source : TemplateSource) (candidate : Value) (published : Published),
    formOf DesignForm.read request = .ok ⟨none, source⟩ ∧ candidateOf source = .ok candidate ∧
      Template.subjectOf candidate = .text subject ∧
      service.publisher.publish candidate = .ok published

/-- The designs of a service came from a store, and names that were not in the store are of some
kind. -/
def NamesFrom (store : DesignStore) (p : String → Prop) (service : Service) : Prop :=
  ∃ later, service.database = .ready later ∧
    ∀ design ∈ later.designs, (∃ old ∈ store.designs, old.name = design.name) ∨ p design.name

theorem namesFrom_self (h : service.database = .ready store) : service.NamesFrom store p :=
  ⟨store, h, fun design hd => .inl ⟨design, hd, rfl⟩⟩

theorem namesFrom_withInput {α : Type} {input : Except Failure α} {next : α → Service × Answer}
    (h : service.database = .ready store)
    (hnext : ∀ a, input = .ok a → (next a).1.NamesFrom store p) :
    (service.withInput input next).1.NamesFrom store p := by
  cases input with
  | ok a => exact hnext a rfl
  | error failure => exact namesFrom_self h

/-- A change of one design keeps the other names. -/
theorem namesFrom_update {id : String} {change : Design → Design} {later : DesignStore}
    (h : service.database = .ready later) (hlater : later = (store.update id change).1)
    (hchange : ∀ old ∈ store.designs, (change old).name = old.name ∨ p (change old).name) :
    service.NamesFrom store p := by
  refine ⟨later, h, fun design hd => ?_⟩
  subst hlater
  rcases DesignStore.mem_designs_update hd with ⟨hd, -⟩ | ⟨old, hold, -, rfl⟩
  · exact .inl ⟨design, hd, rfl⟩
  · exact (hchange old hold).imp_left fun hname => ⟨old, hold, hname.symm⟩

theorem namesFrom_createDesign (h : service.database = .ready store) {name : Option String}
    {published : Published} (hp : p (nameOf name published.template)) :
    (service.createDesign name published now).1.NamesFrom store p := by
  rw [createDesign, transact_eq h]
  refine ⟨_, rfl, fun design hd => ?_⟩
  rcases DesignStore.mem_designs_create.1 hd with hd | rfl
  · exact .inl ⟨design, hd, rfl⟩
  · exact .inr hp

theorem namesFrom_commitDesign (h : service.database = .ready store) (id : String)
    {name : Option String} (published : Published) (hp : ∀ given, name = some given → p given) :
    (service.commitDesign id name published now).1.NamesFrom store p := by
  rw [commitDesign, transact_eq h]
  have hlater : (store.republish id name published.template published.markup
      published.rendering.html now).1 = (store.update id (.republish name
        published.template published.markup published.rendering.html now)).1 := rfl
  refine namesFrom_update ?_ hlater fun old _ => ?_
  · dsimp only
    split <;> rfl
  · cases name with
    | none => exact .inl rfl
    | some given => exact .inr (hp given rfl)

theorem namesFrom_saveDraft (h : service.database = .ready store) (id : String) (draft : Fields) :
    (service.saveDraft id draft now).1.NamesFrom store p := by
  rw [saveDraft, transact_eq h]
  have hlater : (store.saveDraft id (.object draft) now).1 =
      (store.update id (.withDraft (.object draft) now)).1 := rfl
  refine namesFrom_update ?_ hlater fun old _ => .inl rfl
  dsimp only
  split <;> rfl

theorem namesFrom_deleteDesign (h : service.database = .ready store) (id : String) :
    (service.deleteDesign id).1.NamesFrom store p := by
  rw [deleteDesign, transact_eq h]
  exact ⟨_, rfl, fun design hd => .inl ⟨design, (DesignStore.mem_designs_delete.1 hd).1, rfl⟩⟩

theorem namesFrom_uploadImage (h : service.database = .ready store) (form : UploadForm) :
    (service.uploadImage form now).1.NamesFrom store p := by
  rw [uploadImage]
  split
  · exact namesFrom_self h
  · dsimp only
    split <;> exact namesFrom_self h

/-- A new design has the name of its form or the default, or it is named by its subject. -/
theorem nameOf_cases (hleads : service.LeadsTo request .createDesign) {form : DesignForm}
    {published : Published} (hform : formOf DesignForm.read request = .ok form)
    (hpublish : form.publish service.publisher = .ok published) :
    FitsName (nameOf form.name published.template) ∨
      service.NamesBySubject request (nameOf form.name published.template) := by
  obtain ⟨name, source⟩ := form
  cases name with
  | some name => exact .inl (DesignForm.IsRead.fitsName ⟨request, hform⟩ rfl)
  | none =>
    obtain ⟨candidate, hsource, hpublish⟩ := Outcome.bind_eq_ok_iff.1 hpublish
    have hsource := Outcome.mapError_eq_ok_iff.1 hsource
    obtain ⟨subject, hcandidate, htemplate⟩ :=
      Publisher.exists_subject_of_compile (Publisher.compile_of_publish hpublish)
    rw [nameOf_none htemplate]
    split_ifs with hempty
    · exact .inl fitsName_defaultName
    · exact .inr ⟨hleads, hempty, source, candidate, published, hform, hsource, hcandidate,
        hpublish⟩

/-- A name that a request brings in fits, unless the request names a new design by its subject. -/
theorem namesFrom_answerAt (h : service.database = .ready store) {endpoint : Endpoint}
    (hleads : service.LeadsTo request endpoint) :
    (service.answerAt request now endpoint).1.NamesFrom store
      fun name => FitsName name ∨ service.NamesBySubject request name := by
  cases endpoint with
  | createDesign =>
    exact namesFrom_withInput h fun form hform => namesFrom_withInput h fun published hpublish =>
      namesFrom_createDesign h (nameOf_cases hleads hform (Outcome.mapError_eq_ok_iff.1 hpublish))
  | publishDesign id =>
    exact namesFrom_withInput h fun form hform => namesFrom_withInput h fun _ _ =>
      namesFrom_withInput h fun published _ =>
        namesFrom_commitDesign h id published fun given hgiven =>
          .inl (DesignForm.IsRead.fitsName ⟨request, hform⟩ hgiven)
  | saveDraft id => exact namesFrom_withInput h fun draft _ => namesFrom_saveDraft h id draft
  | deleteDesign id => exact namesFrom_deleteDesign h id
  | uploadImage => exact namesFrom_withInput h fun form _ => namesFrom_uploadImage h form
  | validate | compile | preview | listDesigns | editorData =>
    exact namesFrom_withInput h fun _ _ => namesFrom_self h
  | health | live | root | manual | constraints | downloadImage | getDesign =>
    exact namesFrom_self h

theorem namesFrom_respond (h : service.database = .ready store) (request : Request) (now : Time) :
    (service.respond request now).1.NamesFrom store
      fun name => FitsName name ∨ service.NamesBySubject request name := by
  cases hdest : Destination.of service.settings.apiStart
      (service.settings.environment = .development) request.method request.path with
  | endpoint endpoint =>
    rw [respond_endpoint h hdest]
    exact namesFrom_answerAt h hdest
  | wrongMethod | redirect | nowhere =>
    rw [respond, hdest]
    exact namesFrom_self h

/-- A design that is named by its subject is stored under it, however long the subject is. -/
theorem NamesBySubject.respond {subject : String} (named : service.NamesBySubject request subject)
    (h : service.database = .ready store) (now : Time) :
    ∃ design, design.name = subject ∧
      (service.respond request now).1.database =
        .ready ⟨store.designs ++ [design], store.created + 1⟩ := by
  obtain ⟨source, candidate, published, hform, hsource, hsubject, hpublish⟩ := named.published
  obtain ⟨subject', hcandidate, htemplate⟩ :=
    Publisher.exists_subject_of_compile (Publisher.compile_of_publish hpublish)
  cases hsubject.symm.trans hcandidate
  have hanswer : service.answerAt request now .createDesign =
      service.createDesign none published now := by
    rw [answerAt, hform]
    simp only [withInput, DesignForm.publish, hsource, Except.mapError, bind, Except.bind, hpublish]
  rw [respond_endpoint h named.leads, hanswer, createDesign, transact_eq h]
  refine ⟨_, ?_, rfl⟩
  exact (nameOf_none htemplate).trans (if_neg named.filled)

end Service

/-! ## Names in sessions -/

namespace Session

/-- A step that names a new design by its subject. -/
def NamesBySubject (s : Session) : Event → String → Prop
  | .request request engine _, subject =>
    (s.service.withEngine engine).NamesBySubject request subject
  | _, _ => False

variable {s : Session} {store : DesignStore}

theorem Holds.step_names (h : s.Holds store) (e : Event) :
    (s.step e).service.NamesFrom store fun name => FitsName name ∨ s.NamesBySubject e name := by
  cases e with
  | request request engine now =>
    have hready : (s.service.withEngine engine).database = .ready store := h.ready
    exact Service.namesFrom_respond hready request now
  | lookUp request => exact Service.namesFrom_self h.ready
  | render n engine => exact Service.namesFrom_self (h.render n engine).ready
  | commit n now =>
    rw [Session.step, Session.commit]
    split
    · rename_i id form published hn
      obtain ⟨hform, -⟩ : (Publication.rendered id form published).Fits :=
        h.fits _ (List.mem_of_getElem? hn)
      exact Service.namesFrom_commitDesign h.ready id published fun given hgiven =>
        .inl (hform.fitsName hgiven)
    · exact Service.namesFrom_self h.ready

/-- A name at the end of a run was there at its start, or it fits, or a step of the run named a
design by its subject. -/
theorem Holds.names_of_run (h : s.Holds store) (events : List Event) :
    ∀ design ∈ (s.run events).designs, (∃ old ∈ store.designs, old.name = design.name) ∨
      FitsName design.name ∨ ∃ first e last, events = first ++ e :: last ∧
        (s.run first).NamesBySubject e design.name := by
  induction events generalizing s store with
  | nil =>
    intro design hd
    rw [run_nil, h.designs_eq] at hd
    exact .inl ⟨design, hd, rfl⟩
  | cons e events ih =>
    intro design hd
    obtain ⟨next, hnext, -⟩ := h.step e
    obtain ⟨_, hready, hnames⟩ := h.step_names e
    cases hready.symm.trans hnext.ready
    obtain ⟨old, hold, hname⟩ | hfits | ⟨first, other, last, rfl, hnamed⟩ := ih hnext design hd
    · have hnew := hnames old hold
      rw [hname] at hnew
      exact hnew.imp_right (Or.imp_right fun hnamed => ⟨[], e, events, rfl, hnamed⟩)
    · exact .inr (.inl hfits)
    · exact .inr (.inr ⟨e :: first, other, last, rfl, hnamed⟩)

theorem mem_names_of_namesBySubject (h : s.Holds store) {e : Event} {subject : String}
    (named : s.NamesBySubject e subject) : subject ∈ (s.step e).designs.map (·.name) := by
  cases e with
  | request request engine now =>
    have hready : (s.service.withEngine engine).database = .ready store := h.ready
    have named : (s.service.withEngine engine).NamesBySubject request subject := named
    obtain ⟨design, hname, hlater⟩ := named.respond hready now
    rw [designs, step, hlater, List.map_append, ← hname]
    exact List.mem_append_right _ (List.mem_singleton_self _)
  | lookUp | render | commit => exact named.elim

/-- From an empty store, whatever is requested, whatever the engine answers and in whatever order
the steps are taken: no name is empty, and every name fits its column unless a step of the run named
a design by its subject. Such a step stores its subject as a name, however long it is, so that all
names of all times fit exactly if all those subjects do. -/
theorem run_names {service : Service} (hempty : service.database = .ready .empty)
    (events : List Event) :
    (∀ design ∈ ((start service).run events).designs, design.name ≠ "" ∧
      (FitsName design.name ∨ ∃ first e last, events = first ++ e :: last ∧
        ((start service).run first).NamesBySubject e design.name)) ∧
    (∀ {e : Event} {subject : String}, ((start service).run events).NamesBySubject e subject →
      subject ∈ ((start service).run (events ++ [e])).designs.map (·.name)) ∧
    ((∀ first last, events = first ++ last →
        ∀ design ∈ ((start service).run first).designs, FitsName design.name) ↔
      ∀ first e last subject, events = first ++ e :: last →
        ((start service).run first).NamesBySubject e subject → subject.length ≤ 255) := by
  have hstart := holds_start hempty
  have hnames (events : List Event) (design : Design)
      (hd : design ∈ ((start service).run events).designs) :
      FitsName design.name ∨ ∃ first e last, events = first ++ e :: last ∧
        ((start service).run first).NamesBySubject e design.name :=
    (hstart.names_of_run events design hd).resolve_left fun ⟨_, hold, _⟩ =>
      absurd hold List.not_mem_nil
  have hfilled {s : Session} {e : Event} {subject : String} (named : s.NamesBySubject e subject) :
      subject ≠ "" := by
    cases e with
    | request => exact named.filled
    | lookUp | render | commit => exact named.elim
  have hstored (events : List Event) {e : Event} {subject : String}
      (named : ((start service).run events).NamesBySubject e subject) :
      subject ∈ ((start service).run (events ++ [e])).designs.map (·.name) := by
    obtain ⟨store, hstore, -⟩ := hstart.run DesignStore.numbered_empty events
    rw [run_append]
    exact mem_names_of_namesBySubject hstore named
  refine ⟨fun design hd => ?_, fun named => hstored events named, fun hfits => ?_, fun hshort => ?_⟩
  · have hname := hnames events design hd
    refine ⟨?_, hname⟩
    obtain hfits | ⟨first, e, last, -, named⟩ := hname
    · exact hfits.filled
    · exact hfilled named
  · rintro first e last subject rfl named
    obtain ⟨design, hd, rfl⟩ := List.mem_map.1 (hstored first named)
    have hsplit : first ++ e :: last = (first ++ [e]) ++ last := by
      rw [List.append_assoc, List.singleton_append]
    exact (DesignTable.fitsName_iff.1 (hfits _ last hsplit design hd)).2
  · rintro first last rfl design hd
    obtain hfits | ⟨before, e, after, rfl, named⟩ := hnames first design hd
    · exact hfits
    · have hsplit : before ++ e :: after ++ last = before ++ e :: (after ++ last) := by
        rw [List.append_assoc, List.cons_append]
      exact DesignTable.fitsName_iff.2 ⟨hfilled named, hshort before e _ _ hsplit named⟩

/-- A template with a subject and no blocks. -/
def plainAbout (subject : String) : Value :=
  .object [("version", .text formatVersion),
    ("metadata", .object [("subject", .text subject), ("preheader", .text "")]),
    ("settings", .object [("backgroundColor", .text ""), ("contentWidth", .int Catalog.maxWidth),
      ("fontFamily", .text "")]),
    ("content", .list [])]

/-- Whatever its subject is, it is published. -/
theorem exists_publish_plainAbout (subject : String) :
    ∃ published, emptyService.publisher.publish (plainAbout subject) = .ok published := by
  have hvalid : Template.isValid (plainAbout subject) = true := rfl
  obtain ⟨t, hread, hnone⟩ :
      ∃ t, Template.ofValue (plainAbout subject) = .ok t ∧ t.content = [] := ⟨_, rfl, rfl⟩
  have hescapable : t.Escapable := by
    rw [Template.Escapable, hnone]
    exact fun _ hb => absurd hb List.not_mem_nil
  obtain ⟨markup, hmarkup⟩ :=
    (Template.sound_of_ofValue hvalid hread).needsText_compile.returns hescapable
  have hcompile := Publisher.compile_eq_ok_iff.2 ⟨hvalid, t, hread, rfl, hmarkup⟩
  exact ⟨_, (emptyService.publisher.publish_of_compile hcompile).trans rfl⟩

/-- A text of some length. -/
def letters (n : Nat) : String := String.ofList (List.replicate n 'x')

theorem toList_letters (n : Nat) : (letters n).toList = List.replicate n 'x' :=
  String.toList_ofList

theorem length_letters (n : Nat) : (letters n).length = n := by
  rw [letters, String.length_ofList, List.length_replicate]

/-- A subject with one character more than the column of names has room for. -/
def longSubject : String := letters 256

theorem length_longSubject : longSubject.length = 256 :=
  length_letters 256

theorem longSubject_ne_empty : longSubject ≠ "" := by
  intro h
  have hlength := length_longSubject
  rw [h] at hlength
  exact absurd hlength (by decide)

/-- A request to create a design with a long subject. It gives no name. -/
def requestLong : Request :=
  ⟨"POST", "/api/v1/designs", "", (Value.object [("json", plainAbout longSubject)]).write, none⟩

def createLong : Event :=
  .request requestLong emptyService.engine ⟨0⟩

theorem namesBySubject_long : (start emptyService).NamesBySubject createLong longSubject where
  leads := by
    unfold Service.LeadsTo
    decide +kernel
  filled := longSubject_ne_empty
  published := by
    have hgiven : plainAbout longSubject ≠ .null := nofun
    have hread : (Value.read (Value.object [("json", plainAbout longSubject)]).spelling).toOption =
        some (.object [("json", plainAbout longSubject)]) := by
      simp only [plainAbout, longSubject, Value.spelling, Value.spellingFields, Text.spelling,
        toList_letters]
      decide +kernel
    have hbody : readBody requestLong.body = .ok (.object [("json", plainAbout longSubject)]) :=
      Service.readBody_write hread
    have hform := Service.formOf_template hgiven hbody
    obtain ⟨published, hpublish⟩ := exists_publish_plainAbout longSubject
    exact ⟨_, _, published, hform, rfl, rfl, hpublish⟩

/-- The subject of the first design is stored as its name. -/
theorem run_names_long :
    emptyService.database = .ready .empty ∧ longSubject.length = 256 ∧
      longSubject ∈ ((start emptyService).run [createLong]).designs.map (·.name) ∧
      ∀ design ∈ ((start emptyService).run [createLong]).designs, design.name ≠ "" := by
  have hempty : emptyService.database = .ready .empty := rfl
  obtain ⟨-, stored, -⟩ := run_names hempty []
  obtain ⟨filled, -, -⟩ := run_names hempty [createLong]
  exact ⟨hempty, length_longSubject, stored namesBySubject_long,
    fun design hd => (filled design hd).1⟩

theorem not_forall_fitsName :
    ¬∀ (service : Service) (events : List Event), service.database = .ready .empty →
      ∀ design ∈ ((start service).run events).designs, FitsName design.name := by
  intro h
  have hempty : emptyService.database = .ready .empty := rfl
  obtain ⟨design, hd, hname⟩ :=
    List.mem_map.1 (mem_names_of_namesBySubject (holds_start hempty) namesBySubject_long)
  have hfits := h emptyService [createLong] hempty design hd
  rw [hname] at hfits
  have hshort := (DesignTable.fitsName_iff.1 hfits).2
  rw [length_longSubject] at hshort
  exact absurd hshort (by decide)

end Session

end Api

end EmailStudio
