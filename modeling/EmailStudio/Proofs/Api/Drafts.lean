import EmailStudio.Proofs.Api.Answer
import EmailStudio.Proofs.Editor.Opening

/-!
# Drafts

A draft is stored whatever it holds, and is read back with its design or opened in the editor. The
main result is `Service.draft_opens`: to store it and to read it always succeeds, and to open it
does unless one of its blocks is stuck.
-/

namespace EmailStudio

/-- A design that is changed is found as changed. -/
theorem DesignStore.get?_update {store : DesignStore} {id : String} {change : Design → Design}
    (h : ∀ d, (change d).id = d.id) :
    (store.update id change).1.get? id = (store.get? id).map change := by
  have hsame : ((fun d : Design => decide (d.id = id)) ∘ fun d => if d.id = id then change d else d)
      = fun d => decide (d.id = id) := by
    funext d
    simp only [Function.comp_apply, apply_ite Design.id, h, ite_self]
  rw [get?, designs_update, List.find?_map, hsame, ← get?]
  refine Option.map_congr fun d hd => if_pos ?_
  simpa using List.find?_some hd

namespace Api

namespace Service

variable {service : Service} {store : DesignStore} {design : Design} {id : String}
  {request : Request} {now : Time}

theorem lookup_eq_ok_iff : service.lookup id = .ok design ↔
    ∃ store, service.database = .ready store ∧ store.get? id = some design := by
  rw [lookup, consult]
  cases service.database with
  | ready store =>
    simp only [Database.ready.injEq, exists_eq_left']
    cases store.get? id <;> simp
  | _ => simp

theorem reaches_of_lookup (h : service.lookup id = .ok design) (endpoint : Endpoint) :
    service.Reaches endpoint := by
  obtain ⟨store, hready, -⟩ := lookup_eq_ok_iff.1 h
  exact reaches_of_ready hready endpoint

/-! ## Reading a design -/

theorem answerAt_getDesign (h : service.lookup id = .ok design) :
    service.answerAt request now (.getDesign id) = (service, .ok (.ok (designValue design []))) := by
  rw [answerAt, h]
  rfl

/-- A design that is found is read. -/
theorem respond_getDesign (h : service.lookup id = .ok design)
    (hleads : service.LeadsTo request (.getDesign id)) :
    (service.respond request now).2.status = 200 := by
  rw [respond_of_ok hleads (reaches_of_lookup h _) (answerAt_getDesign h) (by decide : 200 ≠ 500)]
  rfl

/-- Whether a query asks for the draft. -/
def draftAsked (query : String) : Except Failure Bool :=
  partOf "query" (Intake.optional "draft" false Intake.boolean (Query.fields query))

theorem draftAsked_of_word {query word : String} {asked : Bool}
    (hquery : Query.fields query = [("draft", .text word)])
    (hword : Intake.boolean (.text word) = .good asked) : draftAsked query = .ok asked := by
  have hgiven : Fields.get? "draft" [("draft", .text word)] = some (.text word) := if_pos rfl
  rw [draftAsked, hquery, Intake.optional, hgiven]
  dsimp only
  rw [hword]
  rfl

theorem draftAsked_true : draftAsked "draft=true" = .ok true := by
  have hyes : Intake.yesWords.contains ("true".map Char.toLower) = true := by decide +kernel
  have hfields : Query.fields "draft=true" = [("draft", .text "true")] := by decide +kernel
  exact draftAsked_of_word hfields (if_pos hyes)

theorem draftAsked_false : draftAsked "draft=false" = .ok false := by
  have hyes : ¬Intake.yesWords.contains ("false".map Char.toLower) = true := by decide +kernel
  have hno : Intake.noWords.contains ("false".map Char.toLower) = true := by decide +kernel
  have hfields : Query.fields "draft=false" = [("draft", .text "false")] := by decide +kernel
  exact draftAsked_of_word hfields ((if_neg hyes).trans (if_pos hno))

theorem answerAt_editorData {ofDraft : Bool} (h : service.lookup id = .ok design)
    (hasked : draftAsked request.query = .ok ofDraft) (now : Time) :
    service.answerAt request now (.editorData id) =
      (service, match Editor.Data.ofTemplate
          ((if ofDraft then design.loadableDraft else none).getD design.template) with
        | .ok data => .ok (.ok (finite data.toValue))
        | .error fault => .error (.ofPublish (.fault fault))) := by
  rw [draftAsked] at hasked
  rw [answerAt, hasked]
  simp only [withInput, unchanged, editorData, h, bind, Except.bind]
  rfl

/-- A draft that is an object is opened in the place of the published version. -/
theorem respond_openDraft {draft : Fields} (h : service.lookup id = .ok design)
    (hdraft : design.draft.template = some (.object draft))
    (hleads : service.LeadsTo request (.editorData id)) (hquery : request.query = "draft=true") :
    (service.respond request now).2.status =
      if (Editor.Data.ofTemplate (.object draft)).isOk then 200 else 500 := by
  have hasked : draftAsked request.query = .ok true := hquery ▸ draftAsked_true
  have hloadable : design.loadableDraft = some (.object draft) := by
    rw [Design.loadableDraft, hdraft]
  have hanswer := answerAt_editorData h hasked now
  rw [if_pos rfl, hloadable, Option.getD_some] at hanswer
  have hreach := reaches_of_lookup h (.editorData id)
  cases hdata : Editor.Data.ofTemplate (.object draft) with
  | ok data =>
    rw [hdata] at hanswer
    rw [respond_of_ok hleads hreach hanswer (by decide : 200 ≠ 500)]
    rfl
  | error fault =>
    rw [hdata] at hanswer
    rw [respond_of_error hleads hreach hanswer]
    rfl

/-! ## Saving a draft -/

theorem answerAt_saveDraft {draft : Fields} (h : service.database = .ready store)
    (hfound : store.get? id = some design) (hform : formOf readDraft request = .ok draft)
    (now : Time) :
    service.answerAt request now (.saveDraft id) =
      ({ service with database := .ready (store.saveDraft id (.object draft) now).1 },
        .ok (.ok (.object (([("id", .text design.id), ("draft_saved_at", .text now.text)] : Fields)
          ++ soundnessFields (.object draft))))) := by
  have hsaved : (store.saveDraft id (.object draft) now).2 =
      some (design.withDraft (.object draft) now) := by
    rw [DesignStore.saveDraft, DesignStore.update, hfound]
  rw [answerAt, hform, withInput, saveDraft, transact_eq h]
  dsimp only
  rw [hsaved]
  rfl

/-- A draft is stored beside the published version. -/
theorem respond_saveDraft {draft : Fields} (h : service.lookup id = .ok design)
    (hleads : service.LeadsTo request (.saveDraft id))
    (hform : formOf readDraft request = .ok draft) :
    (service.respond request now).2.status = 200 ∧
      (service.respond request now).1.lookup id =
        .ok (design.withDraft (.object draft) now) := by
  obtain ⟨store, hready, hfound⟩ := lookup_eq_ok_iff.1 h
  have hid : ∀ d, (Design.withDraft (.object draft) now d).id = d.id := fun _ => rfl
  have hlater : (store.saveDraft id (.object draft) now).1.get? id =
      some (design.withDraft (.object draft) now) := by
    rw [DesignStore.saveDraft, DesignStore.get?_update hid, hfound]
    rfl
  rw [respond_of_ok hleads (reaches_of_lookup h _) (answerAt_saveDraft hready hfound hform now)
    (by decide : 200 ≠ 500)]
  exact ⟨rfl, lookup_eq_ok_iff.2 ⟨_, rfl, hlater⟩⟩

/-- Any value opens with a node for each block of its content, unless a block is stuck: that is the
one fault there is. A draft is stored in any case, its design is read as before, and the draft opens
unless it is stuck. -/
theorem draft_opens (v : Value) (now : Time) :
    Editor.Opens (Editor.Data.IsStuck v)
      (fun data => data.content.map (·.type) =
        Editor.typesOf (Fields.get v.fields "content").items) (Editor.Data.ofTemplate v) ∧
    (∀ {service : Service} {id : String} {design : Design} {put : Request} {draft : Fields},
      service.lookup id = .ok design → service.LeadsTo put (.saveDraft id) →
      formOf readDraft put = .ok draft →
      (service.respond put now).2.status = 200 ∧
        (service.respond put now).1.lookup id = .ok (design.withDraft (.object draft) now)) ∧
    ∀ {service : Service} {id : String} {design : Design} {get edit : Request} {draft : Fields},
      service.lookup id = .ok design → design.draft.template = some (.object draft) →
      service.LeadsTo get (.getDesign id) → service.LeadsTo edit (.editorData id) →
      edit.query = "draft=true" →
      (service.respond get now).2.status = 200 ∧
        ((service.respond edit now).2.status = 200 ↔ ¬Editor.Data.IsStuck (.object draft)) ∧
        ((service.respond edit now).2.status = 500 ↔ Editor.Data.IsStuck (.object draft)) := by
  refine ⟨Editor.Data.opens_ofTemplate v, respond_saveDraft, ?_⟩
  intro service id design get edit draft h hdraft hget hedit hquery
  refine ⟨respond_getDesign h hget, ?_⟩
  rw [respond_openDraft h hdraft hedit hquery]
  have hopens := Editor.Data.opens_ofTemplate (.object draft)
  generalize Editor.Data.ofTemplate (.object draft) = opened at hopens
  cases hopens with
  | ok free holds => exact ⟨iff_of_true rfl free, iff_of_false (show 200 ≠ 500 by decide) free⟩
  | error found =>
    exact ⟨iff_of_false (show 500 ≠ 200 by decide) (not_not.2 found), iff_of_true rfl found⟩

/-- A row of icons with an entry whose type is a list. -/
def listedTypeDraft : Fields :=
  [("content", .list [.object [("type", .text "EmailSocial"), ("props", .object [
    ("networks", .list [.object [("type", .list [.text "facebook"]), ("url", .text "x")]])])]])]

/-- The draft of the row of icons that was created. -/
def saveListedType : Request :=
  ⟨"PUT", "/api/v1/designs/" ++ identifier 1 ++ "/draft", "",
    (Value.object [("json", .object listedTypeDraft)]).write, none⟩

def readRow : Request :=
  ⟨"GET", "/api/v1/designs/" ++ identifier 1, "", "", none⟩

def openDraft : Request :=
  ⟨"GET", "/api/v1/designs/" ++ identifier 1 ++ "/editor", "draft=true", "", none⟩

/-- Such a row is stuck. -/
theorem isStuck_listedTypeDraft : Editor.Data.IsStuck (.object listedTypeDraft) :=
  ⟨_, List.mem_singleton_self _, .row rfl ⟨_, List.mem_singleton_self _, rfl⟩⟩

/-- Where the requests about the row lead. -/
theorem leads_listedType :
    Session.rowSession.service.LeadsTo saveListedType (.saveDraft (identifier 1)) ∧
      (Session.rowSession.service.respond saveListedType ⟨1⟩).1.LeadsTo readRow
        (.getDesign (identifier 1)) ∧
      (Session.rowSession.service.respond saveListedType ⟨1⟩).1.LeadsTo openDraft
        (.editorData (identifier 1)) := by
  have hleads : (Session.start Session.emptyService).LeadsTo saveListedType
        (.saveDraft (identifier 1)) ∧
      (Session.start Session.emptyService).LeadsTo readRow (.getDesign (identifier 1)) ∧
      (Session.start Session.emptyService).LeadsTo openDraft (.editorData (identifier 1)) := by
    unfold Session.LeadsTo
    decide +kernel
  have hsettings : Session.rowSession.service.settings = Session.emptyService.settings :=
    Session.settings_run (Session.start Session.emptyService) _
  have row {request : Request} {endpoint : Endpoint}
      (h : (Session.start Session.emptyService).LeadsTo request endpoint) :
      Session.rowSession.service.LeadsTo request endpoint := by
    rw [LeadsTo, hsettings]
    exact h
  have halike := isAlike_respond Session.rowSession.service saveListedType ⟨1⟩
  exact ⟨row hleads.1, halike.leadsTo_iff.2 (row hleads.2.1), halike.leadsTo_iff.2 (row hleads.2.2)⟩

theorem formOf_saveListedType : formOf readDraft saveListedType = .ok listedTypeDraft := by
  have hbody : readBody saveListedType.body = .ok (.object [("json", .object listedTypeDraft)]) :=
    readBody_write (by decide +kernel)
  rw [formOf, documentOf, hbody]
  rfl

/-- The draft is stored and its design is read, but the draft does not open. -/
theorem draft_opens_listedType :
    (Session.rowSession.service.respond saveListedType ⟨1⟩).2.status = 200 ∧
      ((Session.rowSession.service.respond saveListedType ⟨1⟩).1.respond readRow ⟨2⟩).2.status =
        200 ∧
      ((Session.rowSession.service.respond saveListedType ⟨1⟩).1.respond openDraft ⟨2⟩).2.status =
        500 := by
  obtain ⟨hdesigns, -, -⟩ := Session.rowSession_leads
  obtain ⟨design, hd, heq⟩ := List.map_eq_singleton_iff.1 hdesigns
  obtain ⟨hid, -⟩ := Prod.mk.inj heq
  obtain ⟨store, hstore, hnumbered, -⟩ : ∃ store, Session.rowSession.Holds store ∧ _ :=
    (Session.holds_start rfl).run DesignStore.numbered_empty _
  have hlookup : Session.rowSession.service.lookup (identifier 1) = .ok design := by
    rw [← hid]
    refine lookup_eq_ok hstore.ready hnumbered.nodup ?_
    rw [← hstore.designs_eq, hd]
    exact List.mem_singleton_self design
  obtain ⟨hput, hget, hedit⟩ := leads_listedType
  obtain ⟨-, saves, -⟩ := draft_opens (.object listedTypeDraft) ⟨1⟩
  obtain ⟨-, -, opens⟩ := draft_opens (.object listedTypeDraft) ⟨2⟩
  obtain ⟨hsaved, hlater⟩ := saves hlookup hput formOf_saveListedType
  obtain ⟨hread, -, hopened⟩ := opens hlater rfl hget hedit rfl
  exact ⟨hsaved, hread, hopened.2 isStuck_listedTypeDraft⟩

/-- Not every value opens. -/
theorem not_forall_opens : ¬∀ v, ∃ data, Editor.Data.ofTemplate v = .ok data := by
  intro h
  obtain ⟨data, hdata⟩ := h (.object listedTypeDraft)
  have hrefused : Editor.Data.ofTemplate (.object listedTypeDraft) = .error .notKey := rfl
  rw [hrefused] at hdata
  cases hdata

end Service

end Api

end EmailStudio
