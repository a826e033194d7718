import EmailStudio.Proofs.Document.Alike
import EmailStudio.Proofs.Publishing.Publisher
import Mathlib.Logic.Relation

/-!
# What edits leave as it is

Alike candidates have the same issues, each worded in the same way, and those without issues read as
the same template; this is shown part by part, along `Part.Alike`. The main result is
`Publisher.outcome_of_edits`: however a candidate is edited where edits do not count, validation
says the same about it, and it is read and compiled as before.
-/

namespace EmailStudio

namespace Part.Alike

variable {fields others : Fields} {v w : Value}

/-! ## Issues of props -/

theorem flatMap_zipIdx_eq {α β : Type} {f : α → Nat → List β} {xs ys : List α}
    (h : List.Forall₂ (fun x y => ∀ n, f x n = f y n) xs ys) (start : Nat) :
    ((xs.zipIdx start).flatMap fun (x, n) => f x n) =
      (ys.zipIdx start).flatMap fun (y, n) => f y n := by
  induction h generalizing start with
  | nil => rfl
  | cons hxy _ ih =>
    rw [List.zipIdx_cons, List.zipIdx_cons, List.flatMap_cons, List.flatMap_cons, ih]
    exact congrArg (· ++ _) (hxy start)

theorem issues_network (h : Alike network v w) (index : Nat) :
    Rule.network index v = Rule.network index w := by
  obtain rfl | ⟨fields, others, rfl, rfl, h⟩ := h.eq_or_objects rfl
  · rfl
  · have htype : fields.get "type" = others.get "type" := h.get_eq rfl (by simp)
    have hurl : fields.get "url" = others.get "url" := h.get_eq rfl (by simp)
    rw [Rule.network, Rule.network, htype, hurl]

theorem issues_networks (h : Alike networks (fields.get "networks") (others.get "networks")) :
    Rule.networks fields = Rule.networks others := by
  unfold Rule.networks
  obtain heq | ⟨xs, ys, hxs, hys, hitems⟩ := h.eq_or_lists rfl
  · rw [heq]
  · rw [hxs, hys]
    exact flatMap_zipIdx_eq (hitems.imp fun _ _ hitem => hitem.issues_network) 0

/-- The rule of a kind looks at no other props than those that the kind knows. -/
theorem issues_props {kind : Kind}
    (h : Alike (props (some kind)) (.object fields) (.object others)) :
    kind.rule fields = kind.rule others := by
  have hget : ∀ key ∈ kind.knownProps.map (·.1), fields.get key = others.get key :=
    fun key hkey => h.get_eq rfl (leaf_mem_parts hkey)
  cases kind with
  | social =>
    have hlist : Alike networks (fields.get "networks") (others.get "networks") :=
      h.get rfl (List.mem_append_right _ List.mem_cons_self)
    have hurl : ∀ name ∈ Catalog.socialNetworks,
        Rule.text fields (Catalog.urlField name) = Rule.text others (Catalog.urlField name) :=
      fun name hname => by rw [Rule.text, Rule.text, Rule.optional, Rule.optional,
        h.get_eq rfl (url_mem_parts hname)]
    simp (disch := decide) only [Kind.rule, Rule.social, Rule.number, Rule.choice, Rule.optional,
      hget, hlist.issues_networks, List.flatMap_congr hurl]
  | _ =>
    simp (disch := decide) only [Kind.rule, Rule.header, Rule.textBlock, Rule.image, Rule.button,
      Rule.columns, Rule.spacer, Rule.divider, Rule.footer, Rule.number, Rule.choice, Rule.text,
      Rule.boolean, Rule.optional, Rule.required, Rule.source, hget]

/-! ## Issues of blocks -/

/-- Alike blocks have the same problem, or are judged further as of one kind with alike props. -/
theorem judgedProps (h : Alike block (.object fields) (.object others)) :
    (∃ problem, Block.judgedProps fields = .error problem ∧
      Block.judgedProps others = .error problem) ∨
    ∃ (kind : Kind) (given other : Fields), Block.judgedProps fields = .ok (kind, given) ∧
      Block.judgedProps others = .ok (kind, other) ∧
      Alike (props (some kind)) (.object given) (.object other) := by
  have htype : fields.get "type" = others.get "type" := h.get_eq rfl (by simp)
  have hprops : Alike (props (Kind.ofValue? (fields.get "type"))) (fields.get "props")
      (others.get "props") := h.get rfl (by simp)
  unfold Block.judgedProps
  rw [← htype]
  cases hkind : Kind.ofValue? (fields.get "type") with
  | none => exact .inl ⟨_, rfl, rfl⟩
  | some kind =>
    rw [hkind] at hprops
    obtain heq | ⟨given, other, hgiven, hother, hprops⟩ := hprops.eq_or_objects rfl
    · rw [← heq]
      cases fields.get "props" with
      | object given => exact .inr ⟨kind, given, given, rfl, rfl, .same _ _⟩
      | _ => exact .inl ⟨_, rfl, rfl⟩
    · rw [hgiven, hother]
      exact .inr ⟨kind, given, other, rfl, rfl, hprops⟩

theorem issuesOfItems_eq {depth : Int} {xs ys : List Value}
    (h : List.Forall₂ (fun x y => Block.issues (depth + 1) x = Block.issues (depth + 1) y) xs ys)
    (index : Nat) : Block.issuesOfItems depth index xs = Block.issuesOfItems depth index ys := by
  induction h generalizing index with
  | nil => rfl
  | cons hxy _ ih => rw [Block.issuesOfItems, Block.issuesOfItems, hxy, ih]

theorem issuesOfChildren {depth : Int} (h : Alike blocks v w)
    (each : ∀ item ∈ v.items, ∀ other : Value, Alike block item other →
      Block.issues (depth + 1) item = Block.issues (depth + 1) other) :
    Block.issuesOfChildren depth v = Block.issuesOfChildren depth w := by
  obtain rfl | ⟨xs, ys, rfl, rfl, hitems⟩ := h.eq_or_lists rfl
  · rfl
  · have hboth := (List.forall₂_and_left _ _).2 ⟨fun item => each item, hitems⟩
    exact issuesOfItems_eq (hboth.imp fun item _ hother => hother.1 _ hother.2) 0

theorem issues_block (h : Alike block v w) (depth : Int) :
    Block.issues depth v = Block.issues depth w := by
  induction v using Value.inductionOnChildren generalizing w depth with
  | step v ih =>
    obtain rfl | ⟨fields, others, rfl, rfl, h⟩ := h.eq_or_objects rfl
    · rfl
    · rw [Block.issues, Block.issues, Block.issuesOfChildrenIn_eq, Block.issuesOfChildrenIn_eq]
      obtain ⟨problem, hproblem, hother⟩ | ⟨kind, given, other, hgiven, hother, halike⟩ :=
        h.judgedProps
      · rw [hproblem, hother]
      · rw [hgiven, hother]
        dsimp only
        rw [halike.issues_props]
        by_cases hcol : kind = .columns
        · have hkind := (Block.judgedProps_eq_ok_iff.1 hgiven).1
          have hchildren : Alike blocks (fields.get "children") (others.get "children") :=
            h.get rfl (by rw [hkind, hcol]; simp)
          rw [hchildren.issuesOfChildren fun item hitem _ hitem' => ih item hitem hitem' _]
        · rw [if_neg hcol, if_neg hcol]

/-! ## Templates -/

theorem issues_metadata (h : Alike metadata v w) :
    Template.metadataIssues v = Template.metadataIssues w := by
  obtain rfl | ⟨fields, others, rfl, rfl, h⟩ := h.eq_or_objects rfl
  · rfl
  · have hsubject : fields.get "subject" = others.get "subject" := h.get_eq rfl (by simp)
    have hpreheader : fields.get "preheader" = others.get "preheader" := h.get_eq rfl (by simp)
    simp only [Template.metadataIssues, List.filterMap_cons, List.filterMap_nil, hsubject,
      hpreheader]

theorem issues_settings (h : Alike settings v w) :
    Template.settingsIssues v = Template.settingsIssues w := by
  obtain rfl | ⟨fields, others, rfl, rfl, h⟩ := h.eq_or_objects rfl
  · rfl
  · have hcolor : fields.get "backgroundColor" = others.get "backgroundColor" :=
      h.get_eq rfl (by simp)
    have hwidth : fields.get "contentWidth" = others.get "contentWidth" := h.get_eq rfl (by simp)
    have hfont : fields.get "fontFamily" = others.get "fontFamily" := h.get_eq rfl (by simp)
    simp only [Template.settingsIssues, hcolor, hwidth, hfont]

theorem issues_content (h : Alike blocks v w) :
    Template.contentIssues v = Template.contentIssues w := by
  obtain rfl | ⟨xs, ys, rfl, rfl, hitems⟩ := h.eq_or_lists rfl
  · rfl
  · have hissues := hitems.imp fun _ _ hitem => hitem.issues_block 1
    exact flatMap_zipIdx_eq (hissues.imp fun _ _ heq n => congrArg (List.map (Issue.block n)) heq) 0

theorem issues_template (h : Alike template v w) : Template.issues v = Template.issues w := by
  obtain rfl | ⟨fields, others, rfl, rfl, h⟩ := h.eq_or_objects rfl
  · rfl
  · have hversion : fields.get "version" = others.get "version" := h.get_eq rfl (by simp)
    have hmetadata : Alike metadata (fields.get "metadata") (others.get "metadata") :=
      h.get rfl (by simp)
    have hsettings : Alike settings (fields.get "settings") (others.get "settings") :=
      h.get rfl (by simp)
    have hcontent : Alike blocks (fields.get "content") (others.get "content") :=
      h.get rfl (by simp)
    rw [Template.issues, Template.issues, hversion, hmetadata.issues_metadata,
      hsettings.issues_settings, hcontent.issues_content]

/-- A candidate without issues spells out all that is not in its blocks. -/
theorem present_eq {key : String} {default : Value} (h : fields.get key = others.get key)
    (hgiven : fields.get key ≠ .null) :
    fields.present key default = others.present key default := by
  rw [Template.present_of_ne_null hgiven, Template.present_of_ne_null (h ▸ hgiven), h]

/-- What a candidate without issues is read as, every candidate like it is read as. -/
theorem ofValue_template {t : Template} (h : Alike template v w)
    (hvalid : Template.isValid v = true) (ht : Template.ofValue v = .ok t) :
    Template.ofValue w = .ok t := by
  obtain ⟨fields, rfl, hversion, hmetadata, hsettings, -⟩ :=
    Template.issues_eq_nil_iff.1 (Template.isValid_iff.1 hvalid)
  obtain ⟨m, hm, hsubject, hpreheader⟩ := Template.metadataIssues_eq_nil_iff.1 hmetadata
  obtain ⟨s, hs, hcolor, hwidth, hfont⟩ := Template.settingsIssues_eq_nil_iff.1 hsettings
  obtain rfl | ⟨_, others, heq, rfl, h⟩ := h.eq_or_objects rfl
  · exact ht
  · cases heq
    obtain ⟨_, hm', _, hs', content, hc, rfl⟩ := Template.ofValue_eq_ok_iff.1 ht
    cases (Fields.objectAt_of_get hm).symm.trans hm'
    cases (Fields.objectAt_of_get hs).symm.trans hs'
    have hmetadata : Alike metadata (fields.get "metadata") (others.get "metadata") :=
      h.get rfl (by simp)
    have hsettings : Alike settings (fields.get "settings") (others.get "settings") :=
      h.get rfl (by simp)
    have hcontent : Alike blocks (fields.get "content") (others.get "content") :=
      h.get rfl (by simp)
    obtain ⟨m', hm', hmalike⟩ := hmetadata.objectAt rfl hm'
    obtain ⟨s', hs', hsalike⟩ := hsettings.objectAt rfl hs'
    rw [Template.ofValue_of hm' hs' (hcontent.listIn hc fun _ _ _ _ halike hb => halike.ofValue hb)]
    have hversion : fields.get "version" ≠ .null := by
      rw [Template.versionIssues_eq_nil_iff.1 hversion]
      exact nofun
    have hwidth : s.get "contentWidth" ≠ .null := by
      intro hnull
      rw [hnull] at hwidth
      cases hwidth
    simp only [Template.assembled, present_eq (h.get_eq rfl (by simp)) hversion,
      present_eq (hmalike.get_eq rfl (by simp)) (Value.ne_null_of_isText hsubject),
      present_eq (hmalike.get_eq rfl (by simp)) (Value.ne_null_of_isText hpreheader),
      present_eq (hsalike.get_eq rfl (by simp)) (Value.ne_null_of_isText hcolor),
      present_eq (hsalike.get_eq rfl (by simp)) hwidth,
      present_eq (hsalike.get_eq rfl (by simp)) (Value.ne_null_of_isText hfont)]

theorem compile (h : Alike template v w) : Publisher.compile w = Publisher.compile v := by
  have hvalid : Template.isValid w = Template.isValid v := by
    rw [Template.isValid, Template.isValid, h.issues_template]
  cases hv : Template.isValid v with
  | false =>
    rw [Publisher.compile_of_errors hv, Publisher.compile_of_errors (hvalid.trans hv),
      Template.errors, Template.errors, h.issues_template]
  | true =>
    obtain ⟨t, ht, -⟩ := Template.sound_of_isValid hv
    rw [Publisher.compile_of_isValid hv ht,
      Publisher.compile_of_isValid (hvalid.trans hv) (h.ofValue_template hv ht)]

end Part.Alike

namespace Publisher

open EmailStudio.Part

/-- However often it is edited, a candidate is judged, read and compiled as before. -/
theorem outcome_of_edits {candidate edited : Value}
    (h : Relation.ReflTransGen (Edits template) candidate edited) :
    Template.errors edited = Template.errors candidate ∧
      (Template.isValid candidate = true →
        ∃ t, Template.ofValue candidate = .ok t ∧ Template.ofValue edited = .ok t) ∧
      compile edited = compile candidate := by
  induction h with
  | refl =>
    refine ⟨rfl, fun hvalid => ?_, rfl⟩
    obtain ⟨t, ht, -⟩ := Template.sound_of_isValid hvalid
    exact ⟨t, ht, ht⟩
  | @tail before after _ hedit ih =>
    have halike := hedit.alike
    obtain ⟨herrors, hread, hcompile⟩ := ih
    have herrors' : Template.errors after = Template.errors before :=
      congrArg (List.map Issue.text) halike.issues_template.symm
    refine ⟨herrors'.trans herrors, fun hvalid => ?_, halike.compile.trans hcompile⟩
    have hbefore : Template.isValid before = true :=
      Template.errors_eq_nil_iff.1 (herrors.trans (Template.errors_eq_nil_iff.2 hvalid))
    obtain ⟨t, ht, hbt⟩ := hread hvalid
    exact ⟨t, ht, halike.ofValue_template hbefore hbt⟩

/-- A row of icons and a text in columns. -/
def plainRow : Value :=
  Template.candidate [.object [("type", .text "EmailColumns"), ("props", .object []),
    ("children", .list [
      .object [("type", .text "EmailSocial"), ("props", .object [
        ("networks", .list [.object [("type", .text "facebook"), ("url", .null)]]),
        ("twitterUrl", .text "t")])],
      .object [("type", .text "EmailText"), ("props", .object [("content", .text "<b>Hi</b>"),
        ("note", .int 1)])]])]]

/-- The same with its origin, with a row that holds a block, with a label for the icon, whose
address is left out, and with a text that has a null for its size and no note. -/
def notedRow : Value :=
  .object [
    ("version", .text "1.0"),
    ("metadata", .object [("subject", .text "News"), ("preheader", .text "")]),
    ("settings", .object [("backgroundColor", .text "#ffffff"), ("contentWidth", .int 600),
      ("fontFamily", .text "Arial, Helvetica, sans-serif")]),
    ("content", .list [.object [("type", .text "EmailColumns"), ("props", .object []),
      ("children", .list [
        .object [("type", .text "EmailSocial"), ("props", .object [
          ("networks", .list [.object [("type", .text "facebook"), ("label", .text "Us")]]),
          ("twitterUrl", .text "t")]), ("children", .list [.object []])],
        .object [("type", .text "EmailText"), ("props", .object [("content", .text "<b>Hi</b>"),
          ("fontSize", .null)])]])]]),
    ("origin", .object [("copy", .int 2)])]

theorem outcome_of_edits_notedRow :
    Relation.ReflTransGen (Edits template) plainRow notedRow ∧
      Template.isValid plainRow = true ∧ Template.errors notedRow = [] ∧
      ∃ published, compile plainRow = .ok published ∧ compile notedRow = .ok published := by
  have inParts : ("networks", networks) ∈ Kind.social.parts :=
    List.mem_append_right _ List.mem_cons_self
  have edits : Relation.ReflTransGen (Edits template) plainRow notedRow := by
    refine .head (.set "origin" (.object [("copy", .int 2)]) rfl (by decide)) ?_
    refine .head (.content 0 rfl rfl (.child 0 rfl rfl rfl
      (.set "children" (.list [.object []]) rfl (by decide)))) ?_
    refine .head (.content 0 rfl rfl (.child 0 rfl rfl rfl (.prop rfl rfl
      (.field "networks" rfl inParts rfl (.item 0 rfl rfl (.leaveOut "url" rfl rfl)))))) ?_
    refine .head (.content 0 rfl rfl (.child 0 rfl rfl rfl (.prop rfl rfl
      (.field "networks" rfl inParts rfl (.item 0 rfl rfl
        (.set "label" (.text "Us") rfl (by decide))))))) ?_
    refine .head (.content 0 rfl rfl (.child 1 rfl rfl rfl (.prop rfl rfl
      (.erase "note" rfl (by decide))))) ?_
    refine .head (.content 0 rfl rfl (.child 1 rfl rfl rfl (.prop rfl rfl
      (.spellOut "fontSize" rfl rfl)))) ?_
    exact .refl
  have hvalid : Template.isValid plainRow = true := rfl
  have hcompiles : compile plainRow = .ok _ := compile_eq_ok_iff.2 ⟨hvalid, _, rfl, rfl, rfl⟩
  obtain ⟨herrors, -, hcompile⟩ := outcome_of_edits edits
  exact ⟨edits, hvalid, herrors.trans rfl, _, hcompiles, hcompile.trans hcompiles⟩

end Publisher

end EmailStudio
