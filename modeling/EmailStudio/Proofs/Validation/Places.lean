import EmailStudio.Proofs.Validation.Grammar
import Mathlib.Data.List.Nodup

/-!
# Places of issues

Validation goes down from the content of a candidate through the children of columns, and reports
what it finds in a block at the place of that block. `Block.Judges` and `Template.Judges` say which
props it gets to. By `Template.Judges.mem_issues_iff`, the issues that it reports at such a place
are those of the rule of the kind, whatever else the candidate holds, and by `Grammar.clears_iff` a
prop is left in peace by the rule exactly when the clause about it holds.
-/

namespace EmailStudio

namespace Block

/-- From a block at a depth, validation goes down a place to a block of a kind, and judges the props
of that block. -/
inductive Judges : Int → Value → List Nat → Kind → Fields → Prop
  | here {depth : Int} {fields props : Fields} {kind : Kind} (shallow : depth ≤ Catalog.maxDepth)
      (judged : judgedProps fields = .ok (kind, props)) :
      Judges depth (.object fields) [] kind props
  | inner {depth : Int} {fields columns props : Fields} {items : List Value} {index : Nat}
      {child : Value} {place : List Nat} {kind : Kind} (shallow : depth ≤ Catalog.maxDepth)
      (judged : judgedProps fields = .ok (.columns, columns))
      (list : fields.get "children" = .list items) (child_eq : items[index]? = some child)
      (judges : Judges (depth + 1) child place kind props) :
      Judges depth (.object fields) (index :: place) kind props

theorem issues_of_judged {depth : Int} {fields props : Fields} {kind : Kind}
    (shallow : depth ≤ Catalog.maxDepth) (judged : judgedProps fields = .ok (kind, props)) :
    issues depth (.object fields) = (kind.rule props).map (fun issue => ⟨[], .prop issue⟩) ++
      if kind = .columns then issuesOfChildren depth (fields.get "children") else [] := by
  rw [issues, if_neg (Int.not_lt.2 shallow), judged, issuesOfChildrenIn_eq]

theorem mem_issuesOfItems {depth : Int} {issue : BlockIssue} : ∀ {start : Nat} {items : List Value},
    issue ∈ issuesOfItems depth start items ↔ ∃ (index : Nat) (child : Value),
      items[index]? = some child ∧ ∃ found ∈ issues (depth + 1) child,
        found.within (start + index) = issue
  | start, [] => by simp [issuesOfItems]
  | start, v :: rest => by
    rw [issuesOfItems, List.mem_append, List.mem_map, mem_issuesOfItems]
    constructor
    · rintro (⟨found, hfound, rfl⟩ | ⟨index, child, hchild, found, hfound, rfl⟩)
      · exact ⟨0, v, rfl, found, hfound, rfl⟩
      · exact ⟨index + 1, child, hchild, found, hfound, by rw [Nat.add_right_comm, Nat.add_assoc]⟩
    · rintro ⟨index, child, hchild, found, hfound, rfl⟩
      cases index with
      | zero =>
        cases hchild
        exact .inl ⟨found, hfound, rfl⟩
      | succ index =>
        exact .inr ⟨index, child, hchild, found, hfound, by rw [Nat.add_right_comm, Nat.add_assoc]⟩

/-- The issues of children are not those of the props above them. -/
theorem nil_notMem_issuesOfChildren {depth : Int} {v : Value} {issue : PropIssue} :
    (⟨[], .prop issue⟩ : BlockIssue) ∉ issuesOfChildren depth v := by
  intro h
  cases v with
  | list items =>
    obtain ⟨_, _, _, found, _, heq⟩ := mem_issuesOfItems.1 h
    cases congrArg BlockIssue.place heq
  | null => cases h
  | _ =>
    cases List.mem_singleton.1 h

theorem Judges.mem_issues_iff {depth : Int} {v : Value} {place : List Nat} {kind : Kind}
    {props : Fields} (h : Judges depth v place kind props) {issue : PropIssue} :
    (⟨place, .prop issue⟩ : BlockIssue) ∈ issues depth v ↔ issue ∈ kind.rule props := by
  induction h with
  | here shallow judged =>
    rw [issues_of_judged shallow judged, List.mem_append, List.mem_map]
    constructor
    · rintro (⟨found, hfound, heq⟩ | hchildren)
      · cases heq
        exact hfound
      · split_ifs at hchildren
        · exact absurd hchildren nil_notMem_issuesOfChildren
        · cases hchildren
    · exact fun hissue => .inl ⟨issue, hissue, rfl⟩
  | @inner _ _ _ _ items index child place _ shallow judged list child_eq _ ih =>
    rw [issues_of_judged shallow judged, if_pos rfl, list, issuesOfChildren, List.mem_append,
      List.mem_map, mem_issuesOfItems, ← ih]
    constructor
    · rintro (⟨found, -, heq⟩ | ⟨other, item, hitem, found, hfound, heq⟩)
      · cases heq
      · obtain ⟨hindex, hplace⟩ := List.cons.inj (congrArg BlockIssue.place heq)
        obtain rfl : other = index := (Nat.zero_add other).symm.trans hindex
        cases child_eq.symm.trans hitem
        have hproblem : found.problem = .prop issue := congrArg BlockIssue.problem heq
        rw [← hplace, ← hproblem]
        exact hfound
    · exact fun hissue => .inr ⟨index, child, child_eq, _, hissue, by rw [Nat.zero_add]; rfl⟩

end Block

namespace Template

/-- In the content of a candidate, validation gets to the block at a place, which is of a kind, and
judges its props. -/
inductive Judges : Value → Nat → List Nat → Kind → Fields → Prop
  | block {fields props : Fields} {content : List Value} {index : Nat} {block : Value}
      {place : List Nat} {kind : Kind} (list : fields.get "content" = .list content)
      (block_eq : content[index]? = some block) (judges : Block.Judges 1 block place kind props) :
      Judges (.object fields) index place kind props

theorem block_mem_contentIssues_iff {content : List Value} {index : Nat} {issue : BlockIssue} :
    Issue.block index issue ∈ contentIssues (.list content) ↔
      ∃ block, content[index]? = some block ∧ issue ∈ Block.issues 1 block := by
  simp only [contentIssues, List.mem_flatMap, List.mem_map, Prod.exists]
  constructor
  · rintro ⟨block, other, hblock, found, hfound, heq⟩
    cases heq
    exact ⟨block, List.mk_mem_zipIdx_iff_getElem?.1 hblock, hfound⟩
  · rintro ⟨block, hblock, hissue⟩
    exact ⟨block, index, List.mk_mem_zipIdx_iff_getElem?.2 hblock, issue, hissue, rfl⟩

/-- Only the content has issues of blocks. -/
theorem block_notMem_append {index : Nat} {issue : BlockIssue} (version metadata settings : Value) :
    Issue.block index issue ∉
      versionIssues version ++ metadataIssues metadata ++ settingsIssues settings := by
  have hversion : Issue.block index issue ∉ versionIssues version := by
    unfold versionIssues
    split <;> simp
  have hmetadata : Issue.block index issue ∉ metadataIssues metadata := by
    unfold metadataIssues
    split <;> simp
  have hsettings : Issue.block index issue ∉ settingsIssues settings := by
    unfold settingsIssues widthIssues
    split
    · dsimp only
      split_ifs <;> simp
    · simp
  simp only [List.mem_append, hversion, hmetadata, hsettings, or_false, not_false_eq_true]

theorem block_mem_issues_iff {fields : Fields} {index : Nat} {issue : BlockIssue} :
    Issue.block index issue ∈ issues (.object fields) ↔
      Issue.block index issue ∈ contentIssues (fields.get "content") := by
  rw [issues, List.mem_append, or_iff_right (block_notMem_append _ _ _)]

/-- Beside the settings, nothing has issues of settings. -/
theorem mem_issues_iff_settingsIssues {fields : Fields} {issue : Issue}
    (h : ∀ v, issue ∉ versionIssues v ∧ issue ∉ metadataIssues v ∧ issue ∉ contentIssues v) :
    issue ∈ issues (.object fields) ↔ issue ∈ settingsIssues (fields.get "settings") := by
  have hversion (v : Value) := (h v).1
  have hmetadata (v : Value) := (h v).2.1
  have hcontent (v : Value) := (h v).2.2
  simp only [issues, List.mem_append, hversion, hmetadata, hcontent, false_or, or_false]

theorem Judges.mem_issues_iff {candidate : Value} {index : Nat} {place : List Nat} {kind : Kind}
    {props : Fields} (h : Judges candidate index place kind props) {issue : PropIssue} :
    Issue.block index ⟨place, .prop issue⟩ ∈ issues candidate ↔ issue ∈ kind.rule props := by
  cases h with
  | block list block_eq judges =>
    rw [block_mem_issues_iff, list, block_mem_contentIssues_iff, ← judges.mem_issues_iff]
    constructor
    · rintro ⟨block, hblock, hissue⟩
      cases block_eq.symm.trans hblock
      exact hissue
    · exact fun hissue => ⟨_, block_eq, hissue⟩

end Template

/-! ## Issues of one prop -/

namespace Rule

/-- None of some issues is of a prop. -/
def Clears (key : String) (found : List PropIssue) : Prop :=
  ∀ issue ∈ found, issue.place ≠ .prop key

variable {key name : String} {props : Fields} {problem : PropProblem}

theorem clears_append {xs ys : List PropIssue} :
    Clears key (xs ++ ys) ↔ Clears key xs ∧ Clears key ys :=
  List.forall_mem_append

theorem clears_issueIf {bad : Bool} :
    Clears key (issueIf bad name problem) ↔ (name = key → issueIf bad name problem = []) := by
  cases bad <;> simp [Clears, issueIf]

theorem clears_optional {good : Value → Bool} :
    Clears key (optional props name problem good) ↔
      (name = key → optional props name problem good = []) :=
  clears_issueIf

theorem clears_required :
    Clears key (required props name problem) ↔ (name = key → required props name problem = []) :=
  clears_issueIf

theorem clears_source : Clears key (source props) ↔ ("src" = key → source props = []) := by
  unfold source
  cases props.get "src" with
  | text s => cases h : sourceProblem? s <;> simp [Clears, h]
  | _ => simp [Clears]

theorem place_of_mem_issueIf {bad : Bool} {issue : PropIssue}
    (h : issue ∈ issueIf bad key problem) : issue.place = .prop key := by
  cases bad with
  | true => rw [List.mem_singleton.1 h]
  | false => cases h

theorem place_of_mem_network {index : Nat} {v : Value} {issue : PropIssue}
    (h : issue ∈ network index v) :
    issue.place = .network index ∨ ∃ field, issue.place = .networkField index field := by
  cases v with
  | object fields =>
    rcases List.mem_append.1 h with h | h <;> split_ifs at h
    · cases h
    · rw [List.mem_singleton.1 h]
      exact .inr ⟨_, rfl⟩
    · cases h
    · rw [List.mem_singleton.1 h]
      exact .inr ⟨_, rfl⟩
  | _ =>
    rw [List.mem_singleton.1 h]
    exact .inl rfl

/-- The issues of entries are about the entries. -/
theorem clears_networks (hkey : key ≠ "networks") : Clears key (networks props) := by
  intro issue hissue
  unfold networks at hissue
  split at hissue
  · cases hissue
  · obtain ⟨⟨item, index⟩, -, hissue⟩ := List.mem_flatMap.1 hissue
    rcases place_of_mem_network hissue with heq | ⟨field, heq⟩ <;> rw [heq] <;> exact nofun
  · rw [List.mem_singleton.1 hissue]
    exact fun heq => hkey (PropPlace.prop.inj heq).symm

theorem clears_flatMap {names : List String} {f : String → List PropIssue} :
    Clears key (names.flatMap f) ↔ ∀ name ∈ names, Clears key (f name) := by
  simp only [Clears, List.mem_flatMap]
  constructor
  · exact fun h name hname issue hissue => h issue ⟨name, hname, hissue⟩
  · rintro h issue ⟨name, hname, hissue⟩
    exact h name hname issue hissue

end Rule

namespace Grammar

open Rule

/-- The rule of a kind leaves a prop in peace exactly when what is asked of it holds; of a prop that
nothing is asked of, it takes no notice. -/
theorem clears_iff {kind : Kind} {key : String} {props : Fields} (hkey : key ≠ "networks") :
    Clears key (kind.rule props) ↔
      ∀ clause ∈ clauses kind, clause.key = key → clause.Holds props := by
  have hnetworks : Clears key (Rule.networks props) ↔ True := iff_true_intro (clears_networks hkey)
  have hclause : ("networks" = key → Clause.Holds ⟨"networks", .networks, false⟩ props) ↔ True :=
    iff_true_intro fun heq => absurd heq.symm hkey
  have htext {name : String} : Clears key (Rule.text props name) ↔
      (name = key → Clause.Holds ⟨name, .text, false⟩ props) := by
    rw [← text_iff]
    exact clears_optional
  have hboolean {name : String} : Clears key (Rule.boolean props name) ↔
      (name = key → Clause.Holds ⟨name, .boolean, false⟩ props) := by
    rw [← boolean_iff]
    exact clears_optional
  have hchoice {name : String} {options : List String} :
      Clears key (Rule.choice props name options) ↔
        (name = key → Clause.Holds ⟨name, .oneOf options, false⟩ props) := by
    rw [← choice_iff]
    exact clears_optional
  have hnumber {name : String} {options : List Int} :
      Clears key (Rule.number props name options) ↔
        (name = key → Clause.Holds ⟨name, .numberOf options, false⟩ props) := by
    rw [← number_iff]
    exact clears_optional
  cases kind <;>
    simp only [Kind.rule, Rule.header, Rule.textBlock, Rule.image, Rule.button, Rule.columns,
      Rule.spacer, Rule.divider, Rule.social, Rule.footer, Rule.paddingNames,
      Rule.buttonPaddingNames, Catalog.logoWidthMin, Catalog.logoWidthMax, clears_append,
      clears_flatMap, htext, hboolean, hchoice, hnumber, hnetworks, hclause, clears_required,
      clears_source, clears_optional, required_iff, source_iff, optional_iff isBetween_iff,
      optional_iff isImageWidth_iff, clauses, List.forall_mem_cons, List.forall_mem_append,
      List.forall_mem_map, List.not_mem_nil, false_imp_iff, implies_true, and_true, and_assoc]

theorem nodup_clauses (kind : Kind) : ((clauses kind).map (·.key)).Nodup := by
  cases kind <;> decide

/-- No two clauses are about the same prop. -/
theorem clears_iff_holds {kind : Kind} {clause : Clause} {props : Fields}
    (h : clause ∈ clauses kind) (hkey : clause.key ≠ "networks") :
    Clears clause.key (kind.rule props) ↔ clause.Holds props := by
  rw [clears_iff hkey]
  constructor
  · exact fun hall => hall clause h rfl
  · intro hholds other hother heq
    obtain rfl : other = clause :=
      List.inj_on_of_nodup_map (nodup_clauses kind) hother h heq
    exact hholds

end Grammar

end EmailStudio
