import EmailStudio.Proofs.Validation.Soundness
import EmailStudio.Proofs.Value.Respelling

/-!
# Validation and the spelling of numbers

No rule looks at how a number is spelled. Only the wording of an issue may do so, when it quotes a
value that is wrong: the issues of a value in standard form are those of the value itself, with what
they quote in standard form (`Template.issues_standard`). So a candidate is valid in one spelling if
it is in another.
-/

namespace EmailStudio

open Value (apply_standard)

/-! ## Rules -/

namespace Rule

theorem isOneOf_standard (options : List String) (v : Value) :
    isOneOf options v.standard = isOneOf options v :=
  apply_standard (fun _ => rfl) (fun _ => rfl) (fun _ => rfl) v

theorem isNumberOf_standard (options : List Int) (v : Value) :
    isNumberOf options v.standard = isNumberOf options v := by
  simp only [isNumberOf, Value.isWhole_standard]

theorem isImageWidth_standard (v : Value) : isImageWidth v.standard = isImageWidth v := by
  refine apply_standard (fun {x n} h => ?_) (fun _ => rfl) (fun _ => rfl) v
  have hrat : (Value.int n).rat? = (Value.float x).rat? := h.symm
  simp only [isImageWidth, Value.isBetween, hrat]

variable (props : Fields) (key : String)

theorem optional_standard {problem : PropProblem} {good : Value → Bool}
    (h : ∀ v : Value, good v.standard = good v) :
    optional props.standard key problem good = optional props key problem good := by
  rw [optional, optional, Fields.get_standard, Value.isNull_standard, h]

theorem text_standard : text props.standard key = text props key :=
  optional_standard props key Value.isText_standard

theorem boolean_standard : boolean props.standard key = boolean props key :=
  optional_standard props key Value.isBool_standard

theorem choice_standard (options : List String) :
    choice props.standard key options = choice props key options :=
  optional_standard props key (isOneOf_standard options)

theorem number_standard (options : List Int) :
    number props.standard key options = number props key options :=
  optional_standard props key (isNumberOf_standard options)

theorem between_standard (problem : PropProblem) (low high : Int) :
    optional props.standard key problem (·.isBetween low high) =
      optional props key problem (·.isBetween low high) :=
  optional_standard props key fun v => v.isBetween_standard low high

theorem required_standard (problem : PropProblem) :
    required props.standard key problem = required props key problem := by
  have hfilled (v : Value) : isFilled v.standard = isFilled v :=
    apply_standard (fun _ => rfl) (fun _ => rfl) (fun _ => rfl) v
  have hrequired (fields : Fields) :
      required fields key problem = issueIf (!isFilled (fields.get key)) key problem := by
    rw [required]
    cases fields.get key <;> simp [isFilled]
  rw [hrequired, hrequired, Fields.get_standard, hfilled]

theorem source_standard : source props.standard = source props := by
  rw [source, source, Fields.get_standard]
  cases props.get "src" with
  | list items => rw [Value.standard_list]
  | object fields => rw [Value.standard_object]
  | float x => rcases Value.standard_float x with h | ⟨n, -, h⟩ <;> rw [h]
  | _ => rfl

theorem network_standard (index : Nat) (v : Value) :
    network index v.standard = network index v := by
  refine apply_standard (fun _ => rfl) (fun _ => rfl) (fun fields => ?_) v
  simp only [network, Fields.get_standard, isOneOf_standard, Value.isNull_standard,
    Value.isText_standard]

theorem networks_standard : networks props.standard = networks props := by
  rw [networks, networks, Fields.get_standard]
  cases props.get "networks" with
  | list items =>
    simp only [Value.standard_list, List.zipIdx_map, List.flatMap_map, Prod.map_fst, Prod.map_snd,
      id, network_standard]
  | object fields => rw [Value.standard_object]
  | float x => rcases Value.standard_float x with h | ⟨n, -, h⟩ <;> rw [h]
  | _ => rfl

end Rule

/-- What the rule of a kind says does not depend on the spelling of numbers. -/
theorem Kind.rule_standard (kind : Kind) (props : Fields) :
    kind.rule props.standard = kind.rule props := by
  cases kind <;>
    simp only [Kind.rule, Rule.header, Rule.textBlock, Rule.image, Rule.button, Rule.columns,
      Rule.spacer, Rule.divider, Rule.social, Rule.footer, Rule.text_standard,
      Rule.boolean_standard, Rule.choice_standard, Rule.number_standard, Rule.required_standard,
      Rule.source_standard, Rule.networks_standard,
      Rule.optional_standard props _ Rule.isImageWidth_standard, Rule.between_standard]

/-! ## Issues -/

/-- The problem with the value that it quotes in standard form. -/
def BlockProblem.standard : BlockProblem → BlockProblem
  | unknownKind kind => unknownKind kind.standard
  | problem => problem

def BlockIssue.standard (issue : BlockIssue) : BlockIssue :=
  { issue with problem := issue.problem.standard }

/-- The issue with the value that it quotes in standard form. -/
def Issue.standard : Issue → Issue
  | version v => version v.standard
  | block index issue => block index issue.standard
  | issue => issue

namespace Block

theorem judgedProps_standard (fields : Fields) :
    judgedProps fields.standard =
      match judgedProps fields with
      | .ok (kind, props) => .ok (kind, props.standard)
      | .error problem => .error problem.standard := by
  rw [judgedProps, judgedProps, Fields.get_standard, Fields.get_standard, Value.kind_standard]
  cases Kind.ofValue? (fields.get "type") with
  | none => rfl
  | some kind =>
    cases fields.get "props" with
    | object props => rw [Value.standard_object]
    | float x => rcases Value.standard_float x with h | ⟨n, -, h⟩ <;> rw [h] <;> rfl
    | _ => rfl

theorem issues_of_isObject {depth : Int} {v : Value} (h : v.isObject = false) :
    issues depth v = if Catalog.maxDepth < depth then [⟨[], .tooDeep⟩] else [⟨[], .notObject⟩] := by
  cases v <;> first | rfl | cases h

theorem issuesOfItems_standard {depth : Int} {items : List Value}
    (h : ∀ item ∈ items, issues (depth + 1) item.standard =
      (issues (depth + 1) item).map (·.standard)) (index : Nat) :
    issuesOfItems depth index (items.map Value.standard) =
      (issuesOfItems depth index items).map (·.standard) := by
  induction items generalizing index with
  | nil => rfl
  | cons item rest ih =>
    obtain ⟨hitem, h⟩ := List.forall_mem_cons.1 h
    rw [List.map_cons, issuesOfItems, issuesOfItems, hitem, ih h, List.map_append, List.map_map,
      List.map_map]
    rfl

theorem issuesOfChildren_standard {depth : Int} {v : Value}
    (h : ∀ item ∈ v.items, issues (depth + 1) item.standard =
      (issues (depth + 1) item).map (·.standard)) :
    issuesOfChildren depth v.standard = (issuesOfChildren depth v).map (·.standard) := by
  cases v with
  | list items =>
    rw [Value.standard_list]
    exact issuesOfItems_standard h 0
  | object fields => 
    rw [Value.standard_object]
    rfl
  | float x => rcases Value.standard_float x with h | ⟨n, -, h⟩ <;> rw [h] <;> rfl
  | _ => rfl

theorem issues_standard (depth : Int) (v : Value) :
    issues depth v.standard = (issues depth v).map (·.standard) := by
  induction v using Value.inductionOnChildren generalizing depth with
  | step v ih =>
    cases v with
    | object fields =>
      rw [Value.standard_object, issues, issues, judgedProps_standard, issuesOfChildrenIn_eq,
        issuesOfChildrenIn_eq]
      split_ifs
      · rfl
      · cases judgedProps fields with
        | error problem => rfl
        | ok judged =>
          obtain ⟨kind, props⟩ := judged
          dsimp only
          rw [kind.rule_standard, List.map_append, List.map_map, Fields.get_standard]
          congr 1
          split_ifs
          · exact issuesOfChildren_standard fun item hitem => ih item hitem (depth + 1)
          · rfl
    | _ =>
      rw [issues_of_isObject (v := Value.standard _) (by rw [Value.isObject_standard]; rfl),
        issues_of_isObject rfl]
      split_ifs <;> rfl

end Block

namespace Template

theorem versionIssues_of_isText {v : Value} (h : v.isText = false) :
    versionIssues v = [.version v] := by
  cases v <;> first | rfl | cases h

theorem versionIssues_standard (v : Value) :
    versionIssues v.standard = (versionIssues v).map (·.standard) := by
  cases v with
  | text s =>
    rw [Value.standard_text, versionIssues]
    split_ifs <;> rfl
  | _ =>
    rw [versionIssues_of_isText (v := Value.standard _) (by rw [Value.isText_standard]; rfl),
      versionIssues_of_isText rfl]
    rfl

theorem metadataIssues_standard (v : Value) :
    metadataIssues v.standard = (metadataIssues v).map (·.standard) := by
  cases v with
  | object fields =>
    simp only [Value.standard_object, metadataIssues, Fields.get_standard, Value.isText_standard,
      List.map_filterMap]
    refine List.filterMap_congr fun key _ => ?_
    split_ifs <;> rfl
  | list items => rw [Value.standard_list]; rfl
  | float x => rcases Value.standard_float x with h | ⟨n, -, h⟩ <;> rw [h] <;> rfl
  | _ => rfl

theorem settingsIssues_standard (v : Value) :
    settingsIssues v.standard = (settingsIssues v).map (·.standard) := by
  cases v with
  | object fields =>
    simp only [Value.standard_object, settingsIssues, widthIssues, Fields.get_standard,
      Value.isText_standard, Value.isNumber_standard, Value.isBetween_standard]
    split_ifs <;> rfl
  | list items => rw [Value.standard_list]; rfl
  | float x => rcases Value.standard_float x with h | ⟨n, -, h⟩ <;> rw [h] <;> rfl
  | _ => rfl

theorem contentIssues_standard (v : Value) :
    contentIssues v.standard = (contentIssues v).map (·.standard) := by
  cases v with
  | list items =>
    simp only [Value.standard_list, contentIssues, List.zipIdx_map, List.flatMap_map,
      Prod.map_fst, Prod.map_snd, id, Block.issues_standard, List.map_map, List.map_flatMap]
    rfl
  | object fields => rw [Value.standard_object]; rfl
  | float x => rcases Value.standard_float x with h | ⟨n, -, h⟩ <;> rw [h] <;> rfl
  | _ => rfl

/-- The issues of a candidate do not depend on the spelling of its numbers, but for what they
quote. -/
theorem issues_standard (v : Value) : issues v.standard = (issues v).map (·.standard) := by
  cases v with
  | object fields =>
    simp only [Value.standard_object, issues, Fields.get_standard, versionIssues_standard,
      metadataIssues_standard, settingsIssues_standard, contentIssues_standard, List.map_append]
  | list items => rw [Value.standard_list]; rfl
  | float x => rcases Value.standard_float x with h | ⟨n, -, h⟩ <;> rw [h] <;> rfl
  | _ => rfl

theorem isValid_standard (v : Value) : isValid v.standard = isValid v := by
  rw [isValid, isValid, issues_standard, List.isEmpty_map]

end Template

end EmailStudio
