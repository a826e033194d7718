import EmailStudio.Api.Message
import EmailStudio.Designs.Design
import EmailStudio.Intake.Issue

/-!
# Documents of responses

How designs and their soundness are told to clients. Documents of responses know no numbers that are
not finite; null stands in their place.
-/

namespace EmailStudio.Api

/-- A value as responses carry it: numbers that are not finite become null. -/
def finite : Value → Value
  | .float x => if x.toRat?.isSome then .float x else .null
  | .list items => .list (finiteItems items)
  | .object fields => .object (finiteFields fields)
  | v => v
where
  finiteItems : List Value → List Value
    | [] => []
    | v :: rest => finite v :: finiteItems rest
  finiteFields : List (String × Value) → List (String × Value)
    | [] => []
    | (key, v) :: rest => (key, finite v) :: finiteFields rest

/-- A time, or null. -/
def timeValue (t : Option Time) : Value :=
  match t with
  | some t => .text t.text
  | none => .null

/-- A design with the diagnostics of its rendering. -/
def designValue (design : Design) (diagnostics : List Diagnostic) : Value :=
  .object [
    ("id", .text design.id),
    ("name", .text design.name),
    ("json", finite design.template),
    ("mjml", .text design.markup),
    ("html", .text design.html),
    ("draft", finite (design.loadableDraft.getD .null)),
    ("draft_saved_at", timeValue design.draft.savedAt),
    ("created_at", .text design.createdAt.time.text),
    ("updated_at", .text design.updatedAt.time.text),
    ("errors", .list (diagnostics.map (·.toValue)))]

/-- A design in a listing. -/
def summaryValue (design : Design) : Value :=
  .object [
    ("id", .text design.id),
    ("name", .text design.name),
    ("has_draft", .bool design.draft.template.isSome),
    ("draft_saved_at", timeValue design.draft.savedAt),
    ("created_at", .text design.createdAt.time.text),
    ("updated_at", .text design.updatedAt.time.text)]

/-- Whether a template is sound, and what is wrong with it. -/
def soundnessFields (candidate : Value) : Fields :=
  [("valid", .bool (Template.isValid candidate)),
    ("errors", .list ((Template.errors candidate).map .text))]

end EmailStudio.Api
