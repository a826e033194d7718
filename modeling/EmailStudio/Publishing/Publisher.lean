import EmailStudio.Markup.Block
import EmailStudio.Publishing.Rendering
import EmailStudio.Validation.Template

/-!
# Publishing

To publish a candidate is to validate it, to bring it into its stored form, to compile it and to
render the markup. Only validation refuses; diagnostics of the engine come with the result.
-/

namespace EmailStudio

/-- Why a candidate was not published. -/
inductive PublishFault where
  /-- The candidate is no sound template. -/
  | invalid (errors : List String)
  | fault (fault : Fault)

namespace PublishFault

/-- The wording for an invalid candidate. -/
def invalidMessage (errors : List String) : String :=
  "Template is invalid (" ++ toString errors.length ++ " error(s))"

end PublishFault

/-- A template in its three forms. -/
structure Published where
  template : Value
  markup : String
  rendering : Rendering

/-- How templates are published. -/
structure Publisher where
  engine : Engine
  level : Level
  /-- Whether the markup is rendered. -/
  rendersHtml : Bool

namespace Publisher

/-- The stored form and the markup of a candidate. -/
def compile (candidate : Value) : Except PublishFault (Value × String) :=
  match Template.errors candidate with
  | [] =>
    let compiled := do
      let template ← Template.ofValue candidate
      return (template.toValue, ← template.compile)
    compiled.mapError .fault
  | errors => .error (.invalid errors)

/-- Publishes a candidate. -/
def publish (publisher : Publisher) (candidate : Value) : Except PublishFault Published := do
  let (template, markup) ← compile candidate
  let rendering ←
    if publisher.rendersHtml then
      (publisher.engine.render publisher.level markup).mapError .fault
    else pure ⟨"", []⟩
  return ⟨template, markup, rendering⟩

end Publisher

end EmailStudio
