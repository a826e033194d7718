import EmailStudio.Value.Integer
import EmailStudio.Value.Text

/-!
# Rendering

An engine turns markup into HTML. It may fail, and it may report anything as a problem; a rendering
is what is made of that: the HTML, empty when there is none, and diagnostics of one form.
-/

namespace EmailStudio

/-- A problem that was reported while rendering. -/
structure Diagnostic where
  line : Int
  message : String
  tagName : String
  formattedMessage : String
deriving DecidableEq, Repr

namespace Diagnostic

/-- The first value that counts as given, or a text. -/
def firstGiven (values : List Value) (default : String) : String :=
  match values.find? (·.truthy) with
  | some v => v.plain
  | none => default

/-- A diagnostic for what an engine reported: an object says more about itself than its text. -/
def ofReport : Value → Except Fault Diagnostic
  | .object (fields : Fields) => do
    let message := firstGiven [fields.get "message"] ""
    let line ← ((fields.get "line").orElse (.int 0)).toInteger
    return {
      line := line
      message := message
      tagName := firstGiven [fields.get "tagName", fields.get "tag_name"] "mjml"
      formattedMessage :=
        firstGiven [fields.get "formattedMessage", fields.get "formatted_message"] message }
  | v => .ok ⟨0, v.plain, "mjml", v.plain⟩

/-- The diagnostic for an engine that failed. -/
def ofFailure (reason : String) : Diagnostic where
  line := 0
  message := if reason.isEmpty then "Unknown error" else reason
  tagName := "mjml"
  formattedMessage := "MJML compilation error: " ++ reason

def toValue (d : Diagnostic) : Value :=
  .object [("line", .int d.line), ("message", .text d.message), ("tagName", .text d.tagName),
    ("formattedMessage", .text d.formattedMessage)]

end Diagnostic

/-- What an engine answers. -/
inductive EngineAnswer where
  | failed (reason : String)
  | rendered (html : Option String) (reports : Value)

/-- What turns markup into HTML. -/
abbrev Engine := String → EngineAnswer

/-- What happens to HTML with diagnostics: both are kept, the HTML is withheld, or the diagnostics
are dropped. -/
inductive Level where
  | soft
  | strict
  | skip
deriving DecidableEq, Repr

namespace Level

def name : Level → String
  | soft => "soft"
  | strict => "strict"
  | skip => "skip"

def ofName? (s : String) : Option Level :=
  [soft, strict, skip].find? (·.name = s)

end Level

/-- HTML and diagnostics. -/
structure Rendering where
  html : String
  diagnostics : List Diagnostic
deriving DecidableEq, Repr

namespace Rendering

/-- There is HTML and no diagnostic. -/
def isClean (r : Rendering) : Bool :=
  !r.html.isEmpty && r.diagnostics.isEmpty

/-- The reports that a value holds: the items of a list, the names of an object, the characters of
a text. What does not count as given holds none. -/
def reportsIn (v : Value) : Except Fault (List Value) :=
  match v with
  | .list items => .ok items
  | .object fields => .ok (fields.map fun (key, _) => .text key)
  | .text s => .ok (s.toList.map fun c => .text (String.singleton c))
  | v => if v.truthy then .error .notList else .ok []

/-- The rendering of what an engine answered. -/
def ofAnswer (level : Level) : EngineAnswer → Except Fault Rendering
  | .failed reason => .ok ⟨"", [.ofFailure reason]⟩
  | .rendered html reports => do
    let diagnostics ← (← reportsIn reports).mapM Diagnostic.ofReport
    let html := html.getD ""
    return match level with
      | .soft => ⟨html, diagnostics⟩
      | .strict => ⟨if diagnostics.isEmpty then html else "", diagnostics⟩
      | .skip => ⟨html, []⟩

end Rendering

/-- Renders markup. -/
def Engine.render (engine : Engine) (level : Level) (markup : String) : Except Fault Rendering :=
  Rendering.ofAnswer level (engine markup)

end EmailStudio
