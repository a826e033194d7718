import EmailStudio.Intake.Field
import EmailStudio.Value.Reader

/-!
# Request bodies

A body is a document, and for most requests an object with certain fields. What is wrong with it is
told by issues that say where in the request they are.
-/

namespace EmailStudio.Api

/-- Why a body cannot be used. -/
inductive BodyFault where
  | empty
  | unreadable (position : Nat)
  /-- The text is sound, but a number in it is too long to be read. -/
  | hugeNumber
deriving DecidableEq, Repr

/-- Reads the document of a body. A byte order mark in front of it is passed over. -/
def readBody (body : String) : Except BodyFault Value :=
  if body.isEmpty then .error .empty
  else
    let cs := match body.toList with
      | '\uFEFF' :: rest => rest
      | cs => cs
    (Value.read cs).mapError fun fault =>
      match fault.problem with
      | .tooManyDigits _ => .hugeNumber
      | _ => .unreadable fault.position

/-- The fields of a body that must be an object. -/
def record (read : Fields → Reading α) : Value → Reading α
  | .object fields => read fields
  | _ => .bad .notRecord

/-- A field that goes by two names, of which the first counts more. -/
def named (key other : String) (read : String → Fields → Reading α) (fields : Fields) : Reading α :=
  if fields.has key || !fields.has other then read key fields else read other fields

/-- Where the template of a design comes from. -/
inductive TemplateSource where
  | template (candidate : Value)
  | editor (data : Fields)

/-- A request to create or to publish a design. -/
structure DesignForm where
  name : Option String
  source : TemplateSource

namespace DesignForm

/-- Exactly one source must be given. -/
def ofParts (name : Option String) (template : Value) (editor : Option Fields) :
    Reading DesignForm :=
  match template, editor with
  | .null, none => .bad (.rule "Either 'json' or 'editor' must be provided")
  | .null, some data => .good ⟨name, .editor data⟩
  | template, none => .good ⟨name, .template template⟩
  | _, some _ => .bad (.rule "Provide only one of 'json' or 'editor'")

def read (fields : Fields) : Reading DesignForm :=
  let parts :=
    (fun name template editor (_ : Option String) => (name, template, editor))
      <$> Intake.optional "name" none
        (Intake.nullable (Intake.textOfLength (some 1) (some 255))) fields
      <*> named "json" "template" (fun key => Intake.optional key .null .good) fields
      <*> Intake.optional "editor" none (Intake.nullable Intake.object) fields
      <*> Intake.optional "mjml" none (Intake.nullable Intake.text) fields
  parts.andThen fun (name, template, editor) => ofParts name template editor

end DesignForm

/-- Reads the draft of a request that saves one. It may be unsound, but it must be an object. -/
def readDraft (fields : Fields) : Reading Fields :=
  named "json" "template" (fun key => Intake.required key Intake.object) fields

/-- Reads the markup of a request for a preview. -/
def readMarkup (fields : Fields) : Reading String :=
  Intake.required "mjml" (Intake.textOfLength (some 1) none) fields

/-- A request to upload an image. -/
structure UploadForm where
  filename : String
  type : String
  data : String

namespace UploadForm

def read (fields : Fields) : Reading UploadForm :=
  UploadForm.mk
    <$> Intake.required "name" (Intake.textOfLength (some 1) (some 255)) fields
    <*> Intake.required "type" Intake.text fields
    <*> Intake.required "data" Intake.text fields

end UploadForm

end EmailStudio.Api
