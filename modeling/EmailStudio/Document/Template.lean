import EmailStudio.Document.Block

/-!
# Templates

A template is what an email is made from: a subject and the text shown beside it, settings for the
whole email, and the blocks of its content. Unlike a prop, a field here takes its default only when
it is absent.
-/

namespace EmailStudio

/-- The version of the document format. -/
def formatVersion : String := "1.0"

/-- What the reader's mailbox shows of an email. -/
structure Template.Metadata where
  subject : Value
  preheader : Value

/-- Settings of a whole email. -/
structure Template.Settings where
  backgroundColor : Value
  contentWidth : Value
  fontFamily : Value

/-- An email template. -/
structure Template where
  metadata : Template.Metadata
  settings : Template.Settings
  content : List Block
  version : Value

/-- The value of a field, or its default when it is absent. -/
def Fields.present (fields : Fields) (key : String) (default : Value) : Value :=
  (fields.get? key).getD default

namespace Template

/-- Reads a template without judging it. -/
def ofValue : Value → Except Fault Template
  | .object (fields : Fields) => do
    let metadata ← fields.objectAt "metadata"
    let settings ← fields.objectAt "settings"
    let content ← Block.listIn (fields.get "content")
    return {
      metadata := {
        subject := metadata.present "subject" (.text "")
        preheader := metadata.present "preheader" (.text "") }
      settings := {
        backgroundColor := settings.present "backgroundColor" (.text "#ffffff")
        contentWidth := settings.present "contentWidth" (.int Catalog.maxWidth)
        fontFamily := settings.present "fontFamily" (.text Catalog.defaultFont) }
      content := content
      version := fields.present "version" (.text formatVersion) }
  | _ => .error .noFields

/-- The stored form of a template. -/
def toValue (template : Template) : Value :=
  .object [
    ("version", template.version),
    ("metadata", .object [
      ("subject", template.metadata.subject), ("preheader", template.metadata.preheader)]),
    ("settings", .object [
      ("backgroundColor", template.settings.backgroundColor),
      ("contentWidth", template.settings.contentWidth),
      ("fontFamily", template.settings.fontFamily)]),
    ("content", .list (Block.toItems template.content))]

end Template

end EmailStudio
