import EmailStudio.Schema.Statement

/-!
# The table of designs

Designs are kept in one table, whose rows are found by their latest change through an index.
-/

namespace EmailStudio.DesignTable

def name : String := "email_designs"

/-- A column without a default. -/
def column (name : String) (type : ColumnType) (required : Bool) (comment : String) : TableColumn :=
  ⟨name, type, required, none, some comment⟩

/-- The columns, with a default for the markup that mail programs read. -/
def columns (html : Option ColumnDefault) : List TableColumn := [
  column "id" (.varchar 36) true "Email design ID (UUID)",
  column "name" (.varchar 255) true "Display name of the design",
  column "template_json" .text true "Published template JSON",
  column "mjml" .text true "MJML compiled from the template",
  ⟨"html", .text, true, html, some "HTML rendered from the MJML"⟩,
  column "draft_json" .text false "Autosaved draft template JSON",
  ⟨"draft_saved_at", .dateTime, false, none, none⟩,
  ⟨"created_at", .dateTime, true, some .now, none⟩,
  ⟨"updated_at", .dateTime, true, some .now,
    some "Set when the design is published; draft autosaves leave it alone"⟩]

def shape (html : Option ColumnDefault) : TableShape where
  name := name
  columns := columns html
  key := ["id"]
  keyName := none

def index : TableIndex := ⟨"ix_email_designs_updated_at", name, ["updated_at"]⟩

/-- Makes the table and its index. -/
def create (html : Option ColumnDefault) : List Statement :=
  [.createTable (shape html) false, .createIndex index false]

/-- Drops the index and its table. -/
def drop : List Statement :=
  [.dropIndex index.name false, .dropTable name false]

/-- Makes the table in a schema that has none; the markup that mail programs read has no default. -/
def prepare (schema : Schema) : Schema × Option SchemaFault :=
  if (schema.table? name).isSome then (schema, none) else schema.performAll (create none)

end EmailStudio.DesignTable
