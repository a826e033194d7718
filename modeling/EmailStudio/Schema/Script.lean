import EmailStudio.Schema.Statement

/-!
# Scripts

Statements can be written down as a script for a database of another sort. Dialects differ in the
names of types, in the word for the present moment, in whether comments on columns are kept, and in
whether a script is one transaction.
-/

namespace EmailStudio

/-- The sorts of databases that scripts are written for. -/
inductive Dialect where
  | sqlite
  | postgresql
deriving DecidableEq, Repr

namespace Dialect

/-- The dialect of a sort of database. -/
def ofName? : String → Option Dialect
  | "sqlite" => some sqlite
  | "postgresql" => some postgresql
  | _ => none

/-- Whether a script is carried out as a whole or not at all. -/
def transactional : Dialect → Bool
  | sqlite => false
  | postgresql => true

/-- Whether comments on columns are kept. -/
def keepsComments : Dialect → Bool
  | sqlite => false
  | postgresql => true

/-- The type of a moment. -/
def dateTime : Dialect → String
  | sqlite => "DATETIME"
  | postgresql => "TIMESTAMP WITHOUT TIME ZONE"

/-- The present moment. -/
def now : Dialect → String
  | sqlite => "CURRENT_TIMESTAMP"
  | postgresql => "now()"

/-- The column that a statement gives back. -/
def returned (table column : String) : Dialect → String
  | sqlite => column
  | postgresql => table ++ "." ++ column

end Dialect

/-- A text between quotes, which are written twice inside of it. -/
def quotedText (s : String) : String :=
  "'" ++ s.replace "'" "''" ++ "'"

/-- A value as it is written in a statement. -/
def Cell.write : Cell → String
  | some s => quotedText s
  | none => "NULL"

/-- Names between commas. -/
def commaList (names : List String) : String :=
  ", ".intercalate names

namespace ColumnType

/-- The name of a type. -/
def write (dialect : Dialect) : ColumnType → String
  | varchar n => "VARCHAR(" ++ toString n ++ ")"
  | text => "TEXT"
  | dateTime => dialect.dateTime
  | named s => s

end ColumnType

namespace ColumnDefault

/-- The expression of a default. -/
def write (dialect : Dialect) : ColumnDefault → String
  | text s => quotedText s
  | now => dialect.now
  | written s => s

end ColumnDefault

namespace TableColumn

/-- The definition of a column. -/
def write (dialect : Dialect) (column : TableColumn) : String :=
  column.name ++ " " ++ column.type.write dialect
    ++ (match column.default with
      | some d => " DEFAULT " ++ d.write dialect
      | none => "")
    ++ (if column.required then " NOT NULL" else "")

end TableColumn

namespace TableShape

/-- The rule that keys differ. -/
def writeKey (shape : TableShape) : String :=
  (match shape.keyName with
    | some name => "CONSTRAINT " ++ name ++ " "
    | none => "")
    ++ "PRIMARY KEY (" ++ commaList shape.key ++ ")"

/-- The statement that makes a table. -/
def write (dialect : Dialect) (shape : TableShape) : String :=
  let lines := shape.columns.map (·.write dialect)
    ++ (if shape.key.isEmpty then [] else [shape.writeKey])
  "CREATE TABLE " ++ shape.name ++ " (\n"
    ++ ", \n".intercalate (lines.map ("    " ++ ·)) ++ "\n)"

/-- The statements that comment on columns. -/
def writeComments (dialect : Dialect) (shape : TableShape) : List String :=
  if dialect.keepsComments then
    shape.columns.filterMap fun column => column.comment.map fun comment =>
      "COMMENT ON COLUMN " ++ shape.name ++ "." ++ column.name ++ " IS " ++ quotedText comment
  else []

end TableShape

namespace Statement

/-- The condition of a statement. -/
def writeTests (table : String) (tests : List CellTest) : String :=
  if tests.isEmpty then ""
  else " WHERE " ++ " AND ".intercalate
    (tests.map fun test => table ++ "." ++ test.column ++ " = " ++ test.value.write)

/-- The statement as a dialect has it, together with the comments on new columns. -/
def write (dialect : Dialect) : Statement → List String
  | createTable shape _ => shape.write dialect :: shape.writeComments dialect
  | createIndex index _ =>
    ["CREATE INDEX " ++ index.name ++ " ON " ++ index.table ++ " (" ++ commaList index.columns
      ++ ")"]
  | dropTable name _ => ["DROP TABLE " ++ name]
  | dropIndex name _ => ["DROP INDEX " ++ name]
  | renameTable name newName => ["ALTER TABLE " ++ name ++ " RENAME TO " ++ newName]
  | addColumn table column => ["ALTER TABLE " ++ table ++ " ADD COLUMN " ++ column.write dialect]
  | insert table columns rows returning =>
    ["INSERT INTO " ++ table
      ++ (match columns with
        | some columns => " (" ++ commaList columns ++ ")"
        | none => "")
      ++ " VALUES "
      ++ commaList (rows.map fun row => "(" ++ commaList (row.map Cell.write) ++ ")")
      ++ (if returning.isEmpty then ""
        else " RETURNING " ++ commaList (returning.map (dialect.returned table ·)))]
  | update table changes tests =>
    ["UPDATE " ++ table ++ " SET "
      ++ commaList (changes.map fun (name, cell) => name ++ "=" ++ cell.write)
      ++ writeTests table tests]
  | delete table tests => ["DELETE FROM " ++ table ++ writeTests table tests]
  | look table => ["SELECT * FROM " ++ table]

end Statement

/-- A line of a script. -/
inductive ScriptLine where
  | statement (s : Statement)
  | remark (s : String)
deriving DecidableEq, Repr

namespace ScriptLine

/-- The paragraphs of a line. A statement ends with a semicolon. -/
def write (dialect : Dialect) : ScriptLine → List String
  | statement s => (s.write dialect).map (· ++ ";")
  | remark s => ["-- " ++ s]

end ScriptLine

/-- Writes a script: every paragraph is followed by an empty line. -/
def writeScript (dialect : Dialect) (script : List ScriptLine) : String :=
  let paragraphs := script.flatMap (·.write dialect)
  let whole := if dialect.transactional then ["BEGIN;"] ++ paragraphs ++ ["COMMIT;"] else paragraphs
  String.join (whole.map (· ++ "\n\n"))

end EmailStudio
