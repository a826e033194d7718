import EmailStudio.Schema.Table

/-!
# Statements

A statement changes the tables, the indexes or the rows of a schema. It is carried out as a whole or
not at all; of several statements, those before the first that fails stay in effect.
-/

namespace EmailStudio

/-- A column that has to have a value. -/
structure CellTest where
  column : String
  value : Cell
deriving DecidableEq, Repr

/-- A change of a schema. -/
inductive Statement where
  | createTable (shape : TableShape) (unlessThere : Bool)
  | createIndex (index : TableIndex) (unlessThere : Bool)
  | dropTable (name : String) (ifThere : Bool)
  | dropIndex (name : String) (ifThere : Bool)
  | renameTable (name newName : String)
  | addColumn (table : String) (column : TableColumn)
  /-- Adds rows that name their columns, or all of them, and gives the named columns back. -/
  | insert (table : String) (columns : Option (List String)) (rows : List (List Cell))
      (returning : List String)
  | update (table : String) (changes : List (String × Cell)) (tests : List CellTest)
  | delete (table : String) (tests : List CellTest)
  /-- Reads and changes nothing. -/
  | look (table : String)
deriving DecidableEq, Repr

/-- What a column holds when a row does not say. The moment of writing stands for itself. -/
def TableColumn.defaultCell (column : TableColumn) : Cell :=
  column.default.bind fun
    | .text s => some s
    | .now => some "now"
    | .written s => if sameName s "null" then none else some s

namespace TableShape

/-- A row with the given values; other columns hold their defaults. -/
def row (columns : List String) (values : List Cell) (shape : TableShape) :
    Except SchemaFault (List Cell) :=
  if columns.length = values.length then do
    let places ← columns.mapM fun name => shape.place name
    let given := places.zip values
    return shape.columns.zipIdx.map fun (column, i) =>
      (given.lookup i).getD column.defaultCell
  else .error .valueCount

/-- Whether a row passes all tests. Null passes none. -/
def passes (tests : List CellTest) (shape : TableShape) (row : List Cell) :
    Except SchemaFault Bool :=
  tests.foldlM (fun passed test => do
    let i ← shape.place test.column
    return passed && test.value.isSome && (row[i]?).join = test.value) true

/-- A row after changes of some columns. -/
def changed (changes : List (String × Cell)) (shape : TableShape) (row : List Cell) :
    Except SchemaFault (List Cell) :=
  changes.foldlM (fun row (name, cell) => do return row.set (← shape.place name) cell) row

/-- Whether all columns that are named are there. -/
def knows (names : List String) (shape : TableShape) : Except SchemaFault Unit :=
  names.forM fun name => do let _ ← shape.place name

end TableShape

namespace Schema

/-- Drops a table with the indexes over it. -/
def withoutTable (name : String) (schema : Schema) : Schema where
  tables := schema.tables.filter fun t => !sameName name t.shape.name
  indexes := schema.indexes.filter fun i => !sameName name i.table

/-- Carries out a statement. -/
def perform (schema : Schema) : Statement → Except SchemaFault Schema
  | .createTable shape unlessThere =>
    if unlessThere && (schema.table? shape.name).isSome then .ok schema
    else if schema.has shape.name then .error (.taken shape.name)
    else do
      shape.knows shape.key
      return { schema with tables := schema.tables ++ [⟨shape, []⟩] }
  | .createIndex index unlessThere => do
    if unlessThere && (schema.index? index.name).isSome then return schema
    let table ← schema.table index.table
    if schema.has index.name then throw (.taken index.name)
    table.shape.knows index.columns
    return { schema with indexes := schema.indexes ++ [index] }
  | .dropTable name ifThere =>
    match schema.table? name with
    | some _ => .ok (schema.withoutTable name)
    | none => if ifThere then .ok schema else .error (.missing name)
  | .dropIndex name ifThere =>
    match schema.index? name with
    | some _ =>
      .ok { schema with indexes := schema.indexes.filter fun i => !sameName name i.name }
    | none => if ifThere then .ok schema else .error (.missing name)
  | .renameTable name newName => do
    let table ← schema.table name
    if schema.has newName then throw (.taken newName)
    return {
      tables := schema.tables.map fun t =>
        if sameName name t.shape.name then
          { table with shape := { table.shape with name := newName } }
        else t
      indexes := schema.indexes.map fun i =>
        if sameName name i.table then { i with table := newName } else i }
  | .addColumn name column => do
    let table ← schema.table name
    if (table.shape.place? column.name).isSome then throw (.taken column.name)
    if column.required && column.defaultCell.isNone then throw (.noDefault column.name)
    return schema.setTable {
      shape := { table.shape with columns := table.shape.columns ++ [column] }
      rows := table.rows.map (· ++ [column.defaultCell]) }
  | .insert name columns rows _ => do
    let table ← schema.table name
    let columns := columns.getD (table.shape.columns.map (·.name))
    let rows ← rows.mapM fun values => table.shape.row columns values
    return schema.setTable (← rows.foldlM (fun table row => table.add row) table)
  | .update name changes tests => do
    let table ← schema.table name
    table.shape.knows (changes.map (·.1) ++ tests.map (·.column))
    let rows ← table.rows.mapM fun row => do
      if ← table.shape.passes tests row then table.shape.changed changes row else return row
    return schema.setTable (← table.refill rows)
  | .delete name tests => do
    let table ← schema.table name
    table.shape.knows (tests.map (·.column))
    let rows ← table.rows.filterM fun row => do return !(← table.shape.passes tests row)
    return schema.setTable { table with rows := rows }
  | .look name => do
    let _ ← schema.table name
    return schema

/-- Carries out statements up to the first that fails. -/
def performAll (schema : Schema) : List Statement → Schema × Option SchemaFault
  | [] => (schema, none)
  | statement :: rest =>
    match schema.perform statement with
    | .ok schema => schema.performAll rest
    | .error fault => (schema, some fault)

end Schema

end EmailStudio
