/-!
# Tables

A table has columns, a key and rows, and a schema holds tables and indexes by name. Names are equal
whatever the case of their ASCII letters, and tables and indexes share one space of names. Every
row that is kept fills its required columns, and no two rows have the same key.
-/

namespace EmailStudio

/-- The type of a column. -/
inductive ColumnType where
  | varchar (length : Nat)
  | text
  | dateTime
  /-- A type under a name of its own; a column may also be declared with none. -/
  | named (name : String)
deriving DecidableEq, Repr

/-- What a column holds when a row does not say. -/
inductive ColumnDefault where
  | text (s : String)
  | now
  /-- An expression as it is written. -/
  | written (s : String)
deriving DecidableEq, Repr

/-- A column of a table. -/
structure TableColumn where
  name : String
  type : ColumnType
  required : Bool
  default : Option ColumnDefault
  comment : Option String
deriving DecidableEq, Repr

/-- What a table looks like. -/
structure TableShape where
  name : String
  columns : List TableColumn
  /-- The columns that tell rows apart. -/
  key : List String
  /-- The name of the rule that keys differ. -/
  keyName : Option String
deriving DecidableEq, Repr

/-- The value of a column in a row; none stands for null. -/
abbrev Cell := Option String

/-- A table and its rows. -/
structure Table where
  shape : TableShape
  rows : List (List Cell)
deriving DecidableEq, Repr

/-- An index over columns of a table. -/
structure TableIndex where
  name : String
  table : String
  columns : List String
deriving DecidableEq, Repr

/-- The tables and indexes of a database. -/
structure Schema where
  tables : List Table
  indexes : List TableIndex
deriving DecidableEq, Repr

/-- Why a statement fails. -/
inductive SchemaFault where
  /-- A name is in use already. -/
  | taken (name : String)
  /-- There is no such table, index or column. -/
  | missing (name : String)
  /-- A row has another number of values than columns are named. -/
  | valueCount
  /-- A column that must be filled has no default. -/
  | noDefault (column : String)
  /-- A required column would hold null. -/
  | null (column : String)
  /-- Two rows would have one key. -/
  | sameKey
  /-- The statement cannot be read. -/
  | unreadable
deriving DecidableEq, Repr

namespace SchemaFault

/-- Whether a rule about rows is broken, and not a rule about statements. -/
def isBrokenRule : SchemaFault → Bool
  | null _ | sameKey => true
  | _ => false

end SchemaFault

/-- Whether two names are the same but for the case of ASCII letters. -/
def sameName (a b : String) : Bool :=
  a.map Char.toLower = b.map Char.toLower

namespace TableShape

/-- The place of a column. -/
def place? (name : String) (shape : TableShape) : Option Nat :=
  shape.columns.findIdx? (sameName name ·.name)

/-- The place of a column, which must be there. -/
def place (name : String) (shape : TableShape) : Except SchemaFault Nat :=
  match shape.place? name with
  | some i => .ok i
  | none => .error (.missing name)

/-- Whether a column is part of the key. -/
def isKey (column : TableColumn) (shape : TableShape) : Bool :=
  shape.key.any (sameName column.name ·)

/-- The key of a row. -/
def keyOf (row : List Cell) (shape : TableShape) : List Cell :=
  shape.key.map fun name => ((shape.place? name).bind (row[·]?)).join

/-- The required column that a row leaves empty. -/
def emptied? (row : List Cell) (shape : TableShape) : Option TableColumn :=
  ((shape.columns.zip row).find? fun (column, cell) => column.required && cell.isNone).map (·.1)

/-- Whether two rows have one key. A key that holds null is like no other. -/
def sameKey (shape : TableShape) (a b : List Cell) : Bool :=
  !shape.key.isEmpty && shape.keyOf a = shape.keyOf b && (shape.keyOf a).all Option.isSome

end TableShape

namespace Table

/-- Adds a row when no rule is broken. -/
def add (row : List Cell) (table : Table) : Except SchemaFault Table :=
  match table.shape.emptied? row with
  | some column => .error (.null column.name)
  | none =>
    if table.rows.any (table.shape.sameKey row) then .error .sameKey
    else .ok { table with rows := table.rows ++ [row] }

/-- Puts rows in place of the ones that are there, one after the other. -/
def refill (rows : List (List Cell)) (table : Table) : Except SchemaFault Table :=
  rows.foldlM (fun table row => table.add row) { table with rows := [] }

/-- The values of a column. -/
def values? (name : String) (table : Table) : Option (List Cell) :=
  (table.shape.place? name).map fun i => table.rows.map fun row => (row[i]?).join

end Table

namespace Schema

def empty : Schema := ⟨[], []⟩

def table? (name : String) (schema : Schema) : Option Table :=
  schema.tables.find? (sameName name ·.shape.name)

def index? (name : String) (schema : Schema) : Option TableIndex :=
  schema.indexes.find? (sameName name ·.name)

/-- The table of a name, which must be there. -/
def table (name : String) (schema : Schema) : Except SchemaFault Table :=
  match schema.table? name with
  | some table => .ok table
  | none => .error (.missing name)

/-- Whether a table or an index has a name. -/
def has (name : String) (schema : Schema) : Bool :=
  (schema.table? name).isSome || (schema.index? name).isSome

/-- Puts a table in the place of the one with its name. -/
def setTable (table : Table) (schema : Schema) : Schema :=
  { schema with tables := schema.tables.map fun t =>
      if sameName t.shape.name table.shape.name then table else t }

/-- The indexes over a table. -/
def indexesOf (name : String) (schema : Schema) : List TableIndex :=
  schema.indexes.filter (sameName name ·.table)

end Schema

end EmailStudio
