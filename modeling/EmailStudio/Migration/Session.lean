import EmailStudio.Designs.Database
import EmailStudio.Migration.Address
import EmailStudio.Migration.History
import EmailStudio.Schema.Script

/-!
# Sessions of migration

A migration moves the database of designs along its history, or writes the statements of the move
down as a script. The settings say where the database is; a migration gets to know it through the
store of options, whose file lies in the home directory. The file of the database and the table for
marks are made when they are missing, and stay when the move then fails.
-/

namespace EmailStudio

/-- The files of databases by their paths, and the directories that were made for them. -/
structure DatabaseFiles where
  directories : List (List String)
  schemas : List (String × Schema)

/-- What a migration does. -/
inductive MigrationCommand where
  | upgrade
  | downgrade
  | stamp
deriving DecidableEq, Repr

/-- Why a migration fails. -/
inductive MigrationFault where
  /-- A database has a place of its own to start from. -/
  | rangeRefused
  /-- A script backwards has to say where it starts. -/
  | rangeNeeded
  /-- A range has more than two ends. -/
  | rangeMalformed
  | settings (fault : SettingsFault)
  | address (fault : AddressFault)
  /-- There is no address at all. -/
  | noAddress
  | url (fault : DatabaseUrlFault)
  | connection (fault : ConnectionFault)
  | prepare (fault : Database.PrepareFault)
  /-- The directory of the file is missing. -/
  | unreachable
  | route (fault : RouteFault)
  | schema (fault : SchemaFault)

namespace MigrationFault

/-- The wording for a range with more than two ends. -/
def rangeMessage : String := "too many values to unpack (expected 2)"

end MigrationFault

namespace MigrationCommand

/-- The steps of a command from a place. -/
def steps (command : MigrationCommand) (origin : Nat) (target : String) :
    Except RouteFault (List MigrationStep) :=
  match command with
  | upgrade => designHistory.upgrade origin target
  | downgrade => designHistory.downgrade origin target
  | stamp => designHistory.stamp origin target

end MigrationCommand

namespace Schema

/-- The marks that a schema keeps; it may have no table for them. -/
def marks? (schema : Schema) : Except SchemaFault (Option (List String)) :=
  match schema.table? versionTable.name with
  | none => .ok none
  | some table =>
    match table.values? "version_num" with
    | some cells => .ok (some (cells.filterMap id))
    | none => .error (.missing "version_num")

/-- The marks, after the table for them is made where there are none. -/
def withMarks (schema : Schema) : Schema × Except SchemaFault (List String) :=
  match schema.marks? with
  | .error fault => (schema, .error fault)
  | .ok (some (mark :: rest)) => (schema, .ok (mark :: rest))
  | .ok _ =>
    match schema.perform (.createTable versionTable true) with
    | .ok schema => (schema, .ok [])
    | .error fault => (schema, .error fault)

/-- Moves a schema along its history. What was done before a fault stays. -/
def migrate (command : MigrationCommand) (target : String) (schema : Schema) :
    Schema × Except MigrationFault Unit :=
  match schema.withMarks with
  | (schema, .error fault) => (schema, .error (.schema fault))
  | (schema, .ok marks) =>
    let steps : Except RouteFault (List MigrationStep) := do
      command.steps (← designHistory.placeOfMarks marks) target
    match steps with
    | .error fault => (schema, .error (.route fault))
    | .ok steps =>
      match schema.performAll (steps.flatMap (·.statements)) with
      | (schema, none) => (schema, .ok ())
      | (schema, some fault) => (schema, .error (.schema fault))

end Schema

namespace DatabaseFiles

/-- Nothing in the working directory. -/
def empty : DatabaseFiles := ⟨[], []⟩

/-- The names of the directory of a file. -/
def directoryOf (path : String) : List String :=
  (Path.steps path).dropLast

/-- Whether the directory of a file is there. -/
def hasDirectory (path : String) (files : DatabaseFiles) : Bool :=
  (directoryOf path).isEmpty || files.directories.contains (directoryOf path)

/-- The files after the directory of a file and all above it were made. -/
def withDirectory (path : String) (files : DatabaseFiles) : DatabaseFiles :=
  let directory := directoryOf path
  let made := (List.range (directory.length + 1)).map directory.take
  { files with directories := made ++ files.directories }

/-- The schema of a file. -/
def schema? (url : DatabaseUrl) (files : DatabaseFiles) : Option Schema :=
  url.path?.bind fun path => files.schemas.lookup path

/-- The schema of an open file, which is made when it is missing. A database in memory starts
without tables. -/
def opened (url : DatabaseUrl) (files : DatabaseFiles) : Except MigrationFault Schema :=
  match url.path? with
  | none => .ok .empty
  | some path =>
    match files.schemas.lookup path with
    | some schema => .ok schema
    | none => if files.hasDirectory path then .ok .empty else .error .unreachable

/-- The files with a new schema in one of them. A database in memory leaves no trace. -/
def keep (url : DatabaseUrl) (schema : Schema) (files : DatabaseFiles) : DatabaseFiles :=
  match url.path? with
  | none => files
  | some path =>
    { files with schemas := (path, schema) :: files.schemas.filter (·.1 ≠ path) }

end DatabaseFiles

namespace Migration

/-- The address of the database as a migration gets to know it. -/
def address (home : String) (settings : Except SettingsFault Settings) :
    Except MigrationFault String := do
  let settings ← settings.mapError .settings
  (Address.throughStore home settings.databaseUrl).mapError .address

/-- The address of the database that a migration connects to by itself. It is taken out of the store
with all other options. -/
def connectedAddress (home : String) (settings : Except SettingsFault Settings) :
    Except MigrationFault String := do
  let settings ← settings.mapError .settings
  let options ← (Address.allThroughStore home settings.databaseUrl).mapError .address
  return (options.lookup "sqlalchemy.url").getD ""

/-- The ends of a range. -/
def range? (s : String) : Except MigrationFault (Option (String × String)) :=
  match s.splitOn ":" with
  | [_] | [] => .ok none
  | [origin, target] => .ok (some (origin, target))
  | _ => .error .rangeMalformed

/-! ## On a database -/

/-- Works on the schema of an open file. -/
def within (url : DatabaseUrl) (files : DatabaseFiles)
    (work : Schema → Schema × Except MigrationFault Unit) :
    DatabaseFiles × Except MigrationFault Unit :=
  match files.opened url with
  | .error fault => (files, .error fault)
  | .ok schema =>
    let (schema, result) := work schema
    (files.keep url schema, result)

/-- The URL of the database of the application. -/
def applicationUrl (settings : Except SettingsFault Settings) :
    Except MigrationFault DatabaseUrl := do
  let settings ← settings.mapError .settings
  (DatabaseUrl.read settings.databaseUrl).mapError .url

/-- The URL of the database that a migration connects to by itself. -/
def connectedUrl (home : String) (settings : Except SettingsFault Settings) :
    Except MigrationFault DatabaseUrl := do
  let url ← (DatabaseUrl.read (← connectedAddress home settings)).mapError .url
  (Database.connectable url).mapError .connection
  return url

/-- The URL of the database of a connection that is handed over. Its driver need not wait. -/
def handedUrl (settings : Except SettingsFault Settings) : Except MigrationFault DatabaseUrl := do
  let url ← applicationUrl settings
  match Database.connectable url with
  | .ok () | .error .driverWaits => return url
  | .error fault => throw (.connection fault)

/-- Whether a target names a range, which only a script can follow. -/
def refusesTarget (command : MigrationCommand) (target : String) : Bool :=
  command ≠ .stamp && target.toList.contains ':'

/-- Moves a database along its history. -/
def run (home : String) (settings : Except SettingsFault Settings) (command : MigrationCommand)
    (target : String) (files : DatabaseFiles) : DatabaseFiles × Except MigrationFault Unit :=
  if refusesTarget command target then (files, .error .rangeRefused)
  else
    match connectedUrl home settings with
    | .error fault => (files, .error fault)
    | .ok url => within url files (·.migrate command target)

/-- Moves the database of a connection that is handed over. It is open before the move is looked
at, and the address is looked up although nothing connects to it. -/
def runHanded (home : String) (settings : Except SettingsFault Settings)
    (command : MigrationCommand) (target : String) (files : DatabaseFiles) :
    DatabaseFiles × Except MigrationFault Unit :=
  match handedUrl settings with
  | .error fault => (files, .error fault)
  | .ok url => within url files fun schema =>
    if refusesTarget command target then (schema, .error .rangeRefused)
    else
      match address home settings with
      | .error fault => (schema, .error fault)
      | .ok _ => schema.migrate command target

/-- Prepares a database: outside of production its table is made where it is missing. -/
def prepare (settings : Except SettingsFault Settings) (files : DatabaseFiles) :
    DatabaseFiles × Except MigrationFault Unit :=
  let result : Except MigrationFault (DatabaseUrl × Bool) := do
    let url ← applicationUrl settings
    let database ← (Database.prepared (← settings.mapError .settings)).mapError .prepare
    return (url, database matches .ready _)
  match result with
  | .error fault => (files, .error fault)
  | .ok (url, makesTables) =>
    within url (url.path?.elim files files.withDirectory) fun schema =>
      if makesTables then
        match DesignTable.prepare schema with
        | (schema, none) => (schema, .ok ())
        | (schema, some fault) => (schema, .error (.schema fault))
      else (schema, .ok ())

/-- Carries out one statement. -/
def execute (settings : Except SettingsFault Settings)
    (statement : Except SchemaFault Statement) (files : DatabaseFiles) :
    DatabaseFiles × Except MigrationFault Unit :=
  match applicationUrl settings with
  | .error fault => (files, .error fault)
  | .ok url => within url files fun schema =>
    match statement.bind schema.perform with
    | .ok schema => (schema, .ok ())
    | .error fault => (schema, .error (.schema fault))

/-- The schema in the file of the application's database. -/
def schemaOf? (settings : Except SettingsFault Settings) (files : DatabaseFiles) : Option Schema :=
  (applicationUrl settings).toOption.bind fun url => files.schema? url

/-! ## As a script -/

/-- The place that a script starts from and the one it leads to. -/
def ends (command : MigrationCommand) (target : String) :
    Except MigrationFault (String × String) := do
  match ← range? target with
  | some ends => return ends
  | none => if command = .downgrade then throw .rangeNeeded else return ("base", target)

/-- The dialect of a script for the database. -/
def dialect (home : String) (settings : Except SettingsFault Settings) :
    Except MigrationFault Dialect := do
  let text ← address home settings
  if text.isEmpty then throw .noAddress
  let url ← (DatabaseUrl.read text).mapError .url
  match Database.driver? url, Dialect.ofName? url.backend with
  | some _, some dialect => return dialect
  | _, _ => throw (.connection .noDriver)

/-- The lines of a script. A script that starts from the base makes the table for marks first. -/
def scriptLines (origin : Nat) (steps : List MigrationStep) : List ScriptLine :=
  let start := if origin = 0 && !steps.isEmpty then
      [.statement (.createTable versionTable false)]
    else []
  start ++ steps.flatMap fun step =>
    .remark ("Running " ++ step.text) :: step.statements.map .statement

/-- Writes the statements of a move down. -/
def script (home : String) (settings : Except SettingsFault Settings) (command : MigrationCommand)
    (target : String) : Except MigrationFault String := do
  let (origin, target) ← ends command target
  let dialect ← dialect home settings
  let origin ← (designHistory.place origin).mapError .route
  let steps ← (command.steps origin target).mapError .route
  return writeScript dialect (scriptLines origin steps)

end Migration

end EmailStudio
