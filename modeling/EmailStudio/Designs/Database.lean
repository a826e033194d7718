import EmailStudio.Config.DatabaseUrl
import EmailStudio.Designs.Store

/-!
# The database of designs

Designs are kept in a database that a URL leads to. It may turn out that no driver takes the URL,
that the database cannot be reached or that it has no tables yet; designs can be read and saved only
when all is in place.
-/

namespace EmailStudio

/-- Why no connection can be made. -/
inductive ConnectionFault where
  /-- The URL cannot be read. -/
  | url (fault : DatabaseUrlFault)
  /-- No driver takes the URL. -/
  | noDriver
  /-- The driver can only wait for its answers. -/
  | driverWaits
  /-- The driver is not installed. -/
  | driverMissing
deriving DecidableEq, Repr

/-- The state of the database of designs. -/
inductive Database where
  | ready (store : DesignStore)
  | withoutTables
  /-- The directory of the file is missing, or the file is none. -/
  | unreachable
  | unusable (fault : ConnectionFault)

namespace Database

/-- The sorts of databases that are known, with the drivers of each. -/
def drivers : List (String × List String) := [
  ("sqlite", ["pysqlite", "aiosqlite"]),
  ("postgresql", ["psycopg2", "psycopg", "asyncpg", "pg8000", "psycopg2cffi"]),
  ("mysql", ["mysqldb", "pymysql", "asyncmy", "aiomysql", "mysqlconnector", "cymysql", "pyodbc"]),
  ("mariadb", ["mysqldb", "pymysql", "asyncmy", "aiomysql", "mysqlconnector", "cymysql", "pyodbc",
    "mariadbconnector"]),
  ("oracle", ["cx_oracle", "oracledb"]),
  ("mssql", ["pyodbc", "pymssql", "aioodbc"])]

/-- The driver of a URL, if it is known. A URL may leave it to the sort of database. -/
def driver? (url : DatabaseUrl) : Option String :=
  match drivers.lookup url.backend with
  | none => none
  | some known =>
    match url.dialectDriver with
    | none => known.head?
    | some driver => if known.contains driver then some driver else none

/-- Whether a connection can be made with a URL. Only one driver is installed that does not wait. -/
def connectable (url : DatabaseUrl) : Except ConnectionFault Unit :=
  match driver? url with
  | none => .error .noDriver
  | some driver =>
    if !url.isSqlite then .error .driverMissing
    else if driver = "aiosqlite" then .ok ()
    else .error .driverWaits

/-- The database that settings lead to when nothing has been prepared: there are no tables, and no
directories are made for a file. -/
def found (settings : Settings) : Database :=
  match DatabaseUrl.read settings.databaseUrl with
  | .error fault => .unusable (.url fault)
  | .ok url =>
    match connectable url with
    | .error fault => .unusable fault
    | .ok () =>
      match url.path? with
      | none => .withoutTables
      | some path => if (Path.steps path).dropLast.isEmpty then .withoutTables else .unreachable

/-- Why a database could not be prepared. -/
inductive PrepareFault where
  | url (fault : DatabaseUrlFault)
  | driverMissing
  | unreachable
deriving DecidableEq, Repr

namespace PrepareFault

/-- The wording when there is no connection. -/
def unreachableMessage : String := "Failed to connect to database"

end PrepareFault

/-- The database after it was prepared: directories are made, and outside of production the tables
as well. -/
def prepared (settings : Settings) : Except PrepareFault Database :=
  match DatabaseUrl.read settings.databaseUrl with
  | .error fault => .error (.url fault)
  | .ok url =>
    match connectable url with
    | .error .driverMissing => .error .driverMissing
    | .error _ => .error .unreachable
    | .ok () =>
      .ok (if settings.environment = .production then .withoutTables else .ready .empty)

end Database

end EmailStudio
