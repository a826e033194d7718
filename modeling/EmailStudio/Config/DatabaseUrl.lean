import EmailStudio.Config.Settings
import EmailStudio.Text.Integer
import EmailStudio.Text.Percent
import EmailStudio.Text.WordChar

/-!
# Database URLs

A database URL names a driver, and after two slashes what the driver connects to: user and password
before an at sign, host and port, a database behind a slash, and parameters behind a question mark.
-/

namespace EmailStudio

/-- The parts of a database URL. -/
structure DatabaseUrl where
  driver : String
  username : Option String
  password : Option String
  host : Option String
  port : Option Int
  database : Option String
  /-- The parameters as they are written. -/
  parameters : Option String
deriving DecidableEq, Repr

/-- Why a text is no database URL. -/
inductive DatabaseUrlFault where
  | noDriver
  | port (s : String)
  | hugePort (digits : Nat)
deriving DecidableEq, Repr

namespace DatabaseUrl

/-! ## Reading -/

/-- Splits off the driver, which is made of word characters and plus signs. -/
def takeDriver (cs : List Char) : Option (String × List Char) :=
  let driver := cs.takeWhile fun c => Text.isWordChar c || c = '+'
  match cs.drop driver.length with
  | ':' :: '/' :: '/' :: rest => if driver.isEmpty then none else some (String.ofList driver, rest)
  | _ => none

/-- Splits at the last occurrence of a character. -/
def splitLast? (mark : Char) (cs : List Char) : Option (List Char × List Char) :=
  let tail := cs.reverse.takeWhile (· ≠ mark)
  if tail.length = cs.length then none
  else some (cs.take (cs.length - tail.length - 1), tail.reverse)

/-- Splits off user and password. The user ends at the first colon, or at the last at sign before
the first colon or slash; a password reaches to the next at sign. -/
def takeUser (cs : List Char) : Option (List Char) × Option (List Char) × List Char :=
  let head := cs.takeWhile fun c => c ≠ ':' && c ≠ '/'
  let withPassword : Option (List Char × List Char) :=
    match cs.drop head.length with
    | ':' :: rest =>
      let password := rest.takeWhile (· ≠ '@')
      if password.length < rest.length then some (password, rest.drop (password.length + 1))
      else none
    | _ => none
  match withPassword with
  | some (password, rest) => (some head, some password, rest)
  | none =>
    match splitLast? '@' head with
    | some (user, tail) => (some user, none, tail ++ cs.drop head.length)
    | none => (none, none, cs)

/-- Splits off the host, which may stand in brackets. -/
def takeHost (cs : List Char) : Option (List Char) × List Char :=
  let bracketed : Option (List Char × List Char) :=
    match cs with
    | '[' :: rest =>
      let inner := rest.takeWhile fun c => c ≠ '/' && c ≠ '?'
      match splitLast? ']' inner with
      | some ([], _) | none => none
      | some (host, tail) => some (host, tail ++ rest.drop inner.length)
    | _ => none
  match bracketed with
  | some (host, rest) => (some host, rest)
  | none =>
    let host := cs.takeWhile fun c => c ≠ '/' && c ≠ ':' && c ≠ '?'
    (if host.isEmpty then none else some host, cs.drop host.length)

/-- Splits off the text behind a mark, up to a character that ends it. -/
def takeBehind (mark : Char) (stop : Char → Bool) (cs : List Char) :
    Option (List Char) × List Char :=
  match cs with
  | c :: rest =>
    if c = mark then
      let part := rest.takeWhile fun c => !stop c
      (some part, rest.drop part.length)
    else (none, cs)
  | [] => (none, cs)

/-- Reads a database URL. -/
def read (s : String) : Except DatabaseUrlFault DatabaseUrl :=
  match takeDriver s.toList with
  | none => .error .noDriver
  | some (driver, rest) =>
    let (user, password, rest) := takeUser rest
    let (host, rest) := takeHost rest
    let (port, rest) := takeBehind ':' (fun c => c = '/' || c = '?') rest
    let (database, rest) := takeBehind '/' (· = '?') rest
    let (parameters, _) := takeBehind '?' (· = '\n') rest
    let url (port : Option Int) : DatabaseUrl := {
      driver := driver
      username := user.map fun cs => Text.unquote (String.ofList cs)
      password := password.map fun cs => Text.unquote (String.ofList cs)
      host := host.map String.ofList
      port := port
      database := database.map fun cs => Text.unquote (String.ofList cs)
      parameters := parameters.map String.ofList }
    match port with
    | none | some [] => .ok (url none)
    | some digits =>
      match Text.readInteger (String.ofList digits) with
      | .number n => .ok (url (some n))
      | .malformed => .error (.port (String.ofList digits))
      | .tooLong n => .error (.hugePort n)

/-! ## What a URL leads to -/

/-- The sort of database, which is the driver up to a plus sign. -/
def backend (url : DatabaseUrl) : String :=
  String.ofList (url.driver.toList.takeWhile (· ≠ '+'))

/-- The driver behind the plus sign. -/
def dialectDriver (url : DatabaseUrl) : Option String :=
  match url.driver.splitOn "+" with
  | _ :: driver :: _ => some driver
  | _ => none

def isSqlite (url : DatabaseUrl) : Bool :=
  url.backend = "sqlite"

/-- Whether a file database lives in memory. -/
def isMemory (url : DatabaseUrl) : Bool :=
  url.database.all fun name => name.isEmpty || name = ":memory:"

/-- The file of a file database. -/
def path? (url : DatabaseUrl) : Option String :=
  if url.isSqlite && !url.isMemory then url.database.map Path.tidy else none

/-- The options that connections are made with. A file database is shared between threads and, in
memory, kept on one connection; others are pooled. -/
def options (url : DatabaseUrl) (settings : Settings) : Fields :=
  [("echo", .bool settings.dbEcho)]
    ++ (if url.isSqlite then
      [("connect_args", .object [("check_same_thread", .bool false)])]
        ++ (if url.isMemory then [("poolclass", .text "StaticPool")] else [])
    else
      [("pool_size", .int settings.dbPoolSize), ("max_overflow", .int settings.dbMaxOverflow),
        ("pool_timeout", .int settings.dbPoolTimeout),
        ("pool_recycle", .int settings.dbPoolRecycle), ("pool_pre_ping", .bool true)])

end DatabaseUrl

end EmailStudio
