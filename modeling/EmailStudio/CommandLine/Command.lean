import EmailStudio.CommandLine.Arguments
import EmailStudio.Log.Level
import EmailStudio.Storage.Directory
import EmailStudio.Text.Integer

/-!
# Commands

The first operand names a command and the arguments behind it are those of the command. Files that a
command reads must be there, and files that it writes must not be directories.
-/

namespace EmailStudio.CommandLine

/-- A command with its arguments. -/
inductive Command where
  | serve (host : Option String) (port workers : Option Int) (reload : Bool)
  | validate (file : String)
  | compile (file : String) (output : Option String) (asHtml : Bool)
  | preview (file : String) (output : Option String)
  | initDb (force : Bool)
  | info (checkStorage : Bool)
deriving DecidableEq, Repr

/-- What arguments ask for. -/
inductive Asked (α : Type) where
  | proper (a : α)
  | help
  | version
  /-- The arguments make no sense. -/
  | misuse
deriving DecidableEq, Repr

/-- The names of commands. -/
inductive CommandName where
  | serve
  | validate
  | compile
  | preview
  | initDb
  | info
deriving DecidableEq, Repr

namespace CommandName

def text : CommandName → String
  | serve => "serve"
  | validate => "validate"
  | compile => "compile"
  | preview => "preview"
  | initDb => "init-db"
  | info => "info"

def ofText? (s : String) : Option CommandName :=
  [serve, validate, compile, preview, initDb, info].find? (·.text = s)

/-- The options of a command. -/
def forms : CommandName → List OptionForm
  | serve =>
    [valued "host" none, valued "port" none, valued "workers" none, flag "reload", flag "help"]
  | validate => [flag "help"]
  | compile => [valued "output" (some 'o'), flag "html", flag "help"]
  | preview => [valued "output" (some 'o'), flag "help"]
  | initDb => [flag "force", flag "help"]
  | info => [flag "check-storage", flag "help"]

end CommandName

/-- What the arguments before the command ask for. -/
structure Opening where
  /-- The level of the log, where it overrides the settings. -/
  logLevel : Option LogLevel
  command : CommandName
  arguments : List String
deriving DecidableEq, Repr

namespace Opening

/-- The options before the command. -/
def forms : List OptionForm := [valued "log-level" none, flag "version", flag "help"]

/-- Reads the arguments of the program. -/
def read (arguments : List String) : Asked Opening :=
  match Arguments.read forms true arguments with
  | none => .misuse
  | some given =>
    match given.options.find? fun (name, _) => name = "version" || name = "help" with
    | some ("version", _) => .version
    | some _ => .help
    | none =>
      let level := (given.value? "log-level").map LogLevel.ofSettingName?
      match level, given.operands with
      | some none, _ | _, [] => .misuse
      | level, name :: arguments =>
        match CommandName.ofText? name with
        | some command => .proper ⟨level.join, command, arguments⟩
        | none => .misuse

end Opening

namespace Command

/-- A number among the arguments: none where the option is not given. -/
def number? (value : Option String) : Option (Option Int) :=
  match value with
  | none => some none
  | some s =>
    match Text.readInteger s with
    | .number n => some (some n)
    | _ => none

/-- Builds a command from its arguments. -/
def build (directory : Tree) (given : Arguments) : CommandName → Option Command
  | .serve =>
    match number? (given.value? "port"), number? (given.value? "workers"), given.operands with
    | some port, some workers, [] =>
      some (serve (given.value? "host") port workers (given.isGiven "reload"))
    | _, _, _ => none
  | .validate =>
    match given.operands with
    | [file] => if Directory.isFile directory file then some (validate file) else none
    | _ => none
  | .compile =>
    match given.operands, given.value? "output" with
    | [file], output =>
      if Directory.isFile directory file && !output.any (Directory.isDirectory directory) then
        some (compile file output (given.isGiven "html"))
      else none
    | _, _ => none
  | .preview =>
    match given.operands, given.value? "output" with
    | [file], output =>
      if Directory.isFile directory file && !output.any (Directory.isDirectory directory) then
        some (preview file output)
      else none
    | _, _ => none
  | .initDb => if given.operands.isEmpty then some (initDb (given.isGiven "force")) else none
  | .info => if given.operands.isEmpty then some (info (given.isGiven "check-storage")) else none

/-- Reads the arguments of a command. -/
def read (directory : Tree) (name : CommandName) (arguments : List String) : Asked Command :=
  match Arguments.read name.forms false arguments with
  | none => .misuse
  | some given =>
    if given.isGiven "help" then .help
    else
      match build directory given name with
      | some command => .proper command
      | none => .misuse

end Command

end EmailStudio.CommandLine
