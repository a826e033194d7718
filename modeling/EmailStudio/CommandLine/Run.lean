import EmailStudio.CommandLine.Command
import EmailStudio.Config.VariableFile
import EmailStudio.Designs.Database
import EmailStudio.Publishing.Publisher
import EmailStudio.Storage.Images
import EmailStudio.Text.Lines

/-!
# Running commands

A run takes its arguments, a working directory, variables and input, and comes to an outcome: an
exit code, what was printed, the directory as it is left, and the server that is to be started.
-/

namespace EmailStudio.CommandLine

/-- What a run works with. -/
structure Workplace where
  directory : Tree
  environment : List (String × String)
  input : String
  engine : Engine

/-- How a server is to be started. -/
structure ServerOptions where
  host : String
  port : Int
  workers : Int
  reload : Bool
  logLevel : LogLevel
deriving DecidableEq, Repr

/-- What a command did not foresee. -/
inductive CommandFault where
  | settings (fault : SettingsFault)
  | fault (fault : Fault)
  | output (fault : OutputFault)
  | database (fault : Database.PrepareFault)

/-- What a run comes to. -/
structure Outcome where
  exit : Nat
  output : String
  errors : String
  directory : Tree
  server : Option ServerOptions
  fault : Option CommandFault

namespace Outcome

/-- Nothing has happened. -/
def start (workplace : Workplace) : Outcome := ⟨0, "", "", workplace.directory, none, none⟩

/-- Prints a line. -/
def say (outcome : Outcome) (line : String) : Outcome :=
  { outcome with output := outcome.output ++ line ++ "\n" }

/-- Prints a line where errors are printed. -/
def warn (outcome : Outcome) (line : String) : Outcome :=
  { outcome with errors := outcome.errors ++ line ++ "\n" }

def warnAll (outcome : Outcome) (lines : List String) : Outcome :=
  lines.foldl warn outcome

def fail (outcome : Outcome) (code : Nat) : Outcome := { outcome with exit := code }

/-- Ends with something that was not foreseen. -/
def breakOff (outcome : Outcome) (fault : CommandFault) : Outcome :=
  { outcome with exit := 1, fault := some fault }

end Outcome

/-! ## Files -/

/-- Why a template could not be loaded. -/
inductive LoadFault where
  /-- The file holds no document. -/
  | notDocument (message : String)
  | fault (fault : Fault)

/-- The document in a file. -/
def loadTemplate (directory : Tree) (file : String) : Except LoadFault Value :=
  let cs := (Text.asRead ((Directory.readText? directory file).getD "")).toList
  match Value.read cs with
  | .ok v => .ok v
  | .error fault =>
    match fault.problem with
    | .tooManyDigits count => .error (.fault (.tooManyDigits count))
    | _ => .error (.notDocument (fault.message cs))

/-- Tells that a template could not be loaded. -/
def tellLoadFault (outcome : Outcome) (file : String) : LoadFault → Outcome
  | .notDocument message =>
    (outcome.warn ("Error: " ++ file ++ " is not valid JSON: " ++ message)).fail 1
  | .fault fault => outcome.breakOff (.fault fault)

/-- Writes a result to a file or, without one, prints it. -/
def deliver (outcome : Outcome) (content : String) (output : Option String) : Outcome :=
  match output.filter fun path => !path.isEmpty with
  | none => outcome.say content
  | some path =>
    match Directory.writeText outcome.directory path content with
    | .ok directory => { outcome with directory := directory }.warn ("Wrote " ++ path)
    | .error fault => outcome.breakOff (.output fault)

/-- Delivers HTML after what was said about it; without HTML there is nothing to deliver. -/
def deliverHtml (outcome : Outcome) (rendering : Rendering) (output : Option String) : Outcome :=
  let outcome := outcome.warnAll
    (rendering.diagnostics.map fun d => "Warning: " ++ d.formattedMessage)
  if rendering.html.isEmpty then
    (outcome.warn "Error: MJML rendering produced no HTML").fail 1
  else deliver outcome rendering.html output

/-! ## Commands -/

def runValidate (outcome : Outcome) (file : String) : Outcome :=
  match loadTemplate outcome.directory file with
  | .error fault => tellLoadFault outcome file fault
  | .ok candidate =>
    match Template.errors candidate with
    | [] => outcome.say (file ++ ": valid")
    | errors => (outcome.warnAll (errors.map fun e => file ++ ": " ++ e)).fail 1

def runCompile (outcome : Outcome) (settings : Settings) (engine : Engine) (file : String)
    (output : Option String) (asHtml : Bool) : Outcome :=
  match loadTemplate outcome.directory file with
  | .error fault => tellLoadFault outcome file fault
  | .ok candidate =>
    let publisher : Publisher := ⟨engine, settings.validationLevel, asHtml⟩
    match publisher.publish candidate with
    | .error (.invalid errors) => (outcome.warnAll (errors.map fun e => file ++ ": " ++ e)).fail 1
    | .error (.fault fault) => outcome.breakOff (.fault fault)
    | .ok published =>
      if asHtml then deliverHtml outcome published.rendering output
      else deliver outcome published.markup output

def runPreview (outcome : Outcome) (settings : Settings) (engine : Engine) (file : String)
    (output : Option String) : Outcome :=
  let markup := Text.asRead ((Directory.readText? outcome.directory file).getD "")
  match engine.render settings.validationLevel markup with
  | .error fault => outcome.breakOff (.fault fault)
  | .ok rendering => deliverHtml outcome rendering output

/-- The question before tables are created. -/
def question : String := "This will create all database tables. Continue? [y/N]: "

/-- The lines of an input. -/
def inputLines (input : String) : List String :=
  let lines := (Text.splitAll '\n' (Text.unifyLines input.toList)).map String.ofList
  if lines.getLast? = some "" then lines.dropLast else lines

/-- Asks until an answer is understood; an empty one is a no, and so is the end of the input. -/
def confirm (outcome : Outcome) : List String → Outcome × Bool
  | [] => ({ outcome with output := outcome.output ++ question }, false)
  | line :: rest =>
    let outcome := outcome.say (question ++ line)
    let answer := Text.strip (Text.lower line)
    if answer = "y" ∨ answer = "yes" then (outcome, true)
    else if answer = "n" ∨ answer = "no" ∨ answer = "" then (outcome, false)
    else confirm (outcome.say "Error: invalid input") rest

/-- Creates the tables. -/
def createTables (outcome : Outcome) (settings : Settings) : Outcome :=
  match Database.prepared settings with
  | .error fault => outcome.breakOff (.database fault)
  | .ok _ => outcome.say "Database initialized successfully."

def runInitDb (outcome : Outcome) (settings : Settings) (input : String) (force : Bool) : Outcome :=
  if force then createTables outcome settings
  else if settings.environment = .production then
    (outcome.warn "ERROR: Running in production mode. Use migrations instead of init-db.").fail 1
  else
    match confirm outcome (inputLines input) with
    | (outcome, true) => createTables outcome settings
    | (outcome, false) => (outcome.warn "Aborted!").fail 1

/-- The overview of the settings. -/
def overview (settings : Settings) : String :=
  "\n".intercalate [
    "",
    "MailBlocks v" ++ settings.appVersion,
    "========================================",
    "",
    "Configuration:",
    "  Environment:  " ++ settings.environment.name,
    "  Debug:        " ++ (Value.bool settings.debug).plain,
    "  API Prefix:   " ++ settings.apiStart,
    "  External URL: " ++ settings.externalUrl,
    "",
    "Database:",
    "  URL:          " ++ settings.databaseUrl,
    "",
    "Storage:",
    "  Provider:     " ++ settings.storageKind.name,
    "  Path:         " ++ settings.storagePath,
    "  S3 Bucket:    " ++ (BucketSettings.given? settings.s3Bucket).getD "-",
    "",
    "Rendering:",
    "  Validation:   " ++ settings.validationLevel.name,
    "  HTML on save: " ++ (Value.bool settings.rendersHtmlOnSave).plain,
    "",
    "Logging:",
    "  Level:        " ++ settings.logLevel.settingName,
    "  Format:       " ++ settings.logFormat.name,
    ""]

/-- Tries out the store of images. -/
def testStorage (directory : Tree) (settings : Settings) : Bool × String :=
  match settings.storageKind with
  | .bucket => settings.bucketSettings.tested (.response none none)
  | .disk =>
    let store := settings.localStore []
    match Directory.below? store.root directory with
    | .ok tree => ({ store with tree := tree } : LocalStore).test.2
    | .error _ =>
      (false, "Local storage test failed: [Errno 20] Not a directory: '" ++ store.label ++ "'")

def runInfo (outcome : Outcome) (settings : Settings) (checkStorage : Bool) : Outcome :=
  let outcome := outcome.say (overview settings)
  if checkStorage then
    match testStorage outcome.directory settings with
    | (true, message) => outcome.say ("Storage check: " ++ message)
    | (false, message) => (outcome.warn ("Storage check: " ++ message)).fail 1
  else outcome

/-- A number that was given and is not zero, or else the one of the settings. -/
def overriding (given : Option Int) (setting : Int) : Int :=
  (given.filter (· ≠ 0)).getD setting

/-- How the server is to be started: arguments override settings, and a server that reloads has one
worker. -/
def serverOptions (settings : Settings) (host : Option String) (port workers : Option Int)
    (reload : Bool) : ServerOptions where
  host := (host.filter fun h => !h.isEmpty).getD settings.host
  port := overriding port settings.port
  workers := if reload then 1 else overriding workers settings.workers
  reload := reload
  logLevel := settings.logLevel

/-- Runs a command. -/
def Command.run (workplace : Workplace) (settings : Settings) (outcome : Outcome) :
    Command → Outcome
  | serve host port workers reload =>
    { outcome with server := some (serverOptions settings host port workers reload) }
  | validate file => runValidate outcome file
  | compile file output asHtml =>
    runCompile outcome settings workplace.engine file output asHtml
  | preview file output => runPreview outcome settings workplace.engine file output
  | initDb force => runInitDb outcome settings workplace.input force
  | info checkStorage => runInfo outcome settings checkStorage

/-- The file of variables in a working directory. -/
def variableFile : String := ".env"

/-- The settings of a workplace. -/
def settingsOf (workplace : Workplace) : Except SettingsFault Settings :=
  let file := (Directory.readText? workplace.directory variableFile).getD ""
  Settings.load [] workplace.environment
    (VariableFile.bindings workplace.environment file)

/-- The line that tells the version. -/
def versionLine : String := "MailBlocks, version 0.1.0"

/-- Runs the program with arguments. -/
def run (workplace : Workplace) (arguments : List String) : Outcome :=
  let outcome := Outcome.start workplace
  match Opening.read arguments with
  | .misuse => outcome.fail 2
  | .help => outcome
  | .version => outcome.say versionLine
  | .proper opening =>
    match settingsOf workplace with
    | .error fault => outcome.breakOff (.settings fault)
    | .ok settings =>
      let settings := { settings with logLevel := opening.logLevel.getD settings.logLevel }
      match Command.read workplace.directory opening.command opening.arguments with
      | .misuse => outcome.fail 2
      | .help | .version => outcome
      | .proper command => command.run workplace settings outcome

end EmailStudio.CommandLine
