import EmailStudio.Intake.Field
import EmailStudio.Log.Level
import EmailStudio.Publishing.Rendering
import EmailStudio.Storage.Bucket
import EmailStudio.Text.Split
import EmailStudio.Value.Reader

/-!
# Settings

Settings come from given values, from the environment and from a file of variables, in this order of
precedence. Every field has a type and most have a default; rules about several fields are judged
only when each field is sound by itself.
-/

namespace EmailStudio

/-- What an installation is for. -/
inductive Environment where
  | development
  | production
  | testing
deriving DecidableEq, Repr

namespace Environment

def name : Environment → String
  | development => "development"
  | production => "production"
  | testing => "testing"

def ofName? (s : String) : Option Environment :=
  [development, production, testing].find? (·.name = s)

end Environment

/-- How entries of the log are written. -/
inductive LogFormat where
  | json
  | console
deriving DecidableEq, Repr

namespace LogFormat

def name : LogFormat → String
  | json => "json"
  | console => "console"

def ofName? (s : String) : Option LogFormat :=
  [json, console].find? (·.name = s)

end LogFormat

/-- Where images are kept. -/
inductive StorageKind where
  | disk
  | bucket
deriving DecidableEq, Repr

namespace StorageKind

def name : StorageKind → String
  | disk => "local"
  | bucket => "s3"

def ofName? (s : String) : Option StorageKind :=
  [disk, bucket].find? (·.name = s)

end StorageKind

/-- The settings of an installation. -/
structure Settings where
  appName : String
  appVersion : String
  environment : Environment
  debug : Bool
  externalUrl : String
  apiStart : String
  host : String
  port : Int
  workers : Int
  databaseUrl : String
  dbEcho : Bool
  dbPoolSize : Int
  dbMaxOverflow : Int
  dbPoolTimeout : Int
  dbPoolRecycle : Int
  corsOrigins : List String
  corsAllowCredentials : Bool
  corsAllowMethods : List String
  corsAllowHeaders : List String
  logLevel : LogLevel
  logFormat : LogFormat
  storageKind : StorageKind
  storagePath : String
  s3Bucket : Option String
  s3Region : String
  s3AccessKeyId : Option String
  s3SecretAccessKey : Option String
  s3EndpointUrl : Option String
  s3KeyStart : String
  s3PublicBaseUrl : Option String
  validationLevel : Level
  rendersHtmlOnSave : Bool

/-- Why settings could not be read. -/
inductive SettingsFault where
  /-- The variable of a field that holds a list is no document. -/
  | unreadableVariable (key : String)
  | issues (issues : List IntakeIssue)
deriving DecidableEq, Repr

namespace Settings

/-! ## Reading fields -/

/-- The origins between the commas of a text; where there is nothing between two, there is none. -/
def originsIn (s : String) : List String :=
  ((Text.splitAll ',' s.toList).map fun part => Text.strip (String.ofList part)).filter (· ≠ "")

/-- The origins in a text with commas, or a list of origins. -/
def origins : Value → Reading (List String)
  | .text s => .good (originsIn s)
  | v => Intake.listOf Intake.text v

/-- An address without slashes at its end. -/
def address (v : Value) : Reading String :=
  Path.trimEnd <$> Intake.text v

/-- Reads the fields one by one, in their order. -/
def ofFields (fields : Fields) : Reading Settings :=
  let text (key default : String) := Intake.optional key default Intake.text fields
  let address (key default : String) := Intake.optional key default address fields
  let flag (key : String) (default : Bool) := Intake.optional key default Intake.boolean fields
  let number (key : String) (default : Int) (low high : Option Int) :=
    Intake.optional key default (Intake.integerBetween low high) fields
  let texts (key : String) := Intake.optional key ["*"] (Intake.listOf Intake.text) fields
  let nullable (key : String) := Intake.optional key none (Intake.nullable Intake.text) fields
  Settings.mk
    <$> text "app_name" "MailBlocks"
    <*> text "app_version" "0.1.0"
    <*> Intake.optional "environment" .development (Intake.choice Environment.ofName?) fields
    <*> flag "debug" false
    <*> address "external_url" "http://localhost:8000"
    <*> address "api_prefix" "/api/v1"
    <*> text "host" "0.0.0.0"
    <*> number "port" 8000 (some 1) (some 65535)
    <*> number "workers" 1 (some 1) none
    <*> text "database_url" "sqlite+aiosqlite:///./mb_data/mailblocks.db"
    <*> flag "db_echo" false
    <*> number "db_pool_size" 5 none none
    <*> number "db_max_overflow" 10 none none
    <*> number "db_pool_timeout" 30 none none
    <*> number "db_pool_recycle" 3600 none none
    <*> Intake.optional "cors_origins" ["http://localhost:3000", "http://localhost:5173"] origins
      fields
    <*> flag "cors_allow_credentials" true
    <*> texts "cors_allow_methods"
    <*> texts "cors_allow_headers"
    <*> Intake.optional "log_level" .info (Intake.choice LogLevel.ofSettingName?) fields
    <*> Intake.optional "log_format" .json (Intake.choice LogFormat.ofName?) fields
    <*> Intake.optional "storage_provider" .disk (Intake.choice StorageKind.ofName?) fields
    <*> text "storage_path" "./mb_data/images"
    <*> nullable "s3_bucket"
    <*> text "s3_region" "us-east-1"
    <*> nullable "s3_access_key_id"
    <*> nullable "s3_secret_access_key"
    <*> nullable "s3_endpoint_url"
    <*> text "s3_object_prefix" "email-images"
    <*> nullable "s3_public_base_url"
    <*> Intake.optional "mjml_validation_level" .soft (Intake.choice Level.ofName?) fields
    <*> flag "render_html_on_save" true

/-! ## Rules about several fields -/

def usesSqlite (settings : Settings) : Bool :=
  settings.databaseUrl.startsWith "sqlite"

/-- The rule that the settings break, if they break one. -/
def brokenRule? (settings : Settings) : Option String :=
  if settings.storageKind = .bucket ∧ (BucketSettings.given? settings.s3Bucket).isNone then
    some ("S3 image storage requires MAILBLOCKS_S3_BUCKET to be set. "
      ++ "Either configure a bucket or use storage_provider=local.")
  else if 1 < settings.workers ∧ settings.usesSqlite then
    some ("SQLite does not support multiple worker processes. Requested "
      ++ toString settings.workers ++ " workers; point MAILBLOCKS_DATABASE_URL "
      ++ "at a server database or run a single worker.")
  else none

/-- Reads settings whose values have been brought together. -/
def read (fields : Fields) : Reading Settings :=
  (ofFields fields).andThen fun settings =>
    match settings.brokenRule? with
    | some message => .bad (.rule message)
    | none => .good settings

/-! ## Sources -/

/-- The fields that hold lists. -/
def listKeys : List String := ["cors_origins", "cors_allow_methods", "cors_allow_headers"]

/-- The fields of settings. -/
def keys : List String := [
  "app_name", "app_version", "environment", "debug", "external_url", "api_prefix", "host", "port",
  "workers", "database_url", "db_echo", "db_pool_size", "db_max_overflow", "db_pool_timeout",
  "db_pool_recycle", "cors_origins", "cors_allow_credentials", "cors_allow_methods",
  "cors_allow_headers", "log_level", "log_format", "storage_provider", "storage_path", "s3_bucket",
  "s3_region", "s3_access_key_id", "s3_secret_access_key", "s3_endpoint_url", "s3_object_prefix",
  "s3_public_base_url", "mjml_validation_level", "render_html_on_save"]

/-- The variable of a field; capitals and small letters are the same in it. -/
def variableOf (key : String) : String :=
  "mailblocks_" ++ key

/-- The value of a variable: a list is written as a document, everything else as it is. -/
def variableValue (key text : String) : Except SettingsFault Value :=
  if listKeys.contains key then
    match Value.read text.toList with
    | .ok v => .ok v
    | .error _ => .error (.unreadableVariable key)
  else .ok (.text text)

/-- The last variable of a name in a list of variables. -/
def lastVariable? (key : String) (bindings : List (String × String)) : Option String :=
  (bindings.reverse.find? fun (name, _) => Text.lower name = variableOf key).map (·.2)

/-- The fields that variables give values to. A list that is written as null is not given. -/
def fieldsOfVariables (bindings : List (String × String)) : Except SettingsFault Fields :=
  keys.foldlM (fun (acc : Fields) key =>
    match lastVariable? key bindings with
    | none => .ok acc
    | some text => do
      match ← variableValue key text with
      | .null => return acc
      | v => return acc ++ [(key, v)]) []

/-- Settings from given values, the environment and a file of variables. -/
def load (values : Fields) (environment file : List (String × String)) :
    Except SettingsFault Settings := do
  let fromEnvironment ← fieldsOfVariables environment
  let fromFile ← fieldsOfVariables file
  let fields := Fields.update (Fields.update fromFile fromEnvironment) values
  (read fields).result.mapError .issues

/-! ## What follows from settings -/

/-- The address of the root of the interface. -/
def publicApiUrl (settings : Settings) : String :=
  settings.externalUrl ++ settings.apiStart

/-- The bucket that images are kept in. -/
def bucketSettings (settings : Settings) : BucketSettings where
  bucket := settings.s3Bucket.getD ""
  region := settings.s3Region
  accessKeyId := settings.s3AccessKeyId
  secretAccessKey := settings.s3SecretAccessKey
  endpointUrl := settings.s3EndpointUrl
  keyStart := settings.s3KeyStart
  publicBaseUrl := settings.s3PublicBaseUrl

/-- The directory that images are kept in, below a working directory. -/
def localStore (settings : Settings) (directory : List String) : LocalStore where
  root := Path.absolute directory settings.storagePath
  label := Path.tidy settings.storagePath
  baseUrl := settings.publicApiUrl
  tree := none

/-- The public address of an image. -/
def imageUrl (settings : Settings) (key : String) : String :=
  match settings.storageKind with
  | .disk => (settings.localStore []).urlFor key
  | .bucket => settings.bucketSettings.urlFor key

def nullableText (s : Option String) : Value :=
  (s.map .text).getD .null

/-- The settings and what follows from them. -/
def toValue (settings : Settings) : Value :=
  .object [
    ("app_name", .text settings.appName),
    ("app_version", .text settings.appVersion),
    ("environment", .text settings.environment.name),
    ("debug", .bool settings.debug),
    ("external_url", .text settings.externalUrl),
    ("api_prefix", .text settings.apiStart),
    ("host", .text settings.host),
    ("port", .int settings.port),
    ("workers", .int settings.workers),
    ("database_url", .text settings.databaseUrl),
    ("db_echo", .bool settings.dbEcho),
    ("db_pool_size", .int settings.dbPoolSize),
    ("db_max_overflow", .int settings.dbMaxOverflow),
    ("db_pool_timeout", .int settings.dbPoolTimeout),
    ("db_pool_recycle", .int settings.dbPoolRecycle),
    ("cors_origins", .list (settings.corsOrigins.map .text)),
    ("cors_allow_credentials", .bool settings.corsAllowCredentials),
    ("cors_allow_methods", .list (settings.corsAllowMethods.map .text)),
    ("cors_allow_headers", .list (settings.corsAllowHeaders.map .text)),
    ("log_level", .text settings.logLevel.settingName),
    ("log_format", .text settings.logFormat.name),
    ("storage_provider", .text settings.storageKind.name),
    ("storage_path", .text settings.storagePath),
    ("s3_bucket", nullableText settings.s3Bucket),
    ("s3_region", .text settings.s3Region),
    ("s3_access_key_id", nullableText settings.s3AccessKeyId),
    ("s3_secret_access_key", nullableText settings.s3SecretAccessKey),
    ("s3_endpoint_url", nullableText settings.s3EndpointUrl),
    ("s3_object_prefix", .text settings.s3KeyStart),
    ("s3_public_base_url", nullableText settings.s3PublicBaseUrl),
    ("mjml_validation_level", .text settings.validationLevel.name),
    ("render_html_on_save", .bool settings.rendersHtmlOnSave),
    ("uses_sqlite", .bool settings.usesSqlite),
    ("public_api_url", .text settings.publicApiUrl),
    ("is_production", .bool (settings.environment = .production)),
    ("is_development", .bool (settings.environment = .development)),
    ("is_testing", .bool (settings.environment = .testing))]

end Settings

namespace BucketSettings

/-- Reads the settings of a bucket. -/
def read (fields : Fields) : Reading BucketSettings :=
  let nullable (key : String) := Intake.optional key none (Intake.nullable Intake.text) fields
  BucketSettings.mk
    <$> Intake.required "bucket" Intake.text fields
    <*> Intake.optional "region" "us-east-1" Intake.text fields
    <*> nullable "access_key_id"
    <*> nullable "secret_access_key"
    <*> nullable "endpoint_url"
    <*> Intake.optional "object_prefix" "" Intake.text fields
    <*> nullable "public_base_url"

end BucketSettings

end EmailStudio
