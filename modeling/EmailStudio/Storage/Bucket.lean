import EmailStudio.Storage.Tree
import EmailStudio.Storage.Local
import EmailStudio.Url.Parts
import EmailStudio.Value.Text

/-!
# Images in a bucket

Images are kept as objects of a bucket, under a common start of their keys, and are linked by their
public address. What the service answers is data here: an operation says what it calls and what it
makes of the answer.
-/

namespace EmailStudio

/-- Where and how a bucket is reached. -/
structure BucketSettings where
  bucket : String
  region : String
  accessKeyId : Option String
  secretAccessKey : Option String
  endpointUrl : Option String
  keyStart : String
  publicBaseUrl : Option String

/-- An error that the service reports. -/
structure ServiceError where
  code : Option Value
  message : Option Value
  /-- How often the call was tried again, when that was as often as it may be. -/
  retries : Option Value

/-- What comes of a call. -/
inductive ServiceAnswer where
  | response (body : Option Bytes) (type : Option String)
  | refused (error : ServiceError)
  | unreachable

/-- The operations of the service. -/
inductive ServiceOperation where
  | putObject
  | getObject
  | deleteObject
  | headBucket
deriving DecidableEq, Repr

namespace ServiceOperation

def name : ServiceOperation → String
  | putObject => "PutObject"
  | getObject => "GetObject"
  | deleteObject => "DeleteObject"
  | headBucket => "HeadBucket"

end ServiceOperation

namespace ServiceError

/-- The error in the fields of a response. -/
def ofFields (response : Fields) : ServiceError :=
  let error : Fields := (response.get "Error").fields
  let details : Fields := (response.get "ResponseMetadata").fields
  { code := error.get? "Code"
    message := error.get? "Message"
    retries :=
      if (details.get "MaxAttemptsReached").truthy then details.get? "RetryAttempts" else none }

def codeText (error : ServiceError) : String :=
  (error.code.map (·.plain)).getD "Unknown"

/-- The wording of an error of an operation. -/
def text (error : ServiceError) (operation : ServiceOperation) : String :=
  "An error occurred (" ++ error.codeText ++ ") when calling the " ++ operation.name ++ " operation"
    ++ (match error.retries with
      | some n => " (reached max retries: " ++ n.plain ++ ")"
      | none => "")
    ++ ": " ++ (error.message.map (·.plain)).getD "Unknown"

/-- Whether the error says that there is no such object. -/
def isMissing (error : ServiceError) : Bool :=
  match error.code with
  | some (.text code) => ["NoSuchKey", "404", "NotFound"].contains code
  | _ => false

end ServiceError

/-- The wording when the service was not reached. -/
def unreachableText : String := "An unspecified error occurred"

/-- Why an operation on a bucket failed. -/
inductive BucketFault where
  | missing (key : String)
  | failed (activity : String) (reason : String)
deriving DecidableEq, Repr

namespace BucketFault

def message : BucketFault → String
  | missing key => "File not found: " ++ key
  | failed activity reason => "Failed to " ++ activity ++ " S3: " ++ reason

end BucketFault

/-- An object that was fetched. -/
structure FetchedObject where
  content : Bytes
  filename : String
  type : String

namespace BucketSettings

/-- A text, unless it is absent or empty. -/
def given? (s : Option String) : Option String :=
  s.filter fun s => !s.isEmpty

/-- The options that a client is made with. Keys are given only as a pair. -/
def clientOptions (settings : BucketSettings) : List (String × String) :=
  [("region_name", settings.region)]
    ++ (match given? settings.accessKeyId, given? settings.secretAccessKey with
      | some id, some secret => [("aws_access_key_id", id), ("aws_secret_access_key", secret)]
      | _, _ => [])
    ++ (given? settings.endpointUrl).toList.map fun url => ("endpoint_url", url)

/-- The key of the object of an image. -/
def objectKey (settings : BucketSettings) (key : String) : String :=
  let start := Path.trim settings.keyStart
  if start.isEmpty then key else start ++ "/" ++ key

/-- The public address of an image. -/
def urlFor (settings : BucketSettings) (key : String) : String :=
  match given? settings.publicBaseUrl with
  | some base => Path.trimEnd base ++ "/" ++ settings.objectKey key
  | none =>
    "https://" ++ settings.bucket ++ ".s3." ++ settings.region ++ ".amazonaws.com/"
      ++ settings.objectKey key

/-- The address of an image that was put into the bucket. -/
def saved (settings : BucketSettings) (key : String) : ServiceAnswer → Except BucketFault String
  | .response _ _ => .ok (settings.urlFor key)
  | .refused error => .error (.failed "upload file to" (error.text .putObject))
  | .unreachable => .error (.failed "upload file to" unreachableText)

/-- The image that was fetched from the bucket. -/
def fetched (settings : BucketSettings) (key : String) :
    ServiceAnswer → Except BucketFault FetchedObject
  | .response (some content) type =>
    .ok ⟨content, String.ofList (Url.lastName (settings.objectKey key).toList),
      type.getD "application/octet-stream"⟩
  | .response none _ => .error (.missing key)
  | .refused error =>
    .error (if error.isMissing then .missing key
      else .failed "fetch file from" (error.text .getObject))
  | .unreachable => .error (.failed "fetch file from" unreachableText)

/-- What came of removing an image from the bucket. -/
def deleted : ServiceAnswer → Except BucketFault Unit
  | .response _ _ => .ok ()
  | .refused error => .error (.failed "delete file from" (error.text .deleteObject))
  | .unreachable => .error (.failed "delete file from" unreachableText)

/-- Whether the bucket is reachable, and what there is to say about it. -/
def tested (settings : BucketSettings) : ServiceAnswer → Bool × String
  | .response _ _ =>
    (true, "Bucket '" ++ settings.bucket ++ "' is reachable in " ++ settings.region)
  | .refused error =>
    (false, "S3 connection failed (" ++ error.codeText ++ "): "
      ++ (error.message.map (·.plain)).getD (error.text .headBucket))
  | .unreachable => (false, "S3 connection failed: " ++ unreachableText)

end BucketSettings

end EmailStudio
