import EmailStudio.Catalog
import EmailStudio.Image.Base64
import EmailStudio.Image.DataUrl
import EmailStudio.Number.Decimal
import EmailStudio.Text.Blank
import EmailStudio.Time
import EmailStudio.Url.Parts

/-!
# Uploads of images

An upload is decoded, checked against the catalog and stored under a name of its own. What the data
itself declares as its media type counts before what the client says.
-/

namespace EmailStudio.Image

/-- Why an upload was refused. -/
inductive UploadFault where
  | empty
  | notBase64
  | typeNotAllowed (type : String)
  | extensionNotAllowed (extension : String)
  | extensionMismatch (extension type : String)
  | tooLarge (size limit : Int)
  | notStored
deriving DecidableEq, Repr

namespace UploadFault

/-- A number of bytes in kilobytes. -/
def kilobytes (places : Nat) (size : Int) : String :=
  Binary64.fixedPlaces places (Binary64.ofQuotient size 1024) ++ "KB"

def message : UploadFault → String
  | empty => "Image data is empty"
  | notBase64 => "Image data is not valid base64"
  | typeNotAllowed type =>
    "File type '" ++ type ++ "' is not allowed. Allowed types: "
      ++ ", ".intercalate (Catalog.imageTypes.map (·.1))
  | extensionNotAllowed extension =>
    "File extension '." ++ extension ++ "' is not allowed. Allowed extensions: "
      ++ ", ".intercalate Catalog.imageFormats
  | extensionMismatch extension type =>
    "File extension '." ++ extension ++ "' does not match file type '" ++ type ++ "'"
  | tooLarge size limit =>
    "File size (" ++ kilobytes 1 size ++ ") exceeds maximum allowed size ("
      ++ kilobytes 0 limit ++ ")"
  | notStored => "Image could not be stored"

end UploadFault

/-- The bytes of an image and the media type that its data declares. -/
structure Payload where
  content : List UInt8
  declaredType : Option String

/-- The most bytes that an image may have. -/
def sizeLimit : Int := Catalog.imageSizeMaxKb * 1024

/-- Decodes the data of an upload. Blanks count for nothing. -/
def decode (data : List Char) : Except UploadFault Payload :=
  let (type, body) := DataUrl.split data
  let body := Text.removeBlanks body
  if body.isEmpty then .error .empty
  else
    match Base64.decode? body with
    | none => .error .notBase64
    | some content => .ok ⟨content, type⟩

/-- Checks an image against the catalog and gives its extension. -/
def check (limit : Int) (filename type : String) (size : Int) : Except UploadFault String :=
  let type := Text.lower type
  match Catalog.imageTypes.lookup type with
  | none => .error (.typeNotAllowed type)
  | some extensions =>
    let extension := Url.extension filename.toList
    if !Catalog.imageFormats.contains extension then .error (.extensionNotAllowed extension)
    else if !extensions.contains extension then .error (.extensionMismatch extension type)
    else if limit < size then .error (.tooLarge size limit)
    else .ok extension

/-- The key that an image is stored at: by month, under a fresh id. -/
def keyFor (time : Time) (id extension : String) : String :=
  time.yearAndMonth ++ "/" ++ id ++ "." ++ extension

/-- An image that is ready to be stored. -/
structure Accepted where
  filename : String
  type : String
  extension : String
  content : List UInt8

/-- The media type that counts: the declared one, or the client's. -/
def effectiveType (declared : Option String) (type : String) : String :=
  Text.lower (match declared with
    | some declared => declared
    | none => type)

/-- Decodes and checks an upload. -/
def accept (limit : Int) (filename type : String) (data : List Char) :
    Except UploadFault Accepted := do
  let payload ← decode data
  let type := effectiveType payload.declaredType type
  let extension ← check limit filename type payload.content.length
  return ⟨filename, type, extension, payload.content⟩

/-- What is told about a stored image. -/
structure Stored where
  url : String
  key : String
  filename : String
  size : Nat
  type : String

/-! ## Storing -/

/-- How a store fails to save an image. -/
inductive SaveFault where
  /-- The store says that it cannot: a place is taken, a path is bad or a service is down. -/
  | reported
  /-- The store itself is at fault. -/
  | defect (name : String)
deriving DecidableEq, Repr

/-- Why an upload came to nothing: it was refused, or the store is at fault. -/
inductive UploadError where
  | refused (fault : UploadFault)
  | defect (name : String)
deriving DecidableEq, Repr

namespace UploadError

/-- A failure to save as it is told to the client. -/
def ofSaveFault : SaveFault → UploadError
  | .reported => refused .notStored
  | .defect name => defect name

end UploadError

/-- Saves an accepted image under a key with what a store does to save it. -/
def Accepted.store {σ : Type} (image : Accepted) (key : String)
    (save : String → List UInt8 → String → Except SaveFault (σ × String)) :
    Except UploadError (σ × Stored) := do
  let (store, url) ← (save key image.content image.type).mapError .ofSaveFault
  return (store, ⟨url, key, image.filename, image.content.length, image.type⟩)

end EmailStudio.Image
