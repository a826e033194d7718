import EmailStudio.Image.Upload
import EmailStudio.Storage.Bucket

/-!
# Where images are kept

Images are kept on disk or in a bucket. Both save an image under a key, give its address, and both
find an image by its key.
-/

namespace EmailStudio

/-- A bucket with the objects that were put into it. -/
structure BucketStore where
  settings : BucketSettings
  /-- The objects by their keys: content and media type. -/
  objects : List (String × Bytes × String)
  /-- The error that the service answers every call with, if it refuses them. -/
  refusal : Option ServiceError

namespace BucketStore

/-- What the service answers when no object has a key. -/
def noSuchKey : ServiceError where
  code := some (.text "NoSuchKey")
  message := none
  retries := none

/-- Puts an object under a key, in place of the one that was there. -/
def put (store : BucketStore) (key : String) (content : Bytes) (type : String) :
    ServiceAnswer × BucketStore :=
  match store.refusal with
  | some error => (.refused error, store)
  | none =>
    (.response none none,
      { store with objects := (key, content, type) :: store.objects.filter fun o => o.1 ≠ key })

/-- Gets the object of a key. -/
def get (store : BucketStore) (key : String) : ServiceAnswer :=
  match store.refusal, store.objects.lookup key with
  | some error, _ => .refused error
  | none, some (content, type) => .response (some content) (some type)
  | none, none => .refused noSuchKey

end BucketStore

/-- A store of images. -/
inductive ImageStore where
  | disk (store : LocalStore)
  | bucket (store : BucketStore)

/-- An image as it is served. -/
structure ServedImage where
  filename : String
  content : Bytes
  /-- The media type, where the store knows it. -/
  type : Option String

/-- Why an image cannot be served. -/
inductive FetchFault where
  | badPath
  | missing
  | failed
deriving DecidableEq, Repr

namespace ImageStore

/-- Saves an image and gives its address. -/
def save (store : ImageStore) (key : String) (content : Bytes) (type : String) :
    Except Image.SaveFault (ImageStore × String) :=
  match store with
  | disk store =>
    match store.save key content with
    | .ok (store, url) => .ok (disk store, url)
    | .error _ => .error .reported
  | bucket store =>
    let (answer, changed) := store.put (store.settings.objectKey key) content type
    match store.settings.saved key answer with
    | .ok url => .ok (bucket changed, url)
    | .error _ => .error .reported

/-- Finds an image by its key. -/
def fetch (store : ImageStore) (key : String) : Except FetchFault ServedImage :=
  match store with
  | disk store =>
    match store.get key with
    | .ok file => .ok ⟨file.filename, file.content, none⟩
    | .error (.missing _) => .error .missing
    | .error _ => .error .badPath
  | bucket store =>
    match store.settings.fetched key (store.get (store.settings.objectKey key)) with
    | .ok object => .ok ⟨object.filename, object.content, some object.type⟩
    | .error (.missing _) => .error .missing
    | .error (.failed ..) => .error .failed

end ImageStore

end EmailStudio
