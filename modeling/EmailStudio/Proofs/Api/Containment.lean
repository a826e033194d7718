import EmailStudio.Proofs.Api.Uploads
import EmailStudio.Proofs.Storage.Disk

/-!
# Keys that do not escape

Images are served by their keys, and nothing but what lies at the root of the images or below it is
served. The main result is `Service.keeps_below_root`: for every root, every disk and all keys, what
is resolved, written, read, removed and served keeps to the root and what is below it.
-/

namespace EmailStudio

theorem LocalStore.not_missing_of_resolve {store : LocalStore} {key missing : String} :
    store.resolve key ≠ .error (.missing missing) := by
  unfold resolve
  dsimp only
  split_ifs <;> exact fun h => by cases h

/-- Wherever images are set up to be kept, the root has plain names if the working directory has. -/
theorem Settings.isPlain_root (settings : Settings) {directory : List String}
    (h : ∀ name ∈ directory, Path.IsPlain name) :
    ∀ name ∈ (settings.localStore directory).root, Path.IsPlain name :=
  Path.isPlain_absolute h settings.storagePath

/-- An image is fetched from what lies on the disk at the path of its key. -/
theorem ImageStore.fetch_mounted (store : LocalStore) (disk : Option Tree) (key : String) :
    (ImageStore.disk (store.mounted disk)).fetch key = match store.path key with
      | .error _ => .error .badPath
      | .ok path =>
        match disk.bind (Tree.fileAt? path) with
        | none => .error .missing
        | some content => .ok ⟨path.getLast?.getD "", content, none⟩ := by
  rw [fetch, LocalStore.path_eq]
  have hmounted := LocalStore.resolve_mounted store disk key
  cases hplace : store.resolve key with
  | error fault =>
    rw [LocalStore.get, hmounted, hplace]
    cases fault with
    | missing => exact absurd hplace LocalStore.not_missing_of_resolve
    | outside | nullCharacter | write => rfl
  | ok place =>
    rw [LocalStore.get_of_resolve (hmounted.trans hplace), LocalStore.file?_mounted]
    dsimp only [Except.map]
    cases disk.bind (Tree.fileAt? (store.root ++ place)) <;> rfl

namespace Api.Service

variable {service : Service} {store : LocalStore} {disk : Option Tree} {request : Request}
  {key : String} {now : Time}

/-- What a download is answered, from what lies on the disk at the path of its key. -/
def downloadFrom (store : LocalStore) (disk : Option Tree) (key : String) : Response :=
  match store.path key with
  | .error _ => .detail 400 (.text "Invalid file path")
  | .ok path =>
    match disk.bind (Tree.fileAt? path) with
    | none => .detail 404 (.text "File not found")
    | some content => ⟨200, .bytes (typeOfName (path.getLast?.getD "")) content, none⟩

/-- A download is answered from what lies at the path of its key, and changes nothing. -/
theorem respond_downloadImage (himages : service.images = .disk (store.mounted disk))
    (hleads : service.LeadsTo request (.downloadImage key)) :
    service.respond request now =
      (service, { downloadFrom store disk key with correlation := request.correlation }) := by
  have hreach : service.Reaches (.downloadImage key) := reaches_of_needsDesigns rfl
  have hanswer : service.answerAt request now (.downloadImage key) =
      (service, service.downloadImage key) := rfl
  rw [downloadImage, himages, ImageStore.fetch_mounted] at hanswer
  unfold downloadFrom
  cases hpath : store.path key with
  | error fault =>
    rw [hpath] at hanswer
    exact respond_of_error hleads hreach hanswer
  | ok path =>
    rw [hpath] at hanswer
    dsimp only at hanswer ⊢
    cases hfile : disk.bind (Tree.fileAt? path) with
    | none =>
      rw [hfile] at hanswer
      exact respond_of_error hleads hreach hanswer
    | some content =>
      rw [hfile] at hanswer
      exact respond_of_ok hleads hreach hanswer (by decide : 200 ≠ 500)

/-- What a download gives is the content of a file that lies at the root or below it. -/
theorem exists_place_of_downloadFrom {type : String} {content : Bytes}
    (h : (downloadFrom store disk key).content = .bytes type content) :
    ∃ place, store.path key = .ok (store.root ++ place) ∧
      disk.bind (Tree.fileAt? (store.root ++ place)) = some content := by
  unfold downloadFrom at h
  rw [LocalStore.path_eq] at h ⊢
  cases hplace : store.resolve key with
  | error fault =>
    rw [hplace] at h
    cases h
  | ok place =>
    rw [hplace] at h
    dsimp only [Except.map] at h
    refine ⟨place, rfl, ?_⟩
    cases hfile : disk.bind (Tree.fileAt? (store.root ++ place)) with
    | none =>
      rw [hfile] at h
      cases h
    | some other =>
      rw [hfile] at h
      cases h
      rfl

/-- No key escapes the root: it leads to the root or below it, or it is refused; whatever calls are
made on a disk, they keep to the root and what is below it; and after them only files that lie there
are served. -/
theorem keeps_below_root (hroot : ∀ name ∈ store.root, Path.IsPlain name) (disk : Option Tree)
    (calls : List LocalStore.Call) :
    (∀ key, store.Leads key) ∧
    store.KeepsBelow disk calls ∧
    ∀ {service : Service} {request : Request} (key : String) (now : Time),
      service.images = .disk (store.mounted (store.runOn disk calls).1) →
      request.method = "GET" →
      request.path = service.settings.apiStart ++ "/uploads/files/" ++ key →
      service.respond request now = (service, { downloadFrom store (store.runOn disk calls).1 key
        with correlation := request.correlation }) ∧
      ∀ type content, (service.respond request now).2.content = .bytes type content →
        ∃ place, store.path key = .ok (store.root ++ place) ∧
          (store.runOn disk calls).1.bind (Tree.fileAt? (store.root ++ place)) = some content := by
  refine ⟨LocalStore.leads hroot, LocalStore.keepsBelow_runOn store disk calls, ?_⟩
  intro service request key now himages hmethod hpath
  have hleads : service.LeadsTo request (.downloadImage key) := leadsTo_downloadImage hmethod hpath
  rw [respond_downloadImage himages hleads]
  exact ⟨rfl, fun type content => exists_place_of_downloadFrom⟩

/-- Two climbs and one way back down: a sibling whose name begins as the root's does and a file above
both stay, and only what is below the root is served. -/
theorem keeps_below_root_sibling :
    let settings := { Session.emptyService.settings with storagePath := "images" }
    let store := settings.localStore ["work"]
    let disk : Tree := .directory [("secret", .file [7]), ("work", .directory
      [("images", .directory [("a.png", .file [1])]), ("images-2", .directory [("b", .file [2])])])]
    let later := (store.runOn disk [.save "../images-2/b" [3], .delete "../../secret",
      .save "../images/x//../c.png" [4]]).1
    let service := { Session.emptyService with images := .disk (store.mounted later) }
    later.bind (Tree.fileAt? ["secret"]) = some [7] ∧
    later.bind (Tree.fileAt? ["work", "images-2", "b"]) = some [2] ∧
    (service.respond (Session.download "../../secret") ⟨0⟩).2.status = 400 ∧
    (service.respond (Session.download "./c.png") ⟨0⟩).2.content = .bytes "image/png" [4] := by
  intro settings store disk later service
  have hwork : Path.IsPlain "work" := ⟨by decide, by decide, by decide, by decide⟩
  have hroot : ∀ name ∈ store.root, Path.IsPlain name :=
    settings.isPlain_root (List.forall_mem_singleton.2 hwork)
  have hnames : store.root = ["work", "images"] := by decide +kernel
  obtain ⟨-, hkeeps, hserves⟩ := keeps_below_root hroot disk [.save "../images-2/b" [3],
    .delete "../../secret", .save "../images/x//../c.png" [4]]
  have hpath (key : String) : (Session.download key).path =
      service.settings.apiStart ++ "/uploads/files/" ++ key :=
    congrArg (· ++ key) (by decide : "/api/v1/uploads/files/" = "/api/v1" ++ "/uploads/files/")
  have hsibling : store.resolve "../images-2/b" = .error .outside := by
    rw [LocalStore.resolve_eq]
    decide +kernel
  have hclimb : store.resolve "../../secret" = .error .outside := by
    rw [LocalStore.resolve_eq]
    decide +kernel
  have hreturn : store.resolve "../images/x//../c.png" = .ok ["c.png"] := by
    rw [LocalStore.resolve_eq]
    decide +kernel
  have hdot : store.resolve "./c.png" = .ok ["c.png"] := by
    rw [LocalStore.resolve_eq]
    decide +kernel
  have hlater : later.bind (Tree.fileAt? (store.root ++ ["c.png"])) = some [4] := by
    simp only [later, LocalStore.runOn, LocalStore.callOn_save, LocalStore.callOn_delete, hsibling,
      hclimb, hreturn, hnames]
    rfl
  refine ⟨(hkeeps.untouched ["secret"] (by rw [hnames]; decide)).trans rfl,
    (hkeeps.untouched ["work", "images-2", "b"] (by rw [hnames]; decide)).trans rfl, ?_, ?_⟩
  · rw [(hserves "../../secret" ⟨0⟩ rfl rfl (hpath _)).1, downloadFrom, LocalStore.path_eq, hclimb]
    rfl
  · rw [(hserves "./c.png" ⟨0⟩ rfl rfl (hpath _)).1, downloadFrom, LocalStore.path_eq, hdot]
    dsimp only [Except.map]
    rw [hlater, hnames]
    have htype : typeOfName "c.png" = "image/png" := by decide +kernel
    exact congrArg (Content.bytes · [4]) htype

end Api.Service

end EmailStudio
