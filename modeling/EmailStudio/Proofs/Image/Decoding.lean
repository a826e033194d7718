import EmailStudio.Proofs.Image.Base64
import EmailStudio.Proofs.Image.Upload
import Mathlib.Data.List.Forall2
import Mathlib.Tactic.SplitIfs

/-!
# Decoding what was encoded

Data may stand behind nothing or behind the head of a data URL, and blanks may stand anywhere in it.
By `Image.decode_encode` decoding gives the bytes that were encoded and the media type that the head
declares, and whatever is decoded gives some bytes or is refused.
-/

namespace EmailStudio

/-! ## Blanks -/

namespace Text

/-- The second text is the first one with blanks put anywhere into it. -/
inductive Spaced : List Char → List Char → Prop
  | nil : Spaced [] []
  | blank {c : Char} {cs ds : List Char} (h : isBlank c = true) (rest : Spaced cs ds) :
      Spaced cs (c :: ds)
  | char {c : Char} {cs ds : List Char} (rest : Spaced cs ds) : Spaced (c :: cs) (c :: ds)

variable {cs ds : List Char}

theorem Spaced.removeBlanks_eq (h : Spaced cs ds) (hcs : ∀ c ∈ cs, isBlank c = false) :
    removeBlanks ds = cs := by
  unfold removeBlanks
  induction h with
  | nil => rfl
  | blank hblank _ ih => rw [List.filter_cons_of_neg (by simp [hblank]), ih hcs]
  | char _ ih =>
    obtain ⟨hc, hcs⟩ := List.forall_mem_cons.1 hcs
    rw [List.filter_cons_of_pos (by simp [hc]), ih hcs]

theorem Spaced.mem_or_isBlank (h : Spaced cs ds) {c : Char} (hc : c ∈ ds) :
    c ∈ cs ∨ isBlank c = true := by
  induction h with
  | nil => exact .inl hc
  | blank hblank _ ih =>
    rcases List.mem_cons.1 hc with rfl | hc
    · exact .inr hblank
    · exact ih hc
  | char _ ih =>
    rcases List.mem_cons.1 hc with rfl | hc
    · exact .inl List.mem_cons_self
    · exact (ih hc).imp_left (List.mem_cons_of_mem _)

end Text

/-! ## Heads of data URLs -/

namespace DataUrl

variable {word cs scheme marks params front : List Char} {declared : Option String} {type : String}

/-- A text is a word with each letter in either case. A long s is one way to write an s. -/
def Spells (word cs : List Char) : Prop :=
  List.Forall₂ (fun letter c => c = letter ∨ c = letter.toUpper ∨ letter = 's' ∧ c = 'ſ') word cs

instance (word cs : List Char) : Decidable (Spells word cs) :=
  inferInstanceAs (Decidable (List.Forall₂ _ word cs))

/-- A media type: two names with a slash between them. -/
def IsMediaType (type : String) : Prop :=
  ∃ major minor, type.toList = major ++ '/' :: minor ∧ major ≠ [] ∧ minor ≠ [] ∧
    (∀ c ∈ major, isTypeChar c = true) ∧ ∀ c ∈ minor, isTypeChar c = true

/-- What may stand between the media type and the marker: nothing, or anything without a comma. -/
inductive IsParameters : List Char → Prop
  | none : IsParameters []
  | some {params : List Char} (h : ',' ∉ params) : IsParameters (';' :: params)

/-- What may stand before data in base64, and the media type that it declares. -/
inductive Head : List Char → Option String → Prop
  | none : Head [] none
  | untyped {scheme params marks : List Char} (scheme_spells : Spells "data:".toList scheme)
      (isParameters : IsParameters params) (marks_spells : Spells "base64".toList marks) :
      Head (scheme ++ (params ++ ';' :: marks) ++ [',']) none
  | typed {scheme params marks : List Char} {type : String}
      (scheme_spells : Spells "data:".toList scheme) (isMediaType : IsMediaType type)
      (isParameters : IsParameters params) (marks_spells : Spells "base64".toList marks) :
      Head (scheme ++ type.toList ++ (params ++ ';' :: marks) ++ [',']) (some type)

/-! ### Words -/

theorem isWord_iff :
    isWord word cs = true ↔ List.Forall₂ (fun letter c => isLetter letter c = true) word cs := by
  rw [List.forall₂_iff_zip, isWord, Bool.and_eq_true, List.all_eq_true, decide_eq_true_eq]
  simp only [Prod.forall]

theorem Spells.isWord (h : Spells word cs)
    (hword : word.Forall fun letter => letter.toLower = letter ∧ letter.toUpper.toLower = letter) :
    isWord word cs = true := by
  rw [isWord_iff]
  induction h with
  | nil => exact .nil
  | @cons letter c word cs hletter _ ih =>
    obtain ⟨⟨hlower, hupper⟩, hword⟩ := (List.forall_cons _ _ _).1 hword
    refine .cons ?_ (ih hword)
    obtain rfl | rfl | ⟨rfl, rfl⟩ := hletter
    · simp [isLetter, hlower]
    · simp [isLetter, hupper]
    · rfl

theorem eq_colon_of_isLetter {c : Char} (h : isLetter ':' c = true) : c = ':' := by
  have hlower : c.toLower = ':' := by simpa [isLetter] using h
  unfold Char.toLower at hlower
  split_ifs at hlower with hupper
  · -- The small letters lie behind the colon, and the capitals as far before them.
    have hsum : (c.val.toNat + 32) % 2 ^ 32 = 58 :=
      congrArg (fun d : Char => d.val.toNat) hlower
    have hge : 65 ≤ c.val.toNat := UInt32.le_iff_toNat_le.1 hupper.1
    have hle : c.val.toNat ≤ 90 := UInt32.le_iff_toNat_le.1 hupper.2
    omega
  · exact hlower

/-- A text without a colon is data and nothing else. -/
theorem split_of_notMem (h : ':' ∉ cs) : split cs = (none, cs) := by
  unfold split
  split_ifs with hscheme
  · have hcolon : ':' ∈ "data:".toList := by decide
    obtain ⟨c, hc, hletter⟩ := Outcome.exists_of_mem_right (isWord_iff.1 hscheme).flip hcolon
    rw [eq_colon_of_isLetter hletter] at hc
    exact absurd (List.mem_of_mem_take hc) h
  · rfl

/-! ### What a head declares -/

theorem takeType_of_semicolon (cs : List Char) : takeType (';' :: cs) = (none, ';' :: cs) := by
  have hmark : isTypeChar ';' = false := by decide +kernel
  rw [takeType, List.takeWhile_cons_of_neg (by simp [hmark])]
  rfl

theorem takeWhile_isTypeChar {mark : Char} (hmark : isTypeChar mark = false)
    (hcs : ∀ c ∈ cs, isTypeChar c = true) (rest : List Char) :
    (cs ++ mark :: rest).takeWhile isTypeChar = cs := by
  rw [List.takeWhile_append_of_pos hcs, List.takeWhile_cons_of_neg (by simp [hmark]),
    List.append_nil]

theorem takeType_of_isMediaType (h : IsMediaType type) (cs : List Char) :
    takeType (type.toList ++ ';' :: cs) = (some type, ';' :: cs) := by
  obtain ⟨major, minor, htype, hmajor, hminor, hmajors, hminors⟩ := h
  have hslash : isTypeChar '/' = false := by decide +kernel
  have hsemicolon : isTypeChar ';' = false := by decide +kernel
  have hname : String.ofList (major ++ '/' :: minor) = type := by
    rw [← htype, String.ofList_toList]
  rw [htype, List.append_assoc, List.cons_append, takeType,
    takeWhile_isTypeChar hslash hmajors, List.drop_left]
  simp only [takeWhile_isTypeChar hsemicolon hminors, List.isEmpty_eq_false_iff.2 hmajor,
    List.isEmpty_eq_false_iff.2 hminor, List.drop_left, hname]
  rfl

theorem comma_notMem (hmarks : Spells "base64".toList marks) : ',' ∉ marks := by
  intro hmem
  obtain ⟨letter, hletter, hcomma⟩ := Outcome.exists_of_mem_right hmarks hmem
  have hnone : ∀ letter ∈ "base64".toList,
      ¬(',' = letter ∨ ',' = letter.toUpper ∨ letter = 's' ∧ ',' = 'ſ') :=
    List.forall_iff_forall_mem.1 (by decide)
  exact hnone letter hletter hcomma

/-- Parameters with the marker behind them begin with a semicolon and hold no comma. -/
theorem exists_header (hparams : IsParameters params) (hmarks : Spells "base64".toList marks) :
    ∃ rest, params ++ ';' :: marks = ';' :: rest ∧ ',' ∉ rest := by
  have hcomma := comma_notMem hmarks
  cases hparams with
  | none => exact ⟨marks, rfl, hcomma⟩
  | @some params hnone =>
    refine ⟨params ++ ';' :: marks, rfl, ?_⟩
    rw [List.mem_append, List.mem_cons, not_or, not_or]
    exact ⟨hnone, by decide, hcomma⟩

theorem isMarked_header (hparams : IsParameters params) (hmarks : Spells "base64".toList marks) :
    isMarked (params ++ ';' :: marks) = true := by
  have hmarker : Spells marker (';' :: marks) := .cons (.inl rfl) hmarks
  have hlength : marker.length = (';' :: marks).length := hmarker.length_eq
  have hdrop : (params ++ ';' :: marks).drop ((params ++ ';' :: marks).length - marker.length) =
      ';' :: marks := by
    rw [hlength, List.length_append, Nat.add_sub_cancel, List.drop_left]
  have hle : marker.length ≤ (params ++ ';' :: marks).length := by
    rw [hlength, List.length_append]
    exact Nat.le_add_left _ _
  obtain ⟨rest, hrest, -⟩ := exists_header hparams hmarks
  rw [isMarked, hdrop, hmarker.isWord (by decide), decide_eq_true hle, hrest]
  rfl

/-- A head with a scheme declares what its media type says, and the data is what follows. -/
theorem split_of_scheme (kind : List Char) (hscheme : Spells "data:".toList scheme)
    (htype : ∀ cs, takeType (kind ++ ';' :: cs) = (declared, ';' :: cs))
    (hparams : IsParameters params) (hmarks : Spells "base64".toList marks) (body : List Char) :
    split (scheme ++ kind ++ (params ++ ';' :: marks) ++ [','] ++ body) = (declared, body) := by
  have hlength : scheme.length = 5 := hscheme.length_eq.symm
  have hmarked := isMarked_header hparams hmarks
  obtain ⟨rest, hrest, hcomma⟩ := exists_header hparams hmarks
  rw [hrest] at hmarked ⊢
  have hheader : (';' :: (rest ++ ',' :: body)).takeWhile (· ≠ ',') = ';' :: rest := by
    rw [← List.cons_append, List.takeWhile_append_of_pos, List.takeWhile_cons_of_neg (by simp),
      List.append_nil]
    rintro c hc
    rcases List.mem_cons.1 hc with rfl | hc
    · rfl
    · exact decide_eq_true fun heq => hcomma (heq ▸ hc)
  have hshorter : (';' :: rest).length < (';' :: (rest ++ ',' :: body)).length := by
    simp
  have hall : scheme ++ kind ++ (';' :: rest) ++ [','] ++ body =
      scheme ++ (kind ++ ';' :: (rest ++ ',' :: body)) := by
    simp only [List.append_assoc, List.cons_append, List.nil_append]
  have hbody : (';' :: (rest ++ ',' :: body)).drop ((';' :: rest).length + 1) = body := by
    simp
  rw [hall, split, List.take_left' hlength, if_pos (hscheme.isWord (by decide)),
    List.drop_left' hlength, htype]
  dsimp only
  rw [hheader, hmarked, decide_eq_true hshorter, Bool.and_self, if_pos rfl, hbody]

/-- What stands behind a head is the data. -/
theorem Head.split_eq (h : Head front declared) {body : List Char} (hbody : ':' ∉ body) :
    split (front ++ body) = (declared, body) := by
  cases h with
  | none => exact split_of_notMem hbody
  | @untyped scheme params marks hscheme hparams hmarks =>
    have hsplit := split_of_scheme [] hscheme takeType_of_semicolon hparams hmarks body
    rwa [List.append_nil] at hsplit
  | typed hscheme htype hparams hmarks =>
    exact split_of_scheme _ hscheme (takeType_of_isMediaType htype) hparams hmarks body

end DataUrl

namespace Image

variable {content : List UInt8} {body front : List Char} {declared : Option String}

/-! ## Decoding -/

theorem decode_of_split {data : List Char} (hsplit : DataUrl.split data = (declared, body))
    (hne : content ≠ []) (hbody : Text.Spaced (Base64.encode content) body) :
    decode data = .ok ⟨content, declared⟩ := by
  have hblanks : Text.removeBlanks body = Base64.encode content :=
    hbody.removeBlanks_eq fun c hc => (Base64.not_isBlank_of_mem_encode hc).1
  unfold decode
  rw [hsplit]
  dsimp only
  rw [hblanks, if_neg (by simpa using Base64.encode_ne_nil hne), Base64.decode?_encode hne]

/-- Decoding undoes encoding: behind any head, and with blanks anywhere in it, the text of some bytes
is decoded to these bytes and to the media type that the head declares. Any other data gives some
bytes, too, or is refused, for it is empty or no base64. -/
theorem decode_encode :
    (∀ {content : List UInt8} {body front : List Char} {declared : Option String}, content ≠ [] →
      Text.Spaced (Base64.encode content) body → DataUrl.Head front declared →
        decode (front ++ body) = .ok ⟨content, declared⟩) ∧
    ∀ data : List Char, (∃ payload, decode data = .ok payload ∧ payload.content ≠ []) ∨
      decode data = .error .empty ∨ decode data = .error .notBase64 := by
  constructor
  · intro content body front declared hne hbody hhead
    refine decode_of_split (hhead.split_eq fun hcolon => ?_) hne hbody
    rcases hbody.mem_or_isBlank hcolon with hmem | hblank
    · exact (Base64.not_isBlank_of_mem_encode hmem).2 rfl
    · exact absurd hblank (by decide)
  · intro data
    cases hdecode : decode data with
    | ok payload =>
      exact .inl ⟨payload, rfl, List.length_pos_iff.1 (length_pos_of_decode hdecode)⟩
    | error fault =>
      refine .inr ?_
      unfold decode at hdecode
      dsimp only at hdecode
      split_ifs at hdecode
      · exact .inl hdecode.symm
      · split at hdecode
        · exact .inr hdecode.symm
        · cases hdecode

/-- Two bytes in a folded text, behind a head whose parameters themselves hold a marker. -/
theorem decode_encode_folded :
    ([0xFB, 0xFF] : List UInt8) ≠ [] ∧
      Text.Spaced (Base64.encode [0xFB, 0xFF]) "+/ 8\n=".toList ∧
      DataUrl.Head "Data:image/svg+xml;base64;x=1;BAſe64,".toList (some "image/svg+xml") ∧
      decode ("Data:image/svg+xml;base64;x=1;BAſe64,".toList ++ "+/ 8\n=".toList) =
        .ok ⟨[0xFB, 0xFF], some "image/svg+xml"⟩ := by
  have hne : ([0xFB, 0xFF] : List UInt8) ≠ [] := by decide
  have hbody : Text.Spaced (Base64.encode [0xFB, 0xFF]) "+/ 8\n=".toList :=
    .char (.char (.blank (by decide) (.char (.blank (by decide) (.char .nil)))))
  have htype : DataUrl.IsMediaType "image/svg+xml" :=
    ⟨"image".toList, "svg+xml".toList, rfl, by decide, by decide,
      List.all_eq_true.1 (by decide +kernel), List.all_eq_true.1 (by decide +kernel)⟩
  have hhead : DataUrl.Head "Data:image/svg+xml;base64;x=1;BAſe64,".toList
      (some "image/svg+xml") :=
    @DataUrl.Head.typed "Data:".toList ";base64;x=1".toList "BAſe64".toList _ (by decide) htype
      (.some (by decide)) (by decide)
  exact ⟨hne, hbody, hhead, decode_encode.1 hne hbody hhead⟩

end Image

end EmailStudio
