import EmailStudio.Identifier
import EmailStudio.Image.Upload
import EmailStudio.Proofs.Number.Digits
import EmailStudio.Proofs.Outcome
import EmailStudio.Proofs.Text.Case
import EmailStudio.Proofs.Text.Path

/-!
# Accepted images

What is known of an image once it was accepted: by `Image.accept_eq_ok` it has some bytes but not too
many, its type is one of the catalog in small letters, and its extension goes with its type. By
`Image.names_keyFor` its key has the names of the year, the month and the file, each of which leads
one directory down.
-/

namespace EmailStudio

/-! ## Decoding -/

namespace Base64

theorem length_bytesFrom (bytes : List UInt8) (digits : List Nat) :
    (bytesFrom bytes digits).length = bytes.length + digits.length * 3 / 4 := by
  fun_induction bytesFrom bytes digits with
  | case1 bytes a b c d rest ih =>
    rw [ih]
    simp only [List.length_cons]
    omega
  | case2 | case3 => simp
  | case4 digits bytes hfour hthree htwo =>
    match digits with
    | [] | [_] => simp
    | [a, b] => exact (htwo a b rfl).elim
    | [a, b, c] => exact (hthree a b c rfl).elim
    | a :: b :: c :: d :: rest => exact (hfour a b c d rest rfl).elim

/-- No text stands for no bytes. -/
theorem length_pos_of_decode? {cs : List Char} {content : List UInt8}
    (h : decode? cs = some content) : 0 < content.length := by
  unfold decode? at h
  dsimp only at h
  split_ifs at h with hfits
  obtain ⟨-, hpads⟩ := Bool.and_eq_true_iff.1 hfits
  generalize hdigits : (cs.takeWhile fun c => (digit? c).isSome) = digits at h hpads
  have hlength : (digits.filterMap digit?).length = digits.length := by
    rw [List.length_filterMap_eq_countP, List.countP_eq_length, ← hdigits]
    exact fun c hc => List.mem_takeWhile_imp (p := fun c => (digit? c).isSome) hc
  have htwo : 2 ≤ digits.length := by
    by_contra hfew
    obtain hnone | hone : digits.length = 0 ∨ digits.length = 1 := by omega
    · rw [hnone] at hpads
      cases hpads
    · rw [hone] at hpads
      cases hpads
  rw [← Option.some.inj h, length_bytesFrom, hlength]
  simp only [List.length_nil]
  omega

end Base64

namespace Image

theorem length_pos_of_decode {data : List Char} {payload : Payload}
    (h : decode data = .ok payload) : 0 < payload.content.length := by
  unfold decode at h
  dsimp only at h
  split_ifs at h
  split at h
  · cases h
  · rename_i hbytes
    cases h
    exact Base64.length_pos_of_decode? hbytes

/-! ## Checking -/

theorem check_eq_ok {limit size : Int} {filename type extension : String}
    (h : check limit filename type size = .ok extension) :
    ∃ extensions, (Text.lower type, extensions) ∈ Catalog.imageTypes ∧ extension ∈ extensions ∧
      size ≤ limit := by
  unfold check at h
  dsimp only at h
  split at h
  · cases h
  · rename_i extensions hlookup
    split_ifs at h with hformat hmatch hlimit
    cases h
    obtain ⟨before, after, hsplit, -⟩ := List.lookup_eq_some_iff.1 hlookup
    refine ⟨extensions, ?_, ?_, Int.not_lt.1 hlimit⟩
    · rw [hsplit]
      exact List.mem_append_right _ List.mem_cons_self
    · simpa using hmatch

/-- A type of the catalog is basic text, and its extensions are of letters and digits. -/
theorem basic_of_mem_imageTypes : ∀ entry ∈ Catalog.imageTypes,
    entry.1.toList.all (·.toNat < 128) = true ∧ ∀ extension ∈ entry.2,
      extension ≠ "" ∧ extension.toList.all Char.isAlphanum = true := by
  decide +kernel

/-- What is accepted goes with the catalog and is not too large. -/
structure Accepted.Fits (image : Accepted) (limit : Int) : Prop where
  listed : ∃ extensions, (image.type, extensions) ∈ Catalog.imageTypes ∧
    image.extension ∈ extensions
  pos : 0 < image.content.length
  le : (image.content.length : Int) ≤ limit

theorem accept_eq_ok {limit : Int} {filename type : String} {data : List Char} {image : Accepted}
    (h : accept limit filename type data = .ok image) :
    image.Fits limit ∧ ∃ payload, decode data = .ok payload ∧ image.content = payload.content ∧
      image.type = effectiveType payload.declaredType type := by
  obtain ⟨payload, hdecode, h⟩ := Outcome.bind_eq_ok_iff.1 h
  obtain ⟨extension, hcheck, h⟩ := Outcome.bind_eq_ok_iff.1 h
  cases h
  obtain ⟨extensions, hlisted, hmem, hle⟩ := check_eq_ok hcheck
  have hlower : Text.lower (effectiveType payload.declaredType type) = _ :=
    Text.lower_lower fun c hc =>
      of_decide_eq_true (List.all_eq_true.1 (basic_of_mem_imageTypes _ hlisted).1 c hc)
  rw [hlower] at hlisted
  exact ⟨⟨⟨extensions, hlisted, hmem⟩, length_pos_of_decode hdecode, hle⟩,
    payload, hdecode, rfl, rfl⟩

/-! ## Storing -/

/-- An upload as a whole: it is accepted, and the image is saved under a key with what a store does
to save it. -/
def upload {σ : Type} (limit : Int) (filename type : String) (data : List Char)
    (key : Accepted → String)
    (save : String → List UInt8 → String → Except SaveFault (σ × String)) :
    Except UploadError (σ × Stored) := do
  let image ← (accept limit filename type data).mapError .refused
  image.store (key image) save

/-- The names of the year, of the month and of the file that an image is stored under. -/
def placeFor (time : Time) (id extension : String) : List String :=
  [Time.digits 4 time.date.year, Time.digits 2 time.date.month, id ++ "." ++ extension]

/-- A text of letters, digits and hyphens. -/
structure IsWord (s : String) : Prop where
  ne_empty : s ≠ ""
  chars : ∀ c ∈ s.toList, c.isAlphanum = true ∨ c = '-'

theorem isWord_of_all {s : String} (hne : s ≠ "")
    (h : s.toList.all (fun c => c.isAlphanum || c = '-') = true) : IsWord s where
  ne_empty := hne
  chars c hc := by simpa using List.all_eq_true.1 h c hc

theorem isWord_repr (n : Nat) : IsWord n.repr where
  ne_empty h := Nat.repr_ne_empty h
  chars c hc := by
    rw [Nat.toList_repr] at hc
    have hdigit := Nat.isDigit_of_mem_toDigits (b := 10) (n := n) (by decide) (by decide) hc
    exact .inl (by rw [Char.isAlphanum, hdigit, Bool.or_true])

theorem IsWord.append {s t : String} (hs : IsWord s) (ht : IsWord t) : IsWord (s ++ t) where
  ne_empty h := hs.ne_empty (String.append_eq_empty_iff.1 h).1
  chars := by
    rw [String.toList_append]
    exact List.forall_mem_append.2 ⟨hs.chars, ht.chars⟩

theorem isWord_int (n : Int) : IsWord (toString n) := by
  rw [Int.toString_eq_repr, Int.repr_eq_if]
  split_ifs
  · exact isWord_repr _
  · exact IsWord.append (isWord_of_all (by decide) (by decide)) (isWord_repr _)

theorem IsWord.padZeros {s : String} (h : IsWord s) (width : Nat) : IsWord (padZeros width s) where
  ne_empty hempty := h.ne_empty (String.append_eq_empty_iff.1 hempty).2
  chars := by
    rw [toList_padZeros]
    refine List.forall_mem_append.2 ⟨fun c hc => ?_, h.chars⟩
    rw [List.eq_of_mem_replicate hc]
    exact .inl (by decide)

theorem isWord_digits (width : Nat) (n : Int) : IsWord (Time.digits width n) :=
  (isWord_int n).padZeros width

theorem isWord_identifier (n : Nat) : IsWord (identifier n) :=
  IsWord.append (isWord_of_all (by decide) (by decide +kernel)) ((isWord_repr n).padZeros 12)

theorem Accepted.Fits.isWord {image : Accepted} {limit : Int} (h : image.Fits limit) :
    IsWord image.extension := by
  obtain ⟨extensions, hlisted, hmem⟩ := h.listed
  obtain ⟨hne, hchars⟩ := (basic_of_mem_imageTypes _ hlisted).2 _ hmem
  exact ⟨hne, fun c hc => .inl (List.all_eq_true.1 hchars c hc)⟩

/-- Marks are no part of words. -/
theorem IsWord.notMem {s : String} (h : IsWord s) {c : Char} (hc : c.isAlphanum = false)
    (hhyphen : c ≠ '-') : c ∉ s.toList := by
  intro hmem
  rcases h.chars c hmem with h | h
  · rw [hc] at h
    cases h
  · exact hhyphen h

theorem IsWord.isPlain {s : String} (h : IsWord s) : Path.IsPlain s where
  ne_empty := h.ne_empty
  ne_dot heq := h.notMem (c := '.') (by decide) (by decide) (heq ▸ by decide)
  ne_dots heq := h.notMem (c := '.') (by decide) (by decide) (heq ▸ by decide)
  slash := h.notMem (by decide) (by decide)

theorem isPlain_file {id extension : String} (hid : IsWord id) (hext : IsWord extension) :
    Path.IsPlain (id ++ "." ++ extension) := by
  have hlength : 2 < (id ++ "." ++ extension).length := by
    have hone := Nat.pos_of_ne_zero (mt String.length_eq_zero_iff.1 hid.ne_empty)
    have hthree := Nat.pos_of_ne_zero (mt String.length_eq_zero_iff.1 hext.ne_empty)
    rw [String.length_append, String.length_append]
    show 2 < id.length + 1 + extension.length
    omega
  have differs {s : String} (hs : s.length ≤ 2) : id ++ "." ++ extension ≠ s := by
    rintro rfl
    omega
  refine ⟨differs (by decide), differs (by decide), differs (by decide), ?_⟩
  rw [String.toList_append, String.toList_append, List.mem_append, List.mem_append]
  rintro ((h | h) | h)
  · exact hid.notMem (by decide) (by decide) h
  · exact absurd h (by decide)
  · exact hext.notMem (by decide) (by decide) h

section keyFor

variable {id extension : String} (time : Time) (hid : IsWord id) (hext : IsWord extension)

include hid hext

theorem isPlain_placeFor : ∀ name ∈ placeFor time id extension, Path.IsPlain name := by
  refine List.forall_mem_cons.2 ⟨(isWord_digits _ _).isPlain, List.forall_mem_cons.2
    ⟨(isWord_digits _ _).isPlain, List.forall_mem_singleton.2 (isPlain_file hid hext)⟩⟩

/-- A key is a path of three names, each of which leads one directory down. -/
theorem names_keyFor : Path.names (keyFor time id extension) = placeFor time id extension := by
  have hassoc : keyFor time id extension = Time.digits 4 time.date.year ++ "/" ++
      (Time.digits 2 time.date.month ++ "/" ++ (id ++ "." ++ extension)) := by
    simp only [keyFor, Time.yearAndMonth, String.append_assoc]
  rw [hassoc, Path.names_append, Path.names_append,
    Path.names_of_notMem (isWord_digits _ _).isPlain.slash,
    Path.names_of_notMem (isWord_digits _ _).isPlain.slash,
    Path.names_of_notMem (isPlain_file hid hext).slash]
  rfl

theorem null_notMem_keyFor : '\x00' ∉ (keyFor time id extension).toList := by
  have hword {s : String} (h : IsWord s) : '\x00' ∉ s.toList := h.notMem (by decide) (by decide)
  have hslash : '\x00' ∉ "/".toList := by decide
  have hdot : '\x00' ∉ ".".toList := by decide
  simp only [keyFor, Time.yearAndMonth, String.toList_append, List.mem_append, not_or]
  exact ⟨⟨⟨⟨⟨⟨hword (isWord_digits _ _), hslash⟩, hword (isWord_digits _ _)⟩, hslash⟩,
    hword hid⟩, hdot⟩, hword hext⟩

end keyFor

end Image

end EmailStudio
