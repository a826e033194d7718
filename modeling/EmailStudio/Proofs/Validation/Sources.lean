import EmailStudio.Proofs.Validation.Locality
import Mathlib.Data.List.TakeWhile

/-!
# Sources of images

Validation turns away the image formats that it knows and that old clients do not show. By
`Template.source_of_isValid`, no image of a valid template, however deep it lies, has a source with
the extension of such a format. Every other source, one with an extension that belongs to no image
included, passes in its place.

What an extension is, `Url.HasExtension` says of the last name of a path, without the search for its
last dot. Where a block lies, `Block.Lies` says without validation.
-/

namespace EmailStudio

/-! ## Extensions -/

namespace Url

/-- The last name of a path has something before and behind its last dot, and this is what stands
behind it. -/
def HasExtension (path tail : List Char) : Prop :=
  '.' ∉ tail ∧ tail ≠ [] ∧ ∃ stem, stem ≠ [] ∧ lastName path = stem ++ '.' :: tail

/-- A search from the end finds what stands behind the last dot. -/
theorem reverse_takeWhile_reverse {stem tail : List Char} (h : '.' ∉ tail) :
    ((stem ++ '.' :: tail).reverse.takeWhile (· ≠ '.')).reverse = tail := by
  have htail : ∀ c ∈ tail.reverse, decide (c ≠ '.') = true := fun c hc =>
    decide_eq_true (ne_of_mem_of_not_mem (List.mem_reverse.1 hc) h)
  rw [List.reverse_append, List.reverse_cons, List.append_assoc,
    List.takeWhile_append_of_pos htail, List.singleton_append,
    List.takeWhile_cons_of_neg (by simp), List.append_nil, List.reverse_reverse]

/-- A name that has a dot falls into what stands before and behind the last one. -/
theorem exists_eq_append_of_mem {name : List Char} (h : '.' ∈ name) :
    ∃ stem tail, name = stem ++ '.' :: tail ∧ '.' ∉ tail := by
  obtain ⟨back, front, hname, hback⟩ := List.eq_append_cons_of_mem (List.mem_reverse.2 h)
  refine ⟨front.reverse, back.reverse, ?_, fun hmem => hback (List.mem_reverse.1 hmem)⟩
  rw [← List.reverse_reverse name, hname, List.reverse_append, List.reverse_cons,
    List.append_assoc, List.singleton_append]

theorem extension_of_hasExtension {path tail : List Char} (h : HasExtension path tail) :
    extension path = Text.lower (String.ofList tail) := by
  obtain ⟨hdot, hne, stem, hstem, hname⟩ := h
  have hpos := List.length_pos_iff.2 hstem
  have hlong : ¬(stem ++ '.' :: tail).length < tail.length + 2 := by
    rw [List.length_append, List.length_cons]
    omega
  have hshown : ¬(tail.isEmpty || (stem ++ '.' :: tail).length < tail.length + 2) = true := by
    rw [Bool.or_eq_true, List.isEmpty_iff, decide_eq_true_eq, not_or]
    exact ⟨hne, hlong⟩
  simp only [extension, hname, reverse_takeWhile_reverse hdot]
  rw [if_neg hshown]

/-- A name without a dot has no extension; neither has one whose last dot begins or ends it. -/
theorem extension_eq_empty {path : List Char} (h : ∀ tail, ¬HasExtension path tail) :
    extension path = "" := by
  by_cases hdot : '.' ∈ lastName path
  · obtain ⟨stem, tail, hname, htail⟩ := exists_eq_append_of_mem hdot
    have hshort : tail = [] ∨ stem = [] := by
      by_contra hboth
      rw [not_or] at hboth
      exact h tail ⟨htail, hboth.1, stem, hboth.2, hname⟩
    simp only [extension, hname, reverse_takeWhile_reverse htail]
    rcases hshort with rfl | rfl <;> simp
  · have hwhole : (lastName path).reverse.takeWhile (· ≠ '.') = (lastName path).reverse :=
      List.takeWhile_eq_self_iff.2 fun c hc =>
        decide_eq_true (ne_of_mem_of_not_mem (List.mem_reverse.1 hc) hdot)
    simp only [extension, hwhole, List.reverse_reverse]
    rw [if_pos (by simp)]

/-- The extension is none of some that are not empty exactly when whatever stands behind the last
dot is none of them in small letters. -/
theorem extension_notMem_iff {path : List Char} {formats : List String} (h : "" ∉ formats) :
    extension path ∉ formats ↔
      ∀ tail, HasExtension path tail → Text.lower (String.ofList tail) ∉ formats := by
  constructor
  · intro hformat tail htail
    rwa [← extension_of_hasExtension htail]
  · intro hall
    by_cases hextension : ∃ tail, HasExtension path tail
    · obtain ⟨tail, htail⟩ := hextension
      rw [extension_of_hasExtension htail]
      exact hall tail htail
    · rwa [extension_eq_empty (not_exists.1 hextension)]

end Url

/-! ## Sources -/

namespace Rule

/-- A URL that can be read, with no extension in its path or one that is none of the formats that
are turned away. -/
def Admits (url : String) : Prop :=
  ∃ parts, Url.parts? url.toList = some parts ∧
    ∀ tail, Url.HasExtension parts.path tail →
      Text.lower (String.ofList tail) ∉ Catalog.unsupportedFormats

theorem isSource_text_iff {s : String} (h : s.startsWith "data:" = false) :
    isSource (.text s) = true ↔ Admits s := by
  rw [Grammar.isSource_iff]
  constructor
  · intro hsource
    cases hsource with
    | data start => cases h.symm.trans start
    | url parsed supported => exact ⟨_, parsed, (Url.extension_notMem_iff (by decide)).1 supported⟩
  · rintro ⟨parts, parsed, hall⟩
    exact .url parsed ((Url.extension_notMem_iff (by decide)).2 hall)

/-- Another source changes nothing about the other props of an image. -/
theorem image_set_src {props : Fields} {t : String} (h : image props = [])
    (ht : t.startsWith "data:" = false) :
    image (props.set "src" (.text t)) = [] ↔ Admits t := by
  have hsource : source (props.set "src" (.text t)) = [] ↔ Admits t := by
    rw [source_eq_nil_iff, Fields.get_set_self, ← isSource_text_iff ht]
    simp
  rw [← hsource]
  simp (disch := decide) only [image, required, optional, text, choice, Fields.get_set_of_ne,
    List.append_eq_nil_iff] at h ⊢
  simp only [h, true_and, and_true]

end Rule

/-! ## Where blocks lie -/

namespace Block

/-- In a block, a place leads down through columns to another one. -/
inductive Lies : Value → List Nat → Value → Prop
  | here {v : Value} : Lies v [] v
  | inner {fields : Fields} {items : List Value} {index : Nat} {child v : Value}
      {place : List Nat} (type : fields.get "type" = .text Kind.columns.name)
      (list : fields.get "children" = .list items) (child_eq : items[index]? = some child)
      (lies : Lies child place v) : Lies (.object fields) (index :: place) v

/-- Validation gets to every block that lies in one without issues. -/
theorem Lies.visits {v inner : Value} {place : List Nat} (h : Lies v place inner) :
    ∀ {depth : Int}, issues depth v = [] → Visits depth v place inner := by
  induction h with
  | here => exact fun _ => .here
  | @inner fields items index child v place type list child_eq _ ih =>
    intro depth hnone
    obtain ⟨shallow, _, kind, props, heq, judged, -, children⟩ := issues_eq_nil_iff.1 hnone
    cases heq
    obtain rfl : kind = .columns := by
      have hkind := (judgedProps_eq_ok_iff.1 judged).1
      rw [type] at hkind
      exact (Option.some.inj hkind).symm
    have hitems := issuesOfChildren_eq_nil_iff.1 (children rfl)
    rw [list] at hitems
    rcases hitems with heq | ⟨_, heq, hnone⟩
    · cases heq
    · cases heq
      exact .inner shallow judged list child_eq (ih (hnone child (List.mem_of_getElem? child_eq)))

/-- An image has the issues of its props alone. -/
theorem issues_image_eq_nil_iff {depth : Int} {fields props : Fields}
    (shallow : depth ≤ Catalog.maxDepth) (type : fields.get "type" = .text Kind.image.name)
    (object : fields.get "props" = .object props) :
    issues depth (.object fields) = [] ↔ Rule.image props = [] := by
  have judged : judgedProps fields = .ok (.image, props) := by
    rw [judgedProps_eq_ok_iff, type]
    exact ⟨rfl, object⟩
  rw [issues_of_judged shallow judged, if_neg (by decide), List.append_nil, List.map_eq_nil_iff]
  rfl

end Block

namespace Template

/-- In the content of a candidate, a place leads down from the block of an index to another one. -/
inductive Lies : Value → Nat → List Nat → Value → Prop
  | block {fields : Fields} {content : List Value} {index : Nat} {block v : Value}
      {place : List Nat} (list : fields.get "content" = .list content)
      (block_eq : content[index]? = some block) (lies : Block.Lies block place v) :
      Lies (.object fields) index place v

theorem Lies.visits {candidate v : Value} {index : Nat} {place : List Nat}
    (h : Lies candidate index place v) (valid : isValid candidate = true) :
    Visits candidate index place v := by
  obtain @⟨fields, content, _, block, _, _, list, block_eq, lies⟩ := h
  obtain ⟨_, heq, -, -, -, hcontent⟩ := issues_eq_nil_iff.1 (isValid_iff.1 valid)
  cases heq
  obtain ⟨_, heq, hnone⟩ := contentIssues_eq_nil_iff.1 hcontent
  cases list.symm.trans heq
  exact .block list block_eq (lies.visits (hnone block (List.mem_of_getElem? block_eq)))

/-- In a valid candidate, the block at a place has no issues, and the candidate stays valid with
those blocks in its place that have none there. -/
theorem Lies.isValid_setAt_iff {candidate old : Value} {index : Nat} {place : List Nat}
    (h : Lies candidate index place old) (valid : isValid candidate = true) :
    Block.issues (1 + place.length) old = [] ∧
      ∀ new, ∃ edited, candidate.setAt (stepsTo index place) new = .ok edited ∧
        (isValid edited = true ↔ Block.issues (1 + place.length) new = []) := by
  obtain ⟨before, after, become, rfl, -, hnew⟩ := (h.visits valid).exists_split
  have hissues := isValid_iff.1 valid
  simp only [(hnew old).2, List.append_eq_nil_iff, List.map_eq_nil_iff] at hissues
  obtain ⟨⟨rfl, hold⟩, rfl⟩ := hissues
  refine ⟨hold, fun new => ⟨become new, (hnew new).1, ?_⟩⟩
  rw [isValid_iff, (hnew new).2]
  simp only [List.nil_append, List.append_nil, List.map_eq_nil_iff]

/-- No image of a valid template, however deep it lies, has a source with the extension of a format
that is turned away, unless the source holds its own data. Such a source can be read as a URL. With
another source in its place, the template stays valid exactly when that can be read and has no such
extension either. -/
theorem source_of_isValid {candidate : Value} {index : Nat} {place : List Nat}
    {fields props : Fields} {s : String} (valid : isValid candidate = true)
    (lies : Lies candidate index place (.object fields))
    (type : fields.get "type" = .text Kind.image.name)
    (object : fields.get "props" = .object props) (src : props.get "src" = .text s)
    (url : s.startsWith "data:" = false) :
    Rule.Admits s ∧ ∀ t : String, t.startsWith "data:" = false → ∃ edited,
      candidate.setAt (stepsTo index place)
        (.object (fields.set "props" (.object (props.set "src" (.text t))))) = .ok edited ∧
      (isValid edited = true ↔ Rule.Admits t) := by
  obtain ⟨hold, hnew⟩ := lies.isValid_setAt_iff valid
  have shallow := (Block.issues_eq_nil_iff.1 hold).1
  have himage : Rule.image props = [] :=
    (Block.issues_image_eq_nil_iff shallow type object).1 hold
  have hsource : Rule.source props = [] := by
    simp only [Rule.image, List.append_eq_nil_iff] at himage
    exact himage.1.1.1.2
  refine ⟨?_, fun t ht => ?_⟩
  · rw [Rule.source_eq_nil_iff, src] at hsource
    rcases hsource with hnull | hsource
    · cases hnull
    · exact (Rule.isSource_text_iff url).1 hsource
  · obtain ⟨edited, hset, hvalid⟩ :=
      hnew (.object (fields.set "props" (.object (props.set "src" (.text t)))))
    refine ⟨edited, hset, ?_⟩
    rw [hvalid, Block.issues_image_eq_nil_iff shallow
      ((Fields.get_set_of_ne (by decide) _).trans type) (Fields.get_set_self _),
      Rule.image_set_src himage ht]

/-- An image of a chart. -/
def chart (src : String) : Fields :=
  [("type", .text Kind.image.name), ("props", .object [("alt", .text "Chart"), ("src", .text src)])]

/-- A candidate with an image inside of columns inside of columns. -/
def nestedChart (src : String) : Value :=
  let columns (child : Value) : Value := .object [
    ("type", .text Kind.columns.name), ("props", .object []), ("children", .list [child])]
  candidate [columns (columns (.object (chart src)))]

theorem lies_nestedChart (src : String) : Lies (nestedChart src) 0 [0, 0] (.object (chart src)) :=
  .block rfl rfl (.inner rfl rfl rfl (.inner rfl rfl rfl .here))

theorem source_of_isValid_nestedChart :
    isValid (nestedChart "https://cdn.acme.test/chart.PNG?v=2") = true ∧
      Rule.Admits "https://cdn.acme.test/chart.PNG?v=2" ∧ ∃ edited,
        (nestedChart "https://cdn.acme.test/chart.PNG?v=2").setAt (stepsTo 0 [0, 0])
          (.object (chart "chart.WebP")) = .ok edited ∧
        (isValid edited = true ↔ Rule.Admits "chart.WebP") := by
  have valid : isValid (nestedChart "https://cdn.acme.test/chart.PNG?v=2") = true := by
    decide +kernel
  have himage := source_of_isValid valid (lies_nestedChart _) rfl rfl rfl (by decide +kernel)
  exact ⟨valid, himage.1, himage.2 "chart.WebP" (by decide +kernel)⟩

/-- An extension that belongs to no image at all passes, although it is none of those of the images
that can be stored. -/
theorem not_forall_imageFormats :
    ¬∀ (v : Value) (index : Nat) (place : List Nat) (fields props : Fields) (s : String)
      (parts : Url.Parts) (tail : List Char), isValid v = true →
      Lies v index place (.object fields) → fields.get "type" = .text Kind.image.name →
      fields.get "props" = .object props → props.get "src" = .text s →
      s.startsWith "data:" = false → Url.parts? s.toList = some parts →
      Url.HasExtension parts.path tail →
      Text.lower (String.ofList tail) ∈ Catalog.imageFormats := by
  intro h
  have valid : isValid (nestedChart "https://cdn.acme.test/chart.pdf") = true := by
    decide +kernel
  have hextension : Url.HasExtension "/chart.pdf".toList "pdf".toList :=
    ⟨by decide, by decide, "chart".toList, by decide, by decide +kernel⟩
  have hlisted : Text.lower (String.ofList "pdf".toList) ∈ Catalog.imageFormats :=
    h _ 0 [0, 0] _ _ _ ⟨"https".toList, "cdn.acme.test".toList, "/chart.pdf".toList⟩ _ valid
      (lies_nestedChart _) rfl rfl rfl (by decide +kernel) (by rfl) hextension
  revert hlisted
  decide +kernel

end Template

end EmailStudio
