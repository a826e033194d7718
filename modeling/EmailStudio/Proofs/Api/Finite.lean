import EmailStudio.Api.Document
import EmailStudio.Proofs.Document.Normal
import EmailStudio.Proofs.Editor.Saving

/-!
# Responses that lose nothing

A response has null in the place of a number that is not finite. The editor data of a template that
compiles holds no such number, so that `finite_dataOf` the response carries all of it: validation
lets only finite numbers through where it judges, and markup needs texts where it does not.
-/

namespace EmailStudio.Api

/-! ## Values without other numbers -/

theorem finite_list {items : List Value} (h : ∀ item ∈ items, finite item = item) :
    finite (.list items) = .list items := by
  rw [finite]
  congr 1
  induction items with
  | nil => rfl
  | cons item rest ih =>
    obtain ⟨hitem, h⟩ := List.forall_mem_cons.1 h
    rw [finite.finiteItems, hitem, ih h]

theorem finite_object {fields : Fields} (h : ∀ field ∈ fields, finite field.2 = field.2) :
    finite (.object fields) = .object fields := by
  rw [finite]
  congr 1
  induction fields with
  | nil => rfl
  | cons field rest ih =>
    obtain ⟨hfield, h⟩ := List.forall_mem_cons.1 h
    rw [finite.finiteFields, hfield, ih h]

theorem finite_of_isText {v : Value} (h : v.isText = true) : finite v = v := by
  cases v <;> first | rfl | cases h

theorem finite_of_isBool {v : Value} (h : v.isBool = true) : finite v = v := by
  cases v <;> first | rfl | cases h

theorem finite_of_isOneOf {options : List String} {v : Value}
    (h : Rule.isOneOf options v = true) : finite v = v := by
  cases v <;> first | rfl | cases h

theorem finite_of_isFilled {v : Value} (h : Rule.isFilled v = true) : finite v = v := by
  cases v <;> first | rfl | cases h

theorem finite_of_isSource {v : Value} (h : Rule.isSource v = true) : finite v = v := by
  cases v <;> first | rfl | cases h

theorem finite_of_isSome_rat? {v : Value} (h : v.rat?.isSome = true) : finite v = v := by
  cases v with
  | float x =>
    have hx : x.toRat?.isSome = true := h
    rw [finite, if_pos hx]
  | int n => rfl
  | _ => cases h

theorem finite_of_isBetween {v : Value} {low high : Int} (h : v.isBetween low high = true) :
    finite v = v := by
  obtain ⟨q, hq, -⟩ := Value.isBetween_iff_exists.1 h
  refine finite_of_isSome_rat? ?_
  rw [hq]
  rfl

theorem finite_of_isNumberOf {options : List Int} {v : Value}
    (h : Rule.isNumberOf options v = true) : finite v = v := by
  obtain ⟨n, -, hn⟩ := List.any_eq_true.1 h
  refine finite_of_isSome_rat? ?_
  rw [of_decide_eq_true hn]
  rfl

theorem finite_of_isImageWidth {v : Value} (h : Rule.isImageWidth v = true) : finite v = v := by
  have hnumber : v.isBetween 0 Catalog.maxWidth = true → finite v = v := finite_of_isBetween
  cases v <;> first | rfl | exact hnumber h

/-- What can be escaped is a text or does not count as given, and zero is finite. -/
theorem finite_of_isEscapable {v : Value} (h : v.isEscapable = true) : finite v = v := by
  rcases Bool.or_eq_true_iff.1 h with ht | hf
  · exact finite_of_isText ht
  · cases v with
    | float x =>
      have hzero : x.isZero = true := by simpa [Value.truthy] using hf
      have hx : x.toRat?.isSome = true := by
        rw [Binary64.toRat?_of_isZero hzero, Option.isSome_some]
      rw [finite, if_pos hx]
    | list items =>
      have hnil : items = [] := by simpa [Value.truthy] using hf
      rw [hnil]
      rfl
    | object fields =>
      have hnil : fields = [] := by simpa [Value.truthy] using hf
      rw [hnil]
      rfl
    | _ => rfl

/-! ## Nodes of blocks -/

/-- Every value among some fields is finite. -/
def FiniteFields (fields : Fields) : Prop :=
  ∀ field ∈ fields, finite field.2 = field.2

theorem finiteFields_nil : FiniteFields [] :=
  fun _ h => absurd h List.not_mem_nil

theorem finiteFields_cons {key : String} {v : Value} {fields : Fields} (hv : finite v = v)
    (h : FiniteFields fields) : FiniteFields ((key, v) :: fields) :=
  List.forall_mem_cons.2 ⟨hv, h⟩

theorem finiteFields_append {fields others : Fields} (h : FiniteFields fields)
    (ho : FiniteFields others) : FiniteFields (fields ++ others) :=
  List.forall_mem_append.2 ⟨h, ho⟩

theorem finiteFields_urls {networks : List SocialNetwork}
    (h : ∀ network ∈ networks, network.Sound) :
    FiniteFields (Catalog.socialNetworks.map fun name =>
      (Catalog.urlField name, SocialProps.urlOf networks name)) := by
  refine List.forall_mem_map.2 fun name _ => ?_
  unfold SocialProps.urlOf
  cases hlast : SocialProps.lastOf networks name with
  | none => rfl
  | some network => exact finite_of_isText (h network (SocialProps.mem_of_lastOf hlast).1).url

theorem finite_flatProps {b : Block} (h : b.PropsSound)
    (he : ∀ v ∈ b.unjudged, v.isEscapable = true) : FiniteFields (Editor.flatProps b) := by
  cases b with
  | header props =>
    have hs : props.Sound := h
    exact finiteFields_cons (finite_of_isText hs.logoUrl) <|
      finiteFields_cons (finite_of_isText hs.logoAlt) <|
      finiteFields_cons (finite_of_isBetween hs.logoWidth) <|
      finiteFields_cons (finite_of_isEscapable (he _ (by simp [Block.unjudged]))) <|
      finiteFields_cons (finite_of_isOneOf hs.align) <|
      finiteFields_cons (finite_of_isOneOf hs.padding) finiteFields_nil
  | text props =>
    have hs : props.Sound := h
    exact finiteFields_cons (finite_of_isText hs.content) <|
      finiteFields_cons (finite_of_isNumberOf hs.fontSize) <|
      finiteFields_cons (finite_of_isEscapable (he _ (by simp [Block.unjudged]))) <|
      finiteFields_cons (finite_of_isEscapable (he _ (by simp [Block.unjudged]))) <|
      finiteFields_cons (finite_of_isOneOf hs.align) <|
      finiteFields_cons (finite_of_isOneOf hs.lineHeight) <|
      finiteFields_cons (finite_of_isOneOf hs.padding) finiteFields_nil
  | image props =>
    have hs : props.Sound := h
    refine finiteFields_append (finiteFields_append ?_ ?_)
      (finiteFields_cons (finite_of_isOneOf hs.padding) finiteFields_nil)
    · exact finiteFields_cons (finite_of_isSource hs.src) <|
        finiteFields_cons (finite_of_isFilled hs.alt) <|
        finiteFields_cons (finite_of_isImageWidth hs.width) <|
        finiteFields_cons (finite_of_isOneOf hs.align) finiteFields_nil
    · split_ifs with hlink
      · exact finiteFields_nil
      · have hhref := hs.href.resolve_left (mt Value.isNull_iff.2 hlink)
        exact finiteFields_cons (finite_of_isText hhref) finiteFields_nil
  | button props =>
    have hs : props.Sound := h
    exact finiteFields_cons (finite_of_isFilled hs.text) <|
      finiteFields_cons (finite_of_isFilled hs.href) <|
      finiteFields_cons (finite_of_isEscapable (he _ (by simp [Block.unjudged]))) <|
      finiteFields_cons (finite_of_isEscapable (he _ (by simp [Block.unjudged]))) <|
      finiteFields_cons (finite_of_isNumberOf hs.fontSize) <|
      finiteFields_cons (finite_of_isNumberOf hs.borderRadius) <|
      finiteFields_cons (finite_of_isOneOf hs.align) <|
      finiteFields_cons (finite_of_isBool hs.fullWidth) <|
      finiteFields_cons (finite_of_isOneOf hs.padding) finiteFields_nil
  | columns props children =>
    have hs : props.Sound := h
    exact finiteFields_cons (finite_of_isNumberOf hs.columns) <|
      finiteFields_cons (finite_of_isOneOf hs.gap) <|
      finiteFields_cons (finite_of_isOneOf hs.verticalAlign) <|
      finiteFields_cons (finite_of_isBool hs.stackOnMobile) finiteFields_nil
  | spacer props =>
    have hs : props.Sound := h
    exact finiteFields_cons (finite_of_isNumberOf hs.height) finiteFields_nil
  | divider props =>
    have hs : props.Sound := h
    exact finiteFields_cons (finite_of_isText hs.color) <|
      finiteFields_cons (finite_of_isNumberOf hs.width) <|
      finiteFields_cons (finite_of_isOneOf hs.style) <|
      finiteFields_cons (finite_of_isOneOf hs.padding) finiteFields_nil
  | social props =>
    have hs : props.Sound := h
    refine finiteFields_append ?_ (finiteFields_urls hs.networks)
    exact finiteFields_cons (finite_of_isNumberOf hs.iconSize) <|
      finiteFields_cons (finite_of_isOneOf hs.align) <|
      finiteFields_cons (finite_of_isOneOf hs.iconStyle) finiteFields_nil
  | footer props =>
    have hs : props.Sound := h
    exact finiteFields_cons (finite_of_isText hs.companyName) <|
      finiteFields_cons (finite_of_isText hs.address) <|
      finiteFields_cons (finite_of_isBool hs.showUnsubscribe) <|
      finiteFields_cons (finite_of_isText hs.unsubscribeText) <|
      finiteFields_cons (finite_of_isText hs.backgroundColor) <|
      finiteFields_cons (finite_of_isText hs.textColor) finiteFields_nil

/-- Nodes whose values are all finite. -/
def FiniteNodes (nodes : List Editor.Node) : Prop :=
  ∀ node ∈ nodes, finite node.toValue = node.toValue

theorem finite_nodeOf {b : Block} (h : b.PropsSound)
    (he : ∀ v ∈ b.unjudged, v.isEscapable = true) (id : String) :
    finite (Editor.nodeOf id b).toValue = (Editor.nodeOf id b).toValue := by
  have props : FiniteFields (Editor.nodeOf id b).props := by
    rw [Editor.nodeOf, Fields.set_eq_append (Editor.id_notMem_flatProps b)]
    exact finiteFields_append (finite_flatProps h he) (finiteFields_cons rfl finiteFields_nil)
  exact finite_object (finiteFields_cons rfl
    (finiteFields_cons (finite_object props) finiteFields_nil))

theorem finite_nodesFrom {id : String} {bs : List Block}
    (h : ∀ b ∈ bs, b.PropsSound ∧ b.Escapable) (index : Nat) :
    FiniteNodes (Editor.nodesFrom id index bs) := by
  induction bs generalizing index with
  | nil => exact fun _ hn => absurd hn List.not_mem_nil
  | cons b rest ih =>
    obtain ⟨⟨hs, he⟩, h⟩ := List.forall_mem_cons.1 h
    rw [Editor.nodesFrom]
    exact List.forall_mem_cons.2 ⟨finite_nodeOf hs (Block.escapable_iff.1 he).1 _, ih h _⟩

theorem finite_zonesFrom_of {id : String} {bs : List Block}
    (each : ∀ b ∈ bs, ∀ id, ∀ entry ∈ Editor.zonesOf id b, FiniteNodes entry.2) (index : Nat) :
    ∀ entry ∈ Editor.zonesFrom id index bs, FiniteNodes entry.2 := by
  induction bs generalizing index with
  | nil => exact fun _ hn => absurd hn (by simp [Editor.zonesFrom])
  | cons b rest ih =>
    obtain ⟨hb, each⟩ := List.forall_mem_cons.1 each
    rw [Editor.zonesFrom]
    exact List.forall_mem_append.2 ⟨hb _, ih each _⟩

theorem finite_zonesOf {depth : Int} {b : Block} (h : b.Sound depth) (he : b.Escapable)
    (id : String) : ∀ entry ∈ Editor.zonesOf id b, FiniteNodes entry.2 := by
  induction b using Block.inductionOnChildren generalizing depth id with
  | step b ih =>
    have below := (Block.escapable_iff.1 he).2
    rw [Editor.zonesOf_eq]
    split_ifs
    · refine List.forall_mem_append.2 ⟨?_, List.forall_mem_singleton.2 ?_⟩
      · exact finite_zonesFrom_of
          (fun child hc id => ih child hc (h.child hc) (below child hc) id) 0
      · exact finite_nodesFrom (fun child hc => ⟨(h.child hc).props, below child hc⟩) 0
    · exact fun _ hn => absurd hn List.not_mem_nil

/-- The editor data of a template that compiles is told as it is. -/
theorem finite_dataOf {t : Template} (h : t.Sound) (he : t.Escapable) :
    finite (Editor.dataOf t).toValue = (Editor.dataOf t).toValue := by
  have content : FiniteNodes (Editor.nodesFrom "block" 0 t.content) :=
    finite_nodesFrom (fun b hb => ⟨(h.content b hb).props, he b hb⟩) 0
  have zones : ∀ entry ∈ Editor.zonesFrom "block" 0 t.content, FiniteNodes entry.2 :=
    finite_zonesFrom_of (fun b hb id => finite_zonesOf (h.content b hb) (he b hb) id) 0
  have width : finite t.settings.contentWidth = t.settings.contentWidth :=
    finite_of_isBetween (Template.widthIssues_eq_nil_iff.1 h.contentWidth)
  have root : FiniteFields (Editor.dataOf t).root :=
    finiteFields_cons (finite_of_isText h.backgroundColor) <| finiteFields_cons width <|
      finiteFields_cons (finite_of_isText h.fontFamily) <|
      finiteFields_cons (finite_of_isText h.subject) <|
      finiteFields_cons (finite_of_isText h.preheader) finiteFields_nil
  refine finite_object (finiteFields_cons (finite_list (List.forall_mem_map.2 content)) <|
    finiteFields_cons (finite_object (finiteFields_cons (finite_object root) finiteFields_nil)) <|
    finiteFields_cons (finite_object (List.forall_mem_map.2 ?_)) finiteFields_nil)
  exact fun entry hentry => finite_list (List.forall_mem_map.2 (zones entry hentry))

end EmailStudio.Api
