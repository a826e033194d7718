import EmailStudio.Fault
import EmailStudio.Proofs.Markup.Grammar
import EmailStudio.Proofs.Outcome

/-!
# Markup with holes

One place of a document is filled with one text after the other. What is made of the document is a
family then, with a member for every text, and this module says what it means that the members
differ in nothing but the text. A family of texts is `Holed` if it is put together from texts that
are the same for all members and from what is written for the filling; rows, elements, columns,
sections and documents are holed if all their texts are. The main results are
`Markup.IsHoled.text`, a document with holes is written as a text with holes, and
`Holed.exists_pieces`. `Yields` carries families through computations that may fail.
-/

namespace EmailStudio

/-- What a place may be filled with: a text that is not empty. -/
abbrev Filled := {s : String // s ≠ ""}

/-- What a place holds. None stands for what it holds before it is filled. -/
abbrev Filling := Option Filled

variable {α β : Type} {write : String → String}

/-! ## Texts -/

/-- Texts that are the same up to their holes, where the filling is written. -/
inductive Holed (write : String → String) : (Filled → String) → Prop
  | fixed (t : String) : Holed write fun _ => t
  | hole : Holed write fun s => write s
  | append {text other : Filled → String} (ht : Holed write text) (ho : Holed write other) :
      Holed write fun s => text s ++ other s

namespace Holed

/-- Where one list of pieces is followed by another one, two pieces become one. -/
theorem intercalate_append_intercalate (e last first : String) (before rest : List String) :
    e.intercalate (before ++ [last]) ++ e.intercalate (first :: rest) =
      e.intercalate (before ++ (last ++ first) :: rest) := by
  rcases eq_or_ne before [] with rfl | hbefore
  · rw [List.nil_append, List.nil_append, String.intercalate_singleton,
      String.intercalate_cons_append]
  · rw [String.intercalate_append_of_ne_nil hbefore (List.cons_ne_nil _ _),
      String.intercalate_append_of_ne_nil hbefore (List.cons_ne_nil _ _),
      String.intercalate_singleton, String.intercalate_cons_append, String.append_assoc]

/-- Texts with holes are the pieces between the holes, with the filling between them. -/
theorem exists_pieces {text : Filled → String} (h : Holed write text) :
    ∃ pieces : List String, pieces ≠ [] ∧ ∀ s, text s = (write s).intercalate pieces := by
  induction h with
  | fixed t => exact ⟨[t], List.cons_ne_nil _ _, fun s => String.intercalate_singleton.symm⟩
  | hole =>
    refine ⟨["", ""], List.cons_ne_nil _ _, fun s => ?_⟩
    rw [String.intercalate_cons_cons, String.intercalate_singleton, String.empty_append,
      String.append_empty]
  | append _ _ iht iho =>
    obtain ⟨pieces, hne, hpieces⟩ := iht
    obtain ⟨others, hne', hothers⟩ := iho
    obtain ⟨before, last, rfl⟩ := (List.eq_nil_or_concat pieces).resolve_left hne
    obtain ⟨first, rest, rfl⟩ := List.exists_cons_of_ne_nil hne'
    refine ⟨before ++ (last ++ first) :: rest, by simp, fun s => ?_⟩
    rw [List.concat_eq_append] at hpieces
    rw [← intercalate_append_intercalate, ← hpieces, ← hothers]

end Holed

/-! ## Rows -/

/-- Rows of as many entries, each of a sort. -/
inductive Rows (R : (Filled → α) → Prop) : (Filled → List α) → Prop
  | nil : Rows R fun _ => []
  | cons {entry : Filled → α} {row : Filled → List α} (he : R entry) (hr : Rows R row) :
      Rows R fun s => entry s :: row s

/-- What is of a sort, or missing for all fillings. -/
inductive Optional (R : (Filled → α) → Prop) : (Filled → Option α) → Prop
  | none : Optional R fun _ => .none
  | some {entry : Filled → α} (he : R entry) : Optional R fun s => .some (entry s)

namespace Rows

variable {R : (Filled → α) → Prop} {S : (Filled → β) → Prop} {row other : Filled → List α}

theorem fixed (h : ∀ a, R fun _ => a) : ∀ items : List α, Rows R fun _ => items
  | [] => nil
  | a :: items => cons (h a) (fixed h items)

theorem append (hr : Rows R row) (ho : Rows R other) : Rows R fun s => row s ++ other s := by
  induction hr with
  | nil => exact ho
  | cons he _ ih => exact cons he ih

theorem map {f : α → β} (hr : Rows R row) (h : ∀ entry, R entry → S fun s => f (entry s)) :
    Rows S fun s => (row s).map f := by
  induction hr with
  | nil => exact nil
  | cons he _ ih => exact cons (h _ he) ih

theorem flatten {row : Filled → List (List α)} (hr : Rows (Rows R) row) :
    Rows R fun s => (row s).flatten := by
  induction hr with
  | nil => exact nil
  | cons he _ ih => exact he.append ih

/-- Rows of what may be missing, without what is missing. -/
theorem filterMap_id {row : Filled → List (Option α)} (hr : Rows (Optional R) row) :
    Rows R fun s => (row s).filterMap id := by
  induction hr with
  | nil => exact nil
  | cons he _ ih =>
    cases he with
    | none => exact ih
    | some he => exact cons he ih

end Rows

namespace Optional

variable {R : (Filled → α) → Prop} {S : (Filled → β) → Prop} {o : Filled → Option α}

theorem fixed (h : ∀ a, R fun _ => a) : ∀ o : Option α, Optional R fun _ => o
  | .none => none
  | .some a => some (h a)

theorem map {f : α → β} (ho : Optional R o) (h : ∀ entry, R entry → S fun s => f (entry s)) :
    Optional S fun s => (o s).map f := by
  cases ho with
  | none => exact none
  | some he => exact some (h _ he)

theorem toList (ho : Optional R o) : Rows R fun s => (o s).toList := by
  cases ho with
  | none => exact .nil
  | some he => exact .cons he .nil

end Optional

namespace Holed

variable {row : Filled → List String}

theorem join (h : Rows (Holed write) row) : Holed write fun s => String.join (row s) := by
  induction h with
  | nil => exact fixed _
  | cons he _ ih =>
    simp only [String.join_cons]
    exact he.append ih

theorem joinLines (h : Rows (Holed write) row) :
    Holed write fun s => EmailStudio.joinLines (row s) := by
  induction h with
  | nil => exact fixed _
  | @cons entry row he hr ih =>
    cases hr with
    | nil =>
      simp only [joinLines_singleton]
      exact he
    | cons _ _ =>
      simp only [joinLines_cons (List.cons_ne_nil _ _)]
      exact he.append ((fixed "\n").append ih)

end Holed

/-! ## The parts of a document -/

section Parts

variable (write : String → String)

/-- Attributes with holes in their values. -/
inductive HoledAttribute : (Filled → String × String) → Prop
  | mk (name : String) {value : Filled → String} (hv : Holed write value) :
      HoledAttribute fun s => (name, value s)

/-- Icons with holes in their addresses. -/
inductive SocialIcon.IsHoled : (Filled → SocialIcon) → Prop
  | mk (name : String) {href : Filled → String} (hh : Holed write href) (size : String)
      (background : Option String) : IsHoled fun s => ⟨name, href s, size, background⟩

/-- Elements with holes in the values of their attributes and in their bodies. -/
inductive Element.IsHoled : (Filled → Element) → Prop
  | plain (tag : String) {attributes : Filled → Attributes} {body : Filled → Option String}
      (ha : Rows (HoledAttribute write) attributes) (hb : Optional (Holed write) body) :
      IsHoled fun s => .plain tag (attributes s) (body s)
  | social (align mode : String) {icons : Filled → List SocialIcon}
      (hi : Rows (SocialIcon.IsHoled write) icons) : IsHoled fun s => .social align mode (icons s)

inductive Column.IsHoled : (Filled → Column) → Prop
  | mk (attributes : Attributes) {elements : Filled → List Element}
      (he : Rows (Element.IsHoled write) elements) : IsHoled fun s => ⟨attributes, elements s⟩

inductive Section.IsHoled : (Filled → Section) → Prop
  | mk {attributes : Filled → Attributes} {columns : Filled → List Column}
      (ha : Rows (HoledAttribute write) attributes) (hc : Rows (Column.IsHoled write) columns) :
      IsHoled fun s => ⟨attributes s, columns s⟩

/-- Documents with holes in the texts of the head and in the sections. -/
structure Markup.IsHoled (markup : Filled → Markup) : Prop where
  title : Holed write fun s => (markup s).title
  preview : Holed write fun s => (markup s).preview
  font : Holed write fun s => (markup s).font
  background : Holed write fun s => (markup s).background
  width : Holed write fun s => (markup s).width
  sections : Rows (Section.IsHoled write) fun s => (markup s).sections

end Parts

theorem HoledAttribute.fixed (pair : String × String) : HoledAttribute write fun _ => pair :=
  .mk pair.1 (.fixed pair.2)

theorem SocialIcon.IsHoled.fixed (icon : SocialIcon) : IsHoled write fun _ => icon :=
  .mk icon.name (.fixed icon.href) icon.size icon.background

theorem Element.IsHoled.fixed : ∀ element : Element, IsHoled write fun _ => element
  | .plain tag attributes body =>
    .plain tag (.fixed HoledAttribute.fixed attributes) (.fixed Holed.fixed body)
  | .social align mode icons => .social align mode (.fixed SocialIcon.IsHoled.fixed icons)

theorem Column.IsHoled.fixed (column : Column) : IsHoled write fun _ => column :=
  .mk column.attributes (.fixed Element.IsHoled.fixed column.elements)

theorem Section.IsHoled.fixed (part : Section) : IsHoled write fun _ => part :=
  .mk (.fixed HoledAttribute.fixed part.attributes) (.fixed Column.IsHoled.fixed part.columns)

/-! ### As they are written -/

theorem HoledAttribute.text {pair : Filled → String × String} (h : HoledAttribute write pair) :
    Holed write fun s => attributeText (pair s) := by
  cases h with
  | mk name hv =>
    simp only [attributeText]
    exact ((Holed.fixed _).append hv).append (.fixed _)

theorem Holed.inlineAttributes {attributes : Filled → Attributes}
    (h : Rows (HoledAttribute write) attributes) :
    Holed write fun s => EmailStudio.inlineAttributes (attributes s) :=
  .join (h.map fun _ hpair => (Holed.fixed _).append hpair.text)

theorem SocialIcon.IsHoled.text {icon : Filled → SocialIcon} (h : IsHoled write icon) :
    Holed write fun s => (icon s).text := by
  cases h with
  | mk name hh size background =>
    have attributes := Holed.inlineAttributes
      (.cons (.mk "name" (.fixed name)) <| .cons (.mk "href" hh) <|
        .cons (.mk "icon-size" (.fixed size)) <| .fixed HoledAttribute.fixed
          (background.toList.map fun color => ("background-color", color)))
    exact ((Holed.fixed _).append attributes).append (.fixed _)

theorem Element.IsHoled.text {element : Filled → Element} (h : IsHoled write element) :
    Holed write fun s => (element s).text := by
  cases h with
  | plain tag ha hb =>
    have opening : Rows (Holed write) fun _ => ["        <" ++ tag] := .fixed Holed.fixed _
    have lines := ha.map (S := Holed write) (f := fun pair => "          " ++ attributeText pair)
      fun _ hpair => (Holed.fixed _).append hpair.text
    cases hb with
    | none => exact .joinLines ((opening.append lines).append (.fixed Holed.fixed _))
    | some hbody =>
      have closing := (((Holed.fixed "        >").append hbody).append (.fixed "</")).append
        (.fixed tag)
      exact .joinLines ((opening.append lines).append (.cons (closing.append (.fixed ">")) .nil))
  | social align mode hi =>
    have lines := hi.map fun _ hicon => hicon.text
    exact .joinLines (((Rows.fixed Holed.fixed _).append lines).append (.fixed Holed.fixed _))

theorem Column.IsHoled.text {column : Filled → Column} (h : IsHoled write column) :
    Holed write fun s => (column s).text := by
  cases h with
  | mk attributes he =>
    cases he with
    | nil => exact .fixed _
    | cons he hr =>
      have lines := (Rows.cons he hr).map fun _ helement => helement.text
      have opening : Rows (Holed write)
          fun _ => ["      <mj-column" ++ inlineAttributes attributes ++ ">"] :=
        .fixed Holed.fixed _
      refine .joinLines (.append (.append opening ?_) (.fixed Holed.fixed _))
      exact lines

theorem Section.IsHoled.text {part : Filled → Section} (h : IsHoled write part) :
    Holed write fun s => (part s).text := by
  cases h with
  | mk ha hc =>
    have opening := ((Holed.fixed "    <mj-section").append (.inlineAttributes ha)).append
      (.fixed ">\n")
    have columns := Holed.joinLines (hc.map fun _ hcolumn => hcolumn.text)
    exact (opening.append columns).append (.fixed _)

/-- A document with holes is written as a text with holes. -/
theorem Markup.IsHoled.text {markup : Filled → Markup} (h : IsHoled write markup) :
    Holed write fun s => (markup s).text := by
  have line (before : String) {t : Filled → String} (ht : Holed write t) (after : String) :
      Holed write fun s => before ++ t s ++ after :=
    ((Holed.fixed before).append ht).append (.fixed after)
  have sections := h.sections.map fun _ hpart => hpart.text
  refine .joinLines (.append (.append ?_ sections) (.fixed Holed.fixed _))
  exact .cons (.fixed _) <| .cons (.fixed _) <| .cons (line _ h.title _) <|
    .cons (line _ h.preview _) <| .cons (.fixed _) <| .cons (line _ h.font _) <|
    .cons (line _ h.background _) <| .cons (.fixed _) <| .cons (.fixed _) <| .cons (.fixed _) <|
    .cons (line _ h.width _) .nil

/-! ## Computations -/

/-- A computation that, if it gave a result before, gives results of a sort for the fillings. -/
def Yields (R : (Filled → α) → Prop) (x : Filling → Except Fault α) : Prop :=
  ∀ a, x none = .ok a → ∃ g, R g ∧ ∀ s, x (some s) = .ok (g s)

namespace Yields

variable {R : (Filled → α) → Prop} {S : (Filled → β) → Prop} {x : Filling → Except Fault α}

theorem of_ok {g : Filled → α} (hg : R g) (h : ∀ s, x (some s) = .ok (g s)) : Yields R x :=
  fun _ _ => ⟨g, hg, h⟩

/-- A computation that does not depend on the filling. -/
theorem fixed (h : ∀ a, R fun _ => a) (x : Except Fault α) : Yields R fun _ => x :=
  fun a ha => ⟨fun _ => a, h a, fun _ => ha⟩

theorem bind {f : Filling → α → Except Fault β} (hx : Yields R x)
    (hf : ∀ a g, R g → Yields S fun i => f i (i.elim a g)) : Yields S fun i => x i >>= f i := by
  intro b hb
  obtain ⟨a, ha, hb⟩ := Outcome.bind_eq_ok_iff.1 hb
  obtain ⟨g, hg, hxg⟩ := hx a ha
  obtain ⟨k, hk, hfk⟩ := hf a g hg b hb
  exact ⟨k, hk, fun s => Outcome.bind_eq_ok_iff.2 ⟨g s, hxg s, hfk s⟩⟩

theorem bind_fixed {f : Filling → α → Except Fault β} (x : Except Fault α)
    (hf : ∀ a, Yields S fun i => f i a) : Yields S fun i => x >>= f i := by
  intro b hb
  obtain ⟨a, ha, hb⟩ := Outcome.bind_eq_ok_iff.1 hb
  obtain ⟨k, hk, hfk⟩ := hf a b hb
  exact ⟨k, hk, fun s => Outcome.bind_eq_ok_iff.2 ⟨a, ha, hfk s⟩⟩

theorem map {f : α → β} (hx : Yields R x) (hf : ∀ g, R g → S fun s => f (g s)) :
    Yields S fun i => f <$> x i := by
  intro b hb
  obtain ⟨a, ha, -⟩ := Outcome.map_eq_ok_iff.1 hb
  obtain ⟨g, hg, hxg⟩ := hx a ha
  exact ⟨_, hf g hg, fun s => Outcome.map_eq_ok_iff.2 ⟨g s, hxg s, rfl⟩⟩

/-- The same step for every item of a list. -/
theorem mapM {f : Filling → α → Except Fault β} {items : List α}
    (h : ∀ item ∈ items, Yields S fun i => f i item) :
    Yields (Rows S) fun i => items.mapM (f i) := by
  induction items with
  | nil => exact of_ok .nil fun _ => rfl
  | cons item items ih =>
    obtain ⟨hitem, h⟩ := List.forall_mem_cons.1 h
    simp only [List.mapM_cons]
    refine hitem.bind fun _ g hg => (ih h).bind fun _ rest hrest => ?_
    exact of_ok (.cons hg hrest) fun _ => rfl

end Yields

end EmailStudio
