import EmailStudio.Proofs.Document.Reading

/-!
# Documents that were read

Reading fills in what is left out, so that not every block and not every template can have been
read: a prop other than the link of an image is never null, and an entry of a row of icons always
says its network. `Block.IsRead` and `Template.IsRead` are those that can.

The main result is `isRead_iff_reads_back`: whatever the value was, sound or not, what was read from
it reads the same again from its stored form, and so does every block in it, however deep.
-/

namespace EmailStudio

namespace Block

/-- A block that some value reads as. -/
def IsRead (b : Block) : Prop :=
  ∃ v, ofValue v = .ok b

theorem isRead_iff_readable {b : Block} : b.IsRead ↔ b.Readable := by
  constructor
  · rintro ⟨v, h⟩
    exact readable_of_ofValue h
  · intro h
    exact ⟨b.toValue, h.ofValue_toValue⟩

theorem isRead_iff {b : Block} : b.IsRead ↔ ofValue b.toValue = .ok b := by
  constructor
  · intro h
    exact (isRead_iff_readable.1 h).ofValue_toValue
  · intro h
    exact ⟨b.toValue, h⟩

/-- The blocks that a block holds were read with it. -/
theorem IsRead.child {b child : Block} (h : b.IsRead) (hc : child ∈ b.children) :
    child.IsRead := by
  rw [isRead_iff_readable] at h ⊢
  cases h with
  | intro _ children => exact children child hc

end Block

namespace Template

/-- A template that some value reads as. -/
def IsRead (t : Template) : Prop :=
  ∃ v, ofValue v = .ok t

theorem isRead_iff {t : Template} : t.IsRead ↔ ofValue t.toValue = .ok t := by
  constructor
  · rintro ⟨v, h⟩
    exact ofValue_toValue h
  · intro h
    exact ⟨t.toValue, h⟩

theorem IsRead.block {t : Template} {b : Block} (h : t.IsRead) (hb : b ∈ t.content) :
    b.IsRead := by
  obtain ⟨v, h⟩ := h
  exact Block.isRead_iff_readable.2 (readable_of_ofValue h b hb)

end Template

/-- The templates and the blocks that some value reads as are those that their own stored form reads
as. A block is such a one wherever it stands in a template or below a block that was read. -/
theorem isRead_iff_reads_back :
    (∀ t : Template, t.IsRead ↔ Template.ofValue t.toValue = .ok t) ∧
    (∀ b : Block, b.IsRead ↔ Block.ofValue b.toValue = .ok b) ∧
    (∀ t : Template, t.IsRead → ∀ b ∈ t.content, b.IsRead) ∧
    ∀ b : Block, b.IsRead → ∀ child ∈ b.children, child.IsRead :=
  ⟨fun _ => Template.isRead_iff, fun _ => Block.isRead_iff, fun _ h _ => h.block,
    fun _ h _ => h.child⟩

/-- A candidate that is wrong throughout: a null subject, entries of odd types beside an address of
its own, a count of zero, and nothing where props and children are to be. -/
def oddCandidate : Value :=
  .object [
    ("metadata", .object [("subject", .null)]),
    ("content", .list [
      .object [("type", .text "EmailSocial"), ("props", .object [
        ("networks", .list [.object [("type", .int 5), ("url", .int 0)], .text "facebook",
          .object [("type", .bool true), ("url", .list [.null])]]),
        ("twitterUrl", .bool true), ("iconSize", .int 0)])],
      .object [("type", .text "EmailColumns"), ("props", .object [("columns", .int 0)]),
        ("children", .list [
          .object [("type", .text "EmailImage"), ("props", .object [("href", .null),
            ("width", .text "half")])],
          .object [("type", .text "EmailColumns"), ("props", .list []),
            ("children", .text "")]])]])]

theorem isRead_iff_reads_back_oddCandidate :
    ∃ t, Template.ofValue oddCandidate = .ok t ∧ t.metadata.subject = .null ∧
      t.content.map (·.kind) = [.social, .columns] ∧ Template.ofValue t.toValue = .ok t := by
  refine ⟨_, rfl, rfl, rfl, ?_⟩
  exact (isRead_iff_reads_back.1 _).1 ⟨oddCandidate, rfl⟩

end EmailStudio
