import EmailStudio.Proofs.Validation.Soundness
import EmailStudio.Publishing.Publisher

/-!
# What is published

A candidate is refused with its issues, or it is read as a template and compiled. Nothing is lost on
the way to the stored form: by `Publisher.isStored_of_publish`, the stored template is sound itself,
it reads as a template that has just this stored form, and it compiles to the markup that is stored
beside it.
-/

namespace EmailStudio

namespace Template

theorem errors_eq_nil_iff {candidate : Value} :
    errors candidate = [] ↔ isValid candidate = true := by
  rw [errors, List.map_eq_nil_iff, isValid_iff]

/-- A sound template in its stored form, beside the markup that it compiles to. -/
def IsStored (template : Value) (markup : String) : Prop :=
  isValid template = true ∧
    ∃ t, ofValue template = .ok t ∧ t.toValue = template ∧ t.compile = .ok markup

/-- A sound template that was read from any candidate can be stored. -/
theorem Sound.isStored {candidate : Value} {t : Template} {markup : String} (h : t.Sound)
    (ht : ofValue candidate = .ok t) (hm : t.compile = .ok markup) :
    IsStored t.toValue markup :=
  ⟨h.isValid, t, ofValue_toValue ht, rfl, hm⟩

end Template

namespace Publisher

theorem compile_of_errors {candidate : Value} (h : Template.isValid candidate = false) :
    compile candidate = .error (.invalid (Template.errors candidate)) := by
  unfold compile
  split
  · rename_i herrors
    rw [Template.errors_eq_nil_iff, h] at herrors
    cases herrors
  · rfl

theorem compile_of_isValid {candidate : Value} {t : Template}
    (h : Template.isValid candidate = true) (ht : Template.ofValue candidate = .ok t) :
    compile candidate = ((fun markup => (t.toValue, markup)) <$> t.compile).mapError .fault := by
  unfold compile
  rw [Template.errors_eq_nil_iff.2 h, ht]
  rfl

/-- The rendering that is published beside markup. -/
def rendering (publisher : Publisher) (markup : String) : Except PublishFault Rendering :=
  if publisher.rendersHtml then
    (publisher.engine.render publisher.level markup).mapError .fault
  else pure ⟨"", []⟩

theorem publish_of_compile (publisher : Publisher) {candidate template : Value} {markup : String}
    (h : compile candidate = .ok (template, markup)) :
    publisher.publish candidate = Published.mk template markup <$> publisher.rendering markup := by
  rw [publish, h, rendering]
  simp only [bind, Except.bind]
  split_ifs
  · cases publisher.engine.render publisher.level markup <;> rfl
  · rfl

/-- A candidate compiles if it has no issues and the template that it reads as compiles. -/
theorem compile_eq_ok_iff {candidate template : Value} {markup : String} :
    compile candidate = .ok (template, markup) ↔ Template.isValid candidate = true ∧
      ∃ t, Template.ofValue candidate = .ok t ∧ t.toValue = template ∧ t.compile = .ok markup := by
  constructor
  · intro h
    cases hv : Template.isValid candidate with
    | false =>
      rw [compile_of_errors hv] at h
      cases h
    | true =>
      obtain ⟨t, ht, -⟩ := Template.sound_of_isValid hv
      rw [compile_of_isValid hv ht] at h
      cases hm : t.compile with
      | error fault =>
        rw [hm] at h
        cases h
      | ok compiled =>
        rw [hm] at h
        cases h
        exact ⟨rfl, t, ht, rfl, hm⟩
  · rintro ⟨hv, t, ht, rfl, hm⟩
    rw [compile_of_isValid hv ht, hm]
    rfl

theorem isStored_of_compile {candidate template : Value} {markup : String}
    (h : compile candidate = .ok (template, markup)) : Template.IsStored template markup := by
  obtain ⟨hv, t, ht, rfl, hm⟩ := compile_eq_ok_iff.1 h
  exact (Template.sound_of_ofValue hv ht).isStored ht hm

/-- What is published is what the candidate compiled to. -/
theorem compile_of_publish {publisher : Publisher} {candidate : Value} {published : Published}
    (h : publisher.publish candidate = .ok published) :
    compile candidate = .ok (published.template, published.markup) := by
  obtain ⟨⟨template, markup⟩, hc, -⟩ := Outcome.bind_eq_ok_iff.1 h
  rw [publish_of_compile publisher hc] at h
  obtain ⟨rendering, -, rfl⟩ := Outcome.map_eq_ok_iff.1 h
  exact hc

/-- Whatever the engine does, what is published is a sound template with its markup. -/
theorem isStored_of_publish {publisher : Publisher} {candidate : Value} {published : Published}
    (h : publisher.publish candidate = .ok published) :
    Template.IsStored published.template published.markup :=
  isStored_of_compile (compile_of_publish h)

end Publisher

end EmailStudio
