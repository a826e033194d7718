import EmailStudio.Proofs.Publishing.Publisher

/-!
# When rendering returns

An engine may report anything. A report is read as a diagnostic, and one thing about it is not taken
as it comes: the line of an object must amount to an integer. What holds the reports must be
something that holds items. `EngineAnswer.IsLegible` says both. The main result is
`Engine.returnsIff_render`: a rendering comes of an answer exactly if it is legible, whatever the
level, and otherwise the fault is one of reading it.
-/

namespace EmailStudio

open Outcome (ReturnsIff)

/-! ## Integers in values -/

/-- A value that amounts to an integer: an integer or a truth value, a finite number, or a text
that spells an integer. -/
inductive Value.IsIntegral : Value → Prop
  | int (n : Int) : IsIntegral (.int n)
  | bool (b : Bool) : IsIntegral (.bool b)
  | float {x : Binary64} (finite : x.isFinite = true) : IsIntegral (.float x)
  | text {s : String} {n : Int} (spelled : Text.readInteger s = .number n) : IsIntegral (.text s)

/-- The faults of reading what was reported. -/
inductive Fault.OfReport : Fault → Prop
  | notList : OfReport .notList
  | notNumber : OfReport .notNumber
  | badInteger (s : String) : OfReport (.badInteger s)
  | tooManyDigits (count : Nat) : OfReport (.tooManyDigits count)
  | wholeOfNaN : OfReport .wholeOfNaN
  | tooLarge : OfReport .tooLarge

theorem Binary64.truncate?_eq (x : Binary64) :
    (x.isFinite = true ∧ ∃ n, x.truncate? = some n) ∨
      (x.isFinite = false ∧ x.truncate? = none) := by
  rw [truncate?, toRat?]
  cases hfinite : x.isFinite with
  | true => exact .inl ⟨rfl, _, rfl⟩
  | false => exact .inr ⟨rfl, rfl⟩

theorem Value.returnsIff_toInteger (v : Value) :
    ReturnsIff Fault.OfReport v.IsIntegral v.toInteger := by
  cases v with
  | int n => exact (ReturnsIff.of_ok rfl).congr (iff_of_true trivial (.int n))
  | bool b => exact (ReturnsIff.of_ok rfl).congr (iff_of_true trivial (.bool b))
  | float x =>
    rw [toInteger]
    obtain ⟨hfinite, n, hn⟩ | ⟨hfinite, hn⟩ := x.truncate?_eq
    · rw [hn]
      exact (ReturnsIff.of_ok rfl).congr (iff_of_true trivial (.float hfinite))
    · have hnot : ¬(Value.float x).IsIntegral := by
        rintro (_ | _ | h)
        rw [hfinite] at h
        cases h
      rw [hn]
      refine (ReturnsIff.of_error rfl ?_).congr (iff_of_false id hnot)
      split
      · exact .wholeOfNaN
      · exact .tooLarge
  | text s =>
    rw [toInteger]
    cases hread : Text.readInteger s with
    | number n => exact (ReturnsIff.of_ok rfl).congr (iff_of_true trivial (.text hread))
    | malformed =>
      refine (ReturnsIff.of_error rfl (.badInteger s)).congr (iff_of_false id ?_)
      rintro (_ | _ | _ | h)
      rw [hread] at h
      cases h
    | tooLong count =>
      refine (ReturnsIff.of_error rfl (.tooManyDigits count)).congr (iff_of_false id ?_)
      rintro (_ | _ | _ | h)
      rw [hread] at h
      cases h
  | null | list | object =>
    exact (ReturnsIff.of_error rfl .notNumber).congr (iff_of_false id nofun)

/-! ## Reports -/

/-- A report that can be read: the line of an object is not given or amounts to an integer. -/
def Diagnostic.IsLegible (report : Value) : Prop :=
  (Fields.get report.fields "line").truthy = true → (Fields.get report.fields "line").IsIntegral

theorem Diagnostic.returnsIff_ofReport (report : Value) :
    ReturnsIff Fault.OfReport (Diagnostic.IsLegible report) (Diagnostic.ofReport report) := by
  cases report with
  | object fields =>
    have hline : ((Fields.get fields "line").orElse (.int 0)).IsIntegral ↔
        Diagnostic.IsLegible (.object fields) := by
      unfold Diagnostic.IsLegible Value.orElse Value.fields
      split_ifs with hgiven
      · simp only [hgiven, true_imp_iff]
      · exact iff_of_true (.int 0) fun h => absurd h hgiven
    rw [ofReport]
    exact (Value.returnsIff_toInteger _).bind_pure.congr hline
  | _ => exact (ReturnsIff.of_ok rfl).congr (iff_of_true trivial nofun)

/-- What reports can be taken from: a list, or anything that holds none. A number that is not zero
and the truth value true are neither. -/
def Value.HoldsReports (reports : Value) : Prop :=
  reports.truthy = true → reports.isNumber = false ∧ reports.isBool = false

/-- Characters and names are reports that say nothing of a line. -/
theorem Rendering.returnsIff_reportsIn (reports : Value) :
    ReturnsIff Fault.OfReport reports.HoldsReports (Rendering.reportsIn reports) := by
  have holds {v : Value} (hn : v.isNumber = false) (hb : v.isBool = false) : v.HoldsReports :=
    fun _ => ⟨hn, hb⟩
  cases reports with
  | list | object | text =>
    exact (ReturnsIff.of_ok rfl).congr (iff_of_true trivial (holds rfl rfl))
  | null => exact (ReturnsIff.of_ok rfl).congr (iff_of_true trivial (holds rfl rfl))
  | bool | int | float =>
    rw [reportsIn]
    · split_ifs with hgiven
      · refine (ReturnsIff.of_error rfl .notList).congr (iff_of_false id fun h => ?_)
        cases (h hgiven).1 <;> cases (h hgiven).2
      · exact (ReturnsIff.of_ok rfl).congr (iff_of_true trivial fun h => absurd h hgiven)
    all_goals
      intros
      contradiction

/-- Whatever holds the reports, those that are no texts are the items of a list. -/
theorem Rendering.isLegible_reportsIn {reports : Value} {found : List Value}
    (h : Rendering.reportsIn reports = .ok found) :
    (∀ report ∈ found, Diagnostic.IsLegible report) ↔
      ∀ report ∈ reports.items, Diagnostic.IsLegible report := by
  have text (s : String) : Diagnostic.IsLegible (.text s) := nofun
  cases reports with
  | list items =>
    cases h
    rfl
  | object fields =>
    cases h
    exact iff_of_true (List.forall_mem_map.2 fun _ _ => text _) nofun
  | text s =>
    cases h
    exact iff_of_true (List.forall_mem_map.2 fun _ _ => text _) nofun
  | null | bool | int | float =>
    rw [reportsIn] at h
    · split_ifs at h
      cases h
      rfl
    all_goals
      intros
      contradiction

/-! ## Renderings -/

/-- An answer that can be read: the engine failed, or what it reports holds reports that can all be
read. -/
def EngineAnswer.IsLegible : EngineAnswer → Prop
  | .failed _ => True
  | .rendered _ reports =>
    reports.HoldsReports ∧ ∀ report ∈ reports.items, Diagnostic.IsLegible report

theorem Rendering.returnsIff_ofAnswer (level : Level) (answer : EngineAnswer) :
    ReturnsIff Fault.OfReport answer.IsLegible (Rendering.ofAnswer level answer) := by
  cases answer with
  | failed reason => exact ReturnsIff.of_ok rfl
  | rendered html reports =>
    rw [ofAnswer]
    refine (Rendering.returnsIff_reportsIn reports).bind fun found hfound => ?_
    refine ReturnsIff.congr ?_ (Rendering.isLegible_reportsIn hfound)
    exact (ReturnsIff.mapM fun report _ => Diagnostic.returnsIff_ofReport report).bind_pure

/-- A rendering comes of markup exactly if the answer of the engine can be read. -/
theorem Engine.returnsIff_render (engine : Engine) (level : Level) (markup : String) :
    ReturnsIff Fault.OfReport (engine markup).IsLegible (engine.render level markup) :=
  Rendering.returnsIff_ofAnswer level (engine markup)

namespace Publisher

/-- What a candidate is published as beside its markup is a rendering, where one is asked for. -/
theorem exists_publish_iff (publisher : Publisher) {candidate template : Value} {markup : String}
    (h : compile candidate = .ok (template, markup)) :
    (∃ published, publisher.publish candidate = .ok published) ↔
      (publisher.rendersHtml = true → (publisher.engine markup).IsLegible) := by
  have hrender := publisher.engine.returnsIff_render publisher.level markup
  rw [publish_of_compile publisher h, rendering]
  split_ifs with hasked
  · rw [← hrender.exists_ok_iff]
    simp only [hasked, true_imp_iff]
    cases publisher.engine.render publisher.level markup <;> simp [Except.mapError]
  · exact iff_of_true ⟨_, rfl⟩ fun h => absurd h hasked

end Publisher

end EmailStudio
