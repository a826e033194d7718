import EmailStudio.Config.Settings
import EmailStudio.Proofs.Intake.Reading

/-!
# Settings that are accepted

Settings are read field by field, and then the rules about several fields are judged. By
`Settings.isAccepted_of_load`, settings from any sources are within the bounds of their fields and
break no rule.
-/

namespace EmailStudio.Settings

/-- The bounds and rules that settings keep. -/
structure IsAccepted (settings : Settings) : Prop where
  one_le_port : 1 ≤ settings.port
  port_le : settings.port ≤ 65535
  one_le_workers : 1 ≤ settings.workers
  unbroken : settings.brokenRule? = none

theorem brokenRule?_eq_none_iff {settings : Settings} : settings.brokenRule? = none ↔
    (settings.storageKind = .bucket → (BucketSettings.given? settings.s3Bucket).isSome) ∧
      (settings.usesSqlite = true → settings.workers ≤ 1) := by
  rw [brokenRule?]
  split_ifs with hbucket hworkers
  · refine iff_of_false nofun fun h => ?_
    exact Option.isSome_iff_ne_none.1 (h.1 hbucket.1) (Option.isNone_iff_eq_none.1 hbucket.2)
  · refine iff_of_false nofun fun h => ?_
    exact Int.not_lt.2 (h.2 hworkers.2) hworkers.1
  · refine iff_of_true rfl ⟨fun hkind => ?_, fun hsqlite => ?_⟩
    · exact Option.isSome_iff_ne_none.2 fun hnone =>
        hbucket ⟨hkind, Option.isNone_iff_eq_none.2 hnone⟩
    · exact Int.not_lt.1 fun hlt => hworkers ⟨hlt, hsqlite⟩

/-- Some of the fields that settings are read from. -/
theorem fields_of_ofFields {fields : Fields} (settings : Settings)
    (h : (ofFields fields).result = .ok settings) :
    (Intake.optional "port" 8000 (Intake.integerBetween (some 1) (some 65535)) fields).result =
        .ok settings.port ∧
      (Intake.optional "workers" 1 (Intake.integerBetween (some 1) none) fields).result =
        .ok settings.workers ∧
      (Intake.optional "cors_origins" ["http://localhost:3000", "http://localhost:5173"] origins
        fields).result = .ok settings.corsOrigins := by
  revert settings
  unfold ofFields
  iterate 31 refine Reading.seq_induction ?_
  refine Reading.map_induction ?_
  intros
  exact ⟨‹_›, ‹_›, ‹_›⟩

theorem read_eq_ok_iff {fields : Fields} {settings : Settings} :
    (read fields).result = .ok settings ↔
      (ofFields fields).result = .ok settings ∧ settings.brokenRule? = none := by
  rw [read, Reading.andThen_eq_ok_iff]
  constructor
  · rintro ⟨read, hread, hrule⟩
    split at hrule
    · cases hrule
    · rename_i hnone
      cases hrule
      exact ⟨hread, hnone⟩
  · rintro ⟨hread, hnone⟩
    refine ⟨settings, hread, ?_⟩
    rw [hnone]
    rfl

theorem isAccepted_of_read {fields : Fields} {settings : Settings}
    (h : (read fields).result = .ok settings) : settings.IsAccepted := by
  obtain ⟨hread, hrule⟩ := read_eq_ok_iff.1 h
  obtain ⟨hport, hworkers, -⟩ := fields_of_ofFields settings hread
  obtain ⟨hlow, hhigh⟩ : 1 ≤ settings.port ∧ settings.port ≤ 65535 := by
    refine Intake.optional_induction (P := fun port => 1 ≤ port ∧ port ≤ 65535) hport
      (by decide) fun v hv => ?_
    obtain ⟨hlow, hhigh⟩ := Intake.le_of_integerBetween hv
    exact ⟨hlow, hhigh _ rfl⟩
  have hpos : 1 ≤ settings.workers :=
    Intake.optional_induction hworkers (by decide) fun v hv => (Intake.le_of_integerBetween hv).1
  exact ⟨hlow, hhigh, hpos, hrule⟩

/-- The fields of all sources. -/
def merged (values fromEnvironment fromFile : Fields) : Fields :=
  (fromFile.update fromEnvironment).update values

theorem load_eq {values fromEnvironment fromFile : Fields}
    {environment file : List (String × String)}
    (henvironment : fieldsOfVariables environment = .ok fromEnvironment)
    (hfile : fieldsOfVariables file = .ok fromFile) :
    load values environment file =
      (read (merged values fromEnvironment fromFile)).result.mapError .issues := by
  rw [load, henvironment, hfile]
  rfl

theorem load_eq_ok_iff {values : Fields} {environment file : List (String × String)}
    {settings : Settings} :
    load values environment file = .ok settings ↔
      ∃ fromEnvironment, fieldsOfVariables environment = .ok fromEnvironment ∧
      ∃ fromFile, fieldsOfVariables file = .ok fromFile ∧
        (read (merged values fromEnvironment fromFile)).result = .ok settings := by
  rw [load]
  simp only [Outcome.bind_eq_ok_iff, Outcome.mapError_eq_ok_iff, merged]

/-- Whatever the sources are, settings that come of them are accepted. -/
theorem isAccepted_of_load {values : Fields} {environment file : List (String × String)}
    {settings : Settings} (h : load values environment file = .ok settings) :
    settings.IsAccepted := by
  obtain ⟨fromEnvironment, -, fromFile, -, hread⟩ := load_eq_ok_iff.1 h
  exact isAccepted_of_read hread

end EmailStudio.Settings
