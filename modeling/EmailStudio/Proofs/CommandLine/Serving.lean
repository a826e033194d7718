import EmailStudio.CommandLine.Run
import EmailStudio.Proofs.Config.Settings

/-!
# Starting the server

Arguments override what the settings say of the server, and nothing judges what comes of it. By
`serve_obeys_iff` the server is started in any case, and it is started as the settings may have it
exactly if every number that is given is within the bounds by itself.
-/

namespace EmailStudio.CommandLine

namespace ServerOptions

/-- What settings demand of a server: the bounds of its numbers, and one worker if the database is
SQLite. -/
structure Obeys (options : ServerOptions) (settings : Settings) : Prop where
  one_le_port : 1 ≤ options.port
  port_le : options.port ≤ 65535
  one_le_workers : 1 ≤ options.workers
  single : settings.usesSqlite = true → options.workers ≤ 1

/-- The settings that say the same of the server. -/
def enteredIn (options : ServerOptions) (settings : Settings) : Settings :=
  { settings with host := options.host, port := options.port, workers := options.workers }

/-- A server obeys accepted settings if they were accepted with its numbers in them. -/
theorem obeys_iff_isAccepted {options : ServerOptions} {settings : Settings}
    (accepted : settings.IsAccepted) :
    options.Obeys settings ↔ (options.enteredIn settings).IsAccepted := by
  have hbucket := (Settings.brokenRule?_eq_none_iff.1 accepted.unbroken).1
  constructor
  · intro h
    exact ⟨h.one_le_port, h.port_le, h.one_le_workers,
      Settings.brokenRule?_eq_none_iff.2 ⟨hbucket, h.single⟩⟩
  · intro h
    exact ⟨h.one_le_port, h.port_le, h.one_le_workers,
      (Settings.brokenRule?_eq_none_iff.1 h.unbroken).2⟩

end ServerOptions

theorem overriding_some (n setting : Int) :
    overriding (some n) setting = if n = 0 then setting else n := by
  unfold overriding Option.filter
  by_cases hn : n = 0 <;> simp [hn]

/-- What holds of a setting holds of what overrides it if it holds of the number that is given. Zero
counts as not given. -/
theorem overriding_iff {p : Int → Prop} {setting : Int} (h : p setting) (given : Option Int) :
    p (overriding given setting) ↔ ∀ n ∈ given, n = 0 ∨ p n := by
  cases given with
  | none => exact iff_of_true h nofun
  | some n =>
    rw [overriding_some]
    by_cases hn : n = 0 <;> simp [hn, h]

/-- The server is started within the rules if each number that is given keeps them. With a reload
the number of workers does not count, and the level of the log never does. -/
theorem obeys_serverOptions_iff {settings : Settings} (accepted : settings.IsAccepted)
    (level : LogLevel) (host : Option String) (port workers : Option Int) (reload : Bool) :
    (serverOptions { settings with logLevel := level } host port workers reload).Obeys settings ↔
      (∀ n ∈ port, n = 0 ∨ 1 ≤ n ∧ n ≤ 65535) ∧
        (reload = true ∨
          ∀ n ∈ workers, n = 0 ∨ 1 ≤ n ∧ (settings.usesSqlite = true → n ≤ 1)) := by
  have hport := overriding_iff (p := fun n => 1 ≤ n ∧ n ≤ 65535)
    ⟨accepted.one_le_port, accepted.port_le⟩ port
  have hworkers := overriding_iff (p := fun n => 1 ≤ n ∧ (settings.usesSqlite = true → n ≤ 1))
    ⟨accepted.one_le_workers, (Settings.brokenRule?_eq_none_iff.1 accepted.unbroken).2⟩ workers
  have hobeys (options : ServerOptions) : options.Obeys settings ↔
      (1 ≤ options.port ∧ options.port ≤ 65535) ∧
        1 ≤ options.workers ∧ (settings.usesSqlite = true → options.workers ≤ 1) :=
    ⟨fun h => ⟨⟨h.one_le_port, h.port_le⟩, h.one_le_workers, h.single⟩,
      fun ⟨⟨hlow, hhigh⟩, hpos, hsingle⟩ => ⟨hlow, hhigh, hpos, hsingle⟩⟩
  rw [hobeys, ← hport, ← hworkers]
  cases reload with
  | true => simp [serverOptions]
  | false => simp [serverOptions]

/-- However settings came about that are accepted, and whatever arguments are given: the server is
started, with nothing printed. It obeys the settings, which is to say that they would be accepted
with its numbers in them, exactly if each number that is given and not zero is within the bounds;
with a reload the number of workers is not asked for. A run of the program with these arguments
comes to the same. -/
theorem serve_obeys_iff {values : Fields} {environment file : List (String × String)}
    {settings : Settings} (accepted : Settings.load values environment file = .ok settings)
    (level : LogLevel) (host : Option String) (port workers : Option Int) (reload : Bool) :
    let leveled := { settings with logLevel := level }
    let options := serverOptions leveled host port workers reload
    (∀ workplace outcome, (Command.serve host port workers reload).run workplace leveled outcome =
      { outcome with server := some options }) ∧
    (options.Obeys settings ↔ (options.enteredIn settings).IsAccepted) ∧
    (options.Obeys settings ↔ (∀ n ∈ port, n = 0 ∨ 1 ≤ n ∧ n ≤ 65535) ∧
      (reload = true ∨ ∀ n ∈ workers, n = 0 ∨ 1 ≤ n ∧ (settings.usesSqlite = true → n ≤ 1))) ∧
    ∀ {workplace : Workplace} {arguments : List String} {opening : Opening},
      Opening.read arguments = .proper opening → opening.command = .serve →
      settingsOf workplace = .ok settings → opening.logLevel.getD settings.logLevel = level →
      Command.read workplace.directory .serve opening.arguments =
        .proper (.serve host port workers reload) →
      run workplace arguments = { Outcome.start workplace with server := some options } := by
  intro leveled options
  have hsettings := Settings.isAccepted_of_load accepted
  refine ⟨fun _ _ => rfl, ServerOptions.obeys_iff_isAccepted hsettings,
    obeys_serverOptions_iff hsettings level host port workers reload, ?_⟩
  rintro workplace arguments opening hopening hserve hworkplace rfl hread
  rw [run, hopening]
  simp only [hworkplace, hserve, hread]
  rfl

/-- An empty directory, and no variables. -/
def bareWorkplace : Workplace :=
  ⟨.directory [], [], "", fun _ => .failed ""⟩

/-- By the defaults the designs are in an SQLite database. -/
theorem settingsOf_bareWorkplace :
    ∃ settings, settingsOf bareWorkplace = .ok settings ∧ settings.usesSqlite = true := by
  have hread : (settingsOf bareWorkplace).toOption.map (·.usesSqlite) = some true := by
    decide +kernel
  cases hsettings : settingsOf bareWorkplace with
  | error fault =>
    rw [hsettings] at hread
    cases hread
  | ok settings =>
    rw [hsettings] at hread
    exact ⟨settings, rfl, Option.some.inj hread⟩

/-- The arguments that ask for four workers. -/
def serveFour : List String := ["serve", "--workers", "4"]

theorem read_serveFour :
    Opening.read serveFour = .proper ⟨none, .serve, ["--workers", "4"]⟩ ∧
      Command.read bareWorkplace.directory .serve ["--workers", "4"] =
        .proper (.serve none none (some 4) false) := by
  decide +kernel

/-- Four workers are started, which the settings do not allow. -/
theorem serve_obeys_iff_four :
    ∃ settings, settingsOf bareWorkplace = .ok settings ∧
      let options := serverOptions settings none none (some 4) false
      run bareWorkplace serveFour = { Outcome.start bareWorkplace with server := some options } ∧
        ¬options.Obeys settings := by
  obtain ⟨settings, hsettings, hsqlite⟩ := settingsOf_bareWorkplace
  obtain ⟨hopening, hcommand⟩ := read_serveFour
  obtain ⟨-, -, obeys, runs⟩ :=
    serve_obeys_iff hsettings settings.logLevel none none (some 4) false
  refine ⟨settings, hsettings, runs hopening rfl hsettings rfl hcommand, fun h => ?_⟩
  obtain ⟨-, hreload | hfour⟩ := obeys.1 h
  · cases hreload
  · obtain hzero | ⟨-, hone⟩ := hfour 4 rfl
    · exact absurd hzero (by decide)
    · exact absurd (hone hsqlite) (by decide)

/-- What is started does not always obey the settings. -/
theorem not_forall_obeys :
    ¬∀ (workplace : Workplace) (arguments : List String) (settings : Settings)
      (options : ServerOptions), settingsOf workplace = .ok settings →
      (run workplace arguments).server = some options → options.Obeys settings := by
  intro h
  obtain ⟨settings, hsettings, hsqlite⟩ := settingsOf_bareWorkplace
  have hserver :
      (run bareWorkplace serveFour).server = some ⟨"0.0.0.0", 8000, 4, false, .info⟩ := by
    decide +kernel
  exact absurd ((h _ _ settings _ hsettings hserver).single hsqlite) (by decide)

end EmailStudio.CommandLine
