import EmailStudio.Proofs.CommandLine.Rendering
import EmailStudio.Proofs.CommandLine.Serving
import EmailStudio.Proofs.Markup.Grammar

/-!
# HTML by way of a file

HTML is made of a template at once, or of a file that its markup was written into. In the one case
the engine gets the markup as it was compiled, in the other as it is read from the file, where every
line end is one line feed. By `Workplace.preview_agrees_iff` both ways lead to the same HTML,
whatever the engine, exactly when no carriage return is in the markup.
-/

namespace EmailStudio

/-! ## Line ends -/

namespace Text

theorem unifyLines_eq_self {cs : List Char} (h : '\r' ∉ cs) : unifyLines cs = cs := by
  fun_induction unifyLines cs with
  | case1 => exact absurd List.mem_cons_self h
  | case2 c rest _ ih =>
    obtain ⟨hc, hrest⟩ := not_or.1 (mt List.mem_cons.2 h)
    rw [if_neg (Ne.symm hc), ih hrest]
  | case3 => rfl

theorem notMem_unifyLines (cs : List Char) : '\r' ∉ unifyLines cs := by
  fun_induction unifyLines cs with
  | case1 rest ih => exact List.not_mem_cons_of_ne_of_not_mem (by decide) ih
  | case2 c rest _ ih =>
    refine List.not_mem_cons_of_ne_of_not_mem ?_ ih
    split_ifs with hc
    · decide
    · exact Ne.symm hc
  | case3 => exact List.not_mem_nil

/-- A text is read as it was written if it has no carriage return, and only then. -/
theorem asRead_eq_self_iff {s : String} : asRead s = s ↔ '\r' ∉ s.toList := by
  constructor
  · intro h
    rw [← h, asRead, String.toList_ofList]
    exact notMem_unifyLines _
  · intro h
    rw [asRead, unifyLines_eq_self h, String.ofList_toList]

end Text

theorem return_mem_joinLines_iff : ∀ {lines : List String},
    '\r' ∈ (joinLines lines).toList ↔ ∃ line ∈ lines, '\r' ∈ line.toList
  | [] => by simp [joinLines]
  | [line] => by simp [joinLines_singleton]
  | line :: next :: lines => by
    rw [joinLines_cons (List.cons_ne_nil _ _), String.toList_append, String.toList_append,
      List.mem_append, List.mem_append, return_mem_joinLines_iff, List.exists_mem_cons_iff]
    simp

namespace Markup

/-- The texts that are set into markup. -/
def texts (markup : Markup) : List String :=
  [markup.title, markup.preview, markup.font, markup.background, markup.width] ++
    markup.sections.map (·.text)

/-- The lines of markup have no carriage return of their own. -/
theorem return_mem_text_iff {markup : Markup} :
    '\r' ∈ markup.text.toList ↔ ∃ s ∈ markup.texts, '\r' ∈ s.toList := by
  rw [text, return_mem_joinLines_iff, texts]
  simp [or_and_right, exists_or]

end Markup

/-! ## Arguments -/

namespace CommandLine

/-- An argument that is not taken for options. -/
def IsOperand (argument : String) : Prop :=
  (argument.startsWith "-" && decide (1 < argument.length)) = false

instance (argument : String) : Decidable (IsOperand argument) :=
  inferInstanceAs (Decidable (_ = _))

namespace Arguments

variable {forms : List OptionForm} {before : Arguments} {argument : String} {rest : List String}

theorem readFrom_operand (h : IsOperand argument) :
    readFrom forms false none before (argument :: rest) =
      readFrom forms false none { before with operands := before.operands ++ [argument] } rest := by
  have hdashes : argument ≠ "--" := by
    rintro rfl
    revert h
    unfold IsOperand
    decide +kernel
  rw [readFrom]
  simp only [hdashes, if_false]
  rw [h, if_neg Bool.false_ne_true, if_neg Bool.false_ne_true]

theorem readFrom_option {options : List (String × Option String)} {waiting : Option String}
    (hdashes : argument ≠ "--")
    (hoption : (argument.startsWith "-" && decide (1 < argument.length)) = true)
    (htake : takeOptions forms argument = some (options, waiting)) :
    readFrom forms false none before (argument :: rest) =
      readFrom forms false waiting { before with options := before.options ++ options } rest := by
  rw [readFrom]
  simp only [hdashes, if_false, hoption, if_true, htake]

/-- The last two arguments name the file that a result is written to. -/
theorem readFrom_output (output : String)
    (htake : takeOptions forms "-o" = some ([], some "output")) :
    readFrom forms false none before ["-o", output] =
      some { before with options := before.options ++ [("output", some output)] } := by
  rw [readFrom_option (by decide) (by decide +kernel) htake, List.append_nil]
  rfl

end Arguments

theorem Opening.read_command (name : CommandName) (arguments : List String) :
    Opening.read (name.text :: arguments) = .proper ⟨none, name, arguments⟩ := by
  have hname : name.text ≠ "--" ∧
      (name.text.startsWith "-" && decide (1 < name.text.length)) = false := by
    cases name <;> decide +kernel
  have hread : Arguments.read Opening.forms true (name.text :: arguments) =
      some ⟨[], name.text :: arguments⟩ := by
    rw [Arguments.read, Arguments.readFrom]
    simp only [hname.1, if_false, hname.2]
    rfl
  have hof : CommandName.ofText? name.text = some name := by
    cases name <;> decide +kernel
  rw [Opening.read, hread]
  simp only [List.find?_nil, Arguments.value?, List.reverse_nil, List.lookup_nil, Option.getD_none,
    Option.map_none, hof, Option.join_none]

namespace Command

variable {directory : Tree} {file output : String}

theorem read_compile (hfile : IsOperand file) (hthere : Directory.isFile directory file = true)
    (hfree : Directory.isDirectory directory output = false) :
    read directory .compile [file, "-o", output] = .proper (.compile file (some output) false) := by
  have htake : Arguments.takeOptions CommandName.compile.forms "-o" = some ([], some "output") := by
    decide +kernel
  rw [read, Arguments.read, Arguments.readFrom_operand hfile, Arguments.readFrom_output _ htake]
  simp [Arguments.isGiven, Arguments.value?, build, hthere, hfree]

theorem read_compile_html (hfile : IsOperand file)
    (hfree : Directory.isDirectory directory output = false) :
    read directory .compile [file, "--html", "-o", output] =
      if Directory.isFile directory file then .proper (.compile file (some output) true)
      else .misuse := by
  have htake : Arguments.takeOptions CommandName.compile.forms "-o" = some ([], some "output") := by
    decide +kernel
  have hhtml : Arguments.takeOptions CommandName.compile.forms "--html" =
      some ([("html", none)], none) := by
    decide +kernel
  rw [read, Arguments.read, Arguments.readFrom_operand hfile,
    Arguments.readFrom_option (by decide) (by decide +kernel) hhtml,
    Arguments.readFrom_output _ htake]
  cases hthere : Directory.isFile directory file <;>
    simp [Arguments.isGiven, Arguments.value?, build, hthere, hfree]

theorem read_preview (hfile : IsOperand file) (hthere : Directory.isFile directory file = true)
    (hfree : Directory.isDirectory directory output = false) :
    read directory .preview [file, "-o", output] = .proper (.preview file (some output)) := by
  have htake : Arguments.takeOptions CommandName.preview.forms "-o" = some ([], some "output") := by
    decide +kernel
  rw [read, Arguments.read, Arguments.readFrom_operand hfile, Arguments.readFrom_output _ htake]
  simp [Arguments.isGiven, Arguments.value?, build, hthere, hfree]

end Command

/-- The program runs the command that its arguments begin with. -/
theorem run_command {workplace : Workplace} {settings : Settings}
    (accepted : settingsOf workplace = .ok settings) (name : CommandName)
    (arguments : List String) :
    run workplace (name.text :: arguments) =
      match Command.read workplace.directory name arguments with
      | .misuse => (Outcome.start workplace).fail 2
      | .help | .version => .start workplace
      | .proper command => command.run workplace settings (.start workplace) := by
  rw [run, Opening.read_command]
  simp only [accepted]
  rfl

/-! ## What a run leaves -/

/-- The HTML that an engine makes of markup, if any comes of it. -/
def html? (engine : Engine) (level : Level) (markup : String) : Option String :=
  match engine.render level markup with
  | .ok rendering => if rendering.html.isEmpty then none else some rendering.html
  | .error _ => none

namespace Outcome

/-- A run has succeeded and left a text in a file, or it has failed. -/
def Leaves (outcome : Outcome) (path : String) : Option String → Prop
  | some content => outcome.exit = 0 ∧ Directory.readText? outcome.directory path = some content
  | none => outcome.exit ≠ 0

theorem exit_warnAll (outcome : Outcome) (lines : List String) :
    (outcome.warnAll lines).exit = outcome.exit := by
  rw [warnAll]
  induction lines generalizing outcome with
  | nil => rfl
  | cons line lines ih => exact ih (outcome.warn line)

theorem directory_warnAll (outcome : Outcome) (lines : List String) :
    (outcome.warnAll lines).directory = outcome.directory := by
  rw [warnAll]
  induction lines generalizing outcome with
  | nil => rfl
  | cons line lines ih => exact ih (outcome.warn line)

end Outcome

section Deliveries

variable {outcome : Outcome} {file path markup : String} {settings : Settings} {engine : Engine}

/-- A result is written where its path leads to. -/
theorem exists_deliver (outcome : Outcome) (takes : Directory.Takes outcome.directory path)
    (content : String) :
    ∃ later, deliver outcome content (some path) =
        { outcome with directory := later }.warn ("Wrote " ++ path) ∧
      Tree.write content.toUTF8.toList (Path.absolute [] path) (some outcome.directory) =
        .ok later ∧
      Directory.isFile later path = true ∧ Directory.readText? later path = some content := by
  obtain ⟨later, hwritten, hwrite, hfile⟩ := takes.exists_writeText content
  refine ⟨later, ?_, hwrite, hfile⟩
  have hgiven : (some path).filter (fun path => !path.isEmpty) = some path := by
    rw [Option.filter_some, takes.isEmpty_eq]
    rfl
  rw [deliver, hgiven]
  simp only [hwritten]

theorem leaves_deliver (takes : Directory.Takes outcome.directory path) (h : outcome.exit = 0)
    (content : String) : (deliver outcome content (some path)).Leaves path (some content) := by
  obtain ⟨later, hdeliver, -, -, hread⟩ := exists_deliver outcome takes content
  rw [hdeliver]
  exact ⟨h, hread⟩

theorem leaves_deliverHtml (takes : Directory.Takes outcome.directory path) (h : outcome.exit = 0)
    (rendering : Rendering) : (deliverHtml outcome rendering (some path)).Leaves path
      (if rendering.html.isEmpty then none else some rendering.html) := by
  rw [deliverHtml]
  split_ifs
  · exact Nat.one_ne_zero
  · refine leaves_deliver ?_ ?_ _
    · rwa [Outcome.directory_warnAll]
    · rwa [Outcome.exit_warnAll]

theorem leaves_runPreview (outcome : Outcome) (takes : Directory.Takes outcome.directory path)
    (h : outcome.exit = 0) (hread : Directory.readText? outcome.directory file = some markup) :
    (runPreview outcome settings engine file (some path)).Leaves path
      (html? engine settings.validationLevel (Text.asRead markup)) := by
  rw [html?, runPreview, hread, Option.getD_some]
  cases engine.render settings.validationLevel (Text.asRead markup) with
  | error => exact Nat.one_ne_zero
  | ok rendering => exact leaves_deliverHtml takes h rendering

/-- The document in a file escapes whole characters only. Half of a pair cannot be written into a
file. -/
def EscapesWhole (directory : Tree) (file : String) : Prop :=
  Token.escapesWhole (Text.asRead ((Directory.readText? directory file).getD "")).toList = true

/-- What a template in a file compiles to, if all that it holds are characters. -/
structure Compiles (directory : Tree) (file markup : String) : Prop where
  escapes : EscapesWhole directory file
  compiles : ∃ candidate template, loadTemplate directory file = .ok candidate ∧
    Publisher.compile candidate = .ok (template, markup)

/-- Only a file that is there holds a template. -/
theorem Compiles.isFile {directory : Tree} (h : Compiles directory file markup) :
    Directory.isFile directory file = true := by
  obtain ⟨candidate, _, hload, -⟩ := h.compiles
  rw [Directory.isFile]
  cases hfind : Directory.find? directory file with
  | some tree =>
    cases tree with
    | file => rfl
    | directory =>
      rw [loadTemplate, Directory.readText?, hfind] at hload
      cases hload
  | none =>
    rw [loadTemplate, Directory.readText?, hfind] at hload
    cases hload

theorem leaves_runCompile_html (outcome : Outcome)
    (takes : Directory.Takes outcome.directory path) (h : outcome.exit = 0)
    (compiles : Compiles outcome.directory file markup) :
    (runCompile outcome settings engine file (some path) true).Leaves path
      (html? engine settings.validationLevel markup) := by
  obtain ⟨candidate, template, hload, hcompile⟩ := compiles.compiles
  rw [runCompile, hload]
  simp only [Publisher.publish_of_compile _ hcompile, Publisher.rendering, if_true]
  rw [html?]
  cases engine.render settings.validationLevel markup with
  | error => exact Nat.one_ne_zero
  | ok rendering => exact leaves_deliverHtml takes h rendering

theorem runCompile_of_compiles {output : Option String}
    (compiles : Compiles outcome.directory file markup) :
    runCompile outcome settings engine file output false = deliver outcome markup output := by
  obtain ⟨candidate, template, hload, hcompile⟩ := compiles.compiles
  rw [runCompile, hload]
  simp only [Publisher.publish_of_compile _ hcompile, Publisher.rendering]
  rfl

theorem exists_compiles_of_exit {output : Option String}
    (h : (runCompile outcome settings engine file output true).exit = 0)
    (escapes : EscapesWhole outcome.directory file) :
    ∃ markup, Compiles outcome.directory file markup := by
  rw [runCompile] at h
  cases hload : loadTemplate outcome.directory file with
  | error fault =>
    rw [hload] at h
    cases fault <;> cases h
  | ok candidate =>
    rw [hload] at h
    cases hcompile : Publisher.compile candidate with
    | error fault =>
      have hpublish : Publisher.publish ⟨engine, settings.validationLevel, true⟩ candidate =
          .error fault := by
        rw [Publisher.publish, hcompile]
        rfl
      simp only [hpublish] at h
      cases fault <;> cases h
    | ok compiled => exact ⟨compiled.2, escapes, candidate, compiled.1, hload, hcompile⟩

end Deliveries

/-! ## Both ways -/

theorem isPlain_variableFile : Path.IsPlain variableFile := by
  decide

namespace Workplace

/-- The run that writes the HTML of a template. -/
def rendered (workplace : Workplace) (file output : String) : Outcome :=
  run workplace ["compile", file, "--html", "-o", output]

/-- The run that writes the markup of a template. -/
def compiled (workplace : Workplace) (file output : String) : Outcome :=
  run workplace ["compile", file, "-o", output]

/-- The run that writes the HTML of the markup that the run before has written. -/
def previewed (workplace : Workplace) (file between output : String) : Outcome :=
  run { workplace with directory := (workplace.compiled file between).directory }
    ["preview", between, "-o", output]

/-- If the HTML of a template can be written at once, it can be written by way of a file with the
markup, and it is the same. -/
def Agrees (workplace : Workplace) (file between first second : String) : Prop :=
  (workplace.rendered file first).exit = 0 →
    (workplace.compiled file between).exit = 0 ∧
      (workplace.previewed file between second).exit = 0 ∧
      ∃ html, Directory.readText? (workplace.rendered file first).directory first = some html ∧
        Directory.readText? (workplace.previewed file between second).directory second = some html

variable {workplace : Workplace} {settings : Settings} {file between first second markup : String}

section Runs

variable (accepted : settingsOf workplace = .ok settings) (operand : IsOperand file)

include accepted operand

theorem rendered_eq (takes : Directory.Takes workplace.directory first) :
    workplace.rendered file first =
      if Directory.isFile workplace.directory file then
        runCompile (.start workplace) settings workplace.engine file (some first) true
      else (Outcome.start workplace).fail 2 := by
  have hrun := run_command accepted .compile [file, "--html", "-o", first]
  rw [Command.read_compile_html operand takes.isDirectory_eq] at hrun
  refine hrun.trans ?_
  split_ifs <;> rfl

theorem leaves_rendered (takes : Directory.Takes workplace.directory first)
    (compiles : Compiles workplace.directory file markup) :
    (workplace.rendered file first).Leaves first
      (html? workplace.engine settings.validationLevel markup) := by
  rw [rendered_eq accepted operand takes, if_pos compiles.isFile]
  exact leaves_runCompile_html (.start workplace) takes rfl compiles

theorem compiled_eq (takes : Directory.Takes workplace.directory between)
    (compiles : Compiles workplace.directory file markup) :
    workplace.compiled file between = deliver (.start workplace) markup (some between) := by
  have hrun := run_command accepted .compile [file, "-o", between]
  rw [Command.read_compile operand compiles.isFile takes.isDirectory_eq] at hrun
  exact hrun.trans (runCompile_of_compiles compiles)

/-- The markup is left as it was compiled, and the HTML is made of it as it is read. -/
theorem leaves_previewed (operandBetween : IsOperand between)
    (keeps : Path.absolute [] between ≠ [variableFile])
    (takesBetween : Directory.Takes workplace.directory between)
    (takes : Directory.Takes workplace.directory second)
    (compiles : Compiles workplace.directory file markup) :
    (workplace.compiled file between).Leaves between (some markup) ∧
      (workplace.previewed file between second).Leaves second
        (html? workplace.engine settings.validationLevel (Text.asRead markup)) := by
  obtain ⟨later, hdeliver, hwrite, hfile, hread⟩ :=
    exists_deliver (.start workplace) takesBetween markup
  have hcompiled := (compiled_eq accepted operand takesBetween compiles).trans hdeliver
  have hlater : (workplace.compiled file between).directory = later := by
    rw [hcompiled]
    rfl
  refine ⟨?_, ?_⟩
  · rw [hcompiled]
    exact ⟨rfl, hread⟩
  · have haccepted : settingsOf { workplace with directory := later } = .ok settings := by
      rw [settingsOf, Directory.readText?_write isPlain_variableFile keeps hwrite]
      exact accepted
    have hsecond := takes.of_write takesBetween hwrite
    have hrun := run_command haccepted .preview [between, "-o", second]
    rw [Command.read_preview operandBetween hfile hsecond.isDirectory_eq] at hrun
    rw [previewed, hlater]
    exact hrun ▸ leaves_runPreview (.start { workplace with directory := later }) hsecond rfl hread

/-- With one engine both ways agree if what it makes of the markup it also makes of the markup as it
is read. -/
theorem agrees_iff_html (escapes : EscapesWhole workplace.directory file)
    (operandBetween : IsOperand between)
    (keeps : Path.absolute [] between ≠ [variableFile])
    (takesBetween : Directory.Takes workplace.directory between)
    (takesFirst : Directory.Takes workplace.directory first)
    (takesSecond : Directory.Takes workplace.directory second) :
    workplace.Agrees file between first second ↔
      ∀ markup, Compiles workplace.directory file markup → ∀ html,
        html? workplace.engine settings.validationLevel markup = some html →
        html? workplace.engine settings.validationLevel (Text.asRead markup) = some html := by
  constructor
  · intro hagrees markup compiles html hhtml
    have hrendered := leaves_rendered accepted operand takesFirst compiles
    obtain ⟨-, hpreviewed⟩ := leaves_previewed accepted operand operandBetween keeps takesBetween
      takesSecond compiles
    rw [hhtml] at hrendered
    obtain ⟨-, hexit, left, hfirst, hsecond⟩ := hagrees hrendered.1
    cases hother : html? workplace.engine settings.validationLevel (Text.asRead markup) with
    | none =>
      rw [hother] at hpreviewed
      exact absurd hexit hpreviewed
    | some other =>
      rw [hother] at hpreviewed
      obtain rfl : html = left := Option.some.inj (hrendered.2.symm.trans hfirst)
      exact hpreviewed.2.symm.trans hsecond
  · intro hhtml hexit
    obtain ⟨markup, compiles⟩ : ∃ markup, Compiles workplace.directory file markup := by
      rw [rendered_eq accepted operand takesFirst] at hexit
      by_cases hthere : Directory.isFile workplace.directory file = true
      · rw [if_pos hthere] at hexit
        have hcompiles := exists_compiles_of_exit hexit escapes
        exact hcompiles
      · rw [if_neg hthere] at hexit
        exact absurd hexit (Nat.succ_ne_zero 1)
    have hrendered := leaves_rendered accepted operand takesFirst compiles
    obtain ⟨hcompiled, hpreviewed⟩ := leaves_previewed accepted operand operandBetween keeps
      takesBetween takesSecond compiles
    cases hmade : html? workplace.engine settings.validationLevel markup with
    | none =>
      rw [hmade] at hrendered
      exact absurd hexit hrendered
    | some html =>
      rw [hmade] at hrendered
      rw [hhtml markup compiles html hmade] at hpreviewed
      exact ⟨hcompiled.1, hpreviewed.1, html, hrendered.2, hpreviewed.2⟩

end Runs

/-- An engine that makes HTML of one markup only. -/
def engineFor (markup : String) : Engine :=
  fun other => if other = markup then .rendered (some "<html></html>") .null else .failed ""

theorem html?_engineFor (level : Level) (markup other : String) :
    html? (engineFor markup) level other = if other = markup then some "<html></html>" else none := by
  rw [html?, Engine.render, engineFor]
  split_ifs
  · cases level <;> rfl
  · rfl

/-! ### Letters -/

/-- A letter without blocks. -/
def letter (subject : String) : Value :=
  .object [
    ("version", .text formatVersion),
    ("metadata", .object [("subject", .text subject), ("preheader", .text "")]),
    ("settings", .object [("backgroundColor", .text "#ffffff"), ("contentWidth", .int 600),
      ("fontFamily", .text Catalog.defaultFont)]),
    ("content", .list [])]

/-- An engine that gives back the markup that it gets. -/
def echoEngine : Engine :=
  fun markup => .rendered (some markup) .null

theorem html?_echoEngine (level : Level) (markup : String) :
    html? echoEngine level markup = if markup.isEmpty then none else some markup := by
  rw [html?, Engine.render, echoEngine]
  cases level <;> rfl

/-- A place with a template in a file. -/
def holding (template : Value) : Workplace :=
  ⟨.directory [("letter.json", .file template.write.toUTF8.data.toList)], [], "", echoEngine⟩

theorem readText?_holding (v : Value) :
    Directory.readText? (holding v).directory "letter.json" = some v.write := by
  apply Directory.readText?_of_find
  rw [Directory.find?_of_plain (by decide)]
  rfl

theorem loadTemplate_holding {v : Value}
    (h : (Value.read (Text.unifyLines v.write.toList)).toOption = some v) :
    loadTemplate (holding v).directory "letter.json" = .ok v := by
  rw [loadTemplate, readText?_holding, Option.getD_some, Text.asRead, String.toList_ofList]
  cases hread : Value.read (Text.unifyLines v.write.toList) with
  | ok read =>
    rw [hread] at h
    rw [Option.some.inj h]
  | error fault =>
    rw [hread] at h
    cases h

theorem escapesWhole_holding {v : Value}
    (h : Token.escapesWhole (Text.unifyLines v.write.toList) = true) :
    EscapesWhole (holding v).directory "letter.json" := by
  rw [EscapesWhole, readText?_holding, Option.getD_some, Text.asRead, String.toList_ofList]
  exact h

theorem exists_settingsOf_holding (v : Value) :
    ∃ settings, settingsOf (holding v) = .ok settings := by
  have hbare : settingsOf (holding v) = settingsOf bareWorkplace := by
    rw [settingsOf, settingsOf, Directory.readText?_of_plain isPlain_variableFile,
      Directory.readText?_of_plain isPlain_variableFile]
    rfl
  obtain ⟨settings, hsettings, -⟩ := settingsOf_bareWorkplace
  exact ⟨settings, hbare.trans hsettings⟩

theorem takes_holding (v : Value) (name : String) (plain : Path.IsPlain name) :
    Directory.Takes (holding v).directory name := by
  refine .of_plain plain fun inner hinner => ?_
  rw [Tree.child?_cons] at hinner
  split_ifs at hinner
  · cases hinner
  · cases hinner

/-- Whether some text has a carriage return that the markup of a template is made of. -/
def hasReturn? (template : Value) : Option Bool :=
  ((Template.ofValue template).bind Template.markup).toOption.map fun markup =>
    markup.texts.any fun s => s.toList.contains '\r'

theorem return_mem_iff_of_compiles {v : Value} {directory : Tree} {has : Bool}
    (hload : loadTemplate directory file = .ok v) (h : hasReturn? v = some has)
    (compiles : Compiles directory file markup) : '\r' ∈ markup.toList ↔ has = true := by
  obtain ⟨_, _, hloaded, hcompile⟩ := compiles.compiles
  cases hload.symm.trans hloaded
  obtain ⟨-, t, hof, -, htext⟩ := Publisher.compile_eq_ok_iff.1 hcompile
  obtain ⟨built, hbuilt, htext⟩ := Outcome.bind_eq_ok_iff.1 htext
  cases htext
  have hmarkup : (Template.ofValue v).bind Template.markup = .ok built := by
    rw [hof]
    exact hbuilt
  rw [hasReturn?, hmarkup] at h
  rw [Markup.return_mem_text_iff, ← Option.some.inj h]
  simp

theorem exists_compiles {v : Value} {directory : Tree} (escapes : EscapesWhole directory file)
    (hload : loadTemplate directory file = .ok v) (valid : Template.isValid v = true)
    (h : (hasReturn? v).isSome = true) : ∃ markup, Compiles directory file markup := by
  rw [hasReturn?, Option.isSome_map] at h
  cases hof : Template.ofValue v with
  | error fault =>
    rw [hof] at h
    cases h
  | ok t =>
    cases hbuilt : t.markup with
    | error fault =>
      rw [hof, Except.bind, hbuilt] at h
      cases h
    | ok built =>
      have hcompile : t.compile = .ok built.text := by
        rw [Template.compile, hbuilt]
        rfl
      exact ⟨built.text, escapes, v, t.toValue, hload,
        Publisher.compile_eq_ok_iff.2 ⟨valid, t, hof, rfl, hcompile⟩⟩

/-! ### When they agree -/

/-- Whatever the engine: of a template that compiles, one run leaves the HTML that the engine makes
of the markup, another leaves the markup as it is, and a run on the file of that one leaves the HTML
that the engine makes of the markup with unified line ends; where there is no HTML, the run fails.
So the HTML of a file that escapes whole characters is the same for every engine exactly if the
markup has no carriage return. -/
theorem preview_agrees_iff (file between first second : String)
    (accepted : settingsOf workplace = .ok settings)
    (escapes : EscapesWhole workplace.directory file)
    (operand : IsOperand file) (operandBetween : IsOperand between)
    (keeps : Path.absolute [] between ≠ [variableFile])
    (takesBetween : Directory.Takes workplace.directory between)
    (takesFirst : Directory.Takes workplace.directory first)
    (takesSecond : Directory.Takes workplace.directory second) :
    (∀ engine markup, Compiles workplace.directory file markup →
      let workplace := { workplace with engine := engine }
      (workplace.rendered file first).Leaves first (html? engine settings.validationLevel markup) ∧
        (workplace.compiled file between).Leaves between (some markup) ∧
        (workplace.previewed file between second).Leaves second
          (html? engine settings.validationLevel (Text.asRead markup))) ∧
    ((∀ engine, { workplace with engine := engine }.Agrees file between first second) ↔
      ∀ markup, Compiles workplace.directory file markup → '\r' ∉ markup.toList) := by
  have haccepted (engine : Engine) :
      settingsOf { workplace with engine := engine } = .ok settings := accepted
  refine ⟨fun engine markup compiles => ?_, ?_⟩
  · exact ⟨leaves_rendered (haccepted engine) operand takesFirst compiles,
      leaves_previewed (haccepted engine) operand operandBetween keeps takesBetween takesSecond
        compiles⟩
  · have hagrees (engine : Engine) := agrees_iff_html (haccepted engine) operand escapes
      operandBetween keeps takesBetween takesFirst takesSecond
    simp only [hagrees]
    constructor
    · intro h markup compiles
      have hengine := h (engineFor markup) markup compiles "<html></html>"
      rw [html?_engineFor, html?_engineFor, if_pos rfl] at hengine
      by_contra hreturn
      have hother : Text.asRead markup ≠ markup := fun heq =>
        Text.asRead_eq_self_iff.1 heq hreturn
      rw [if_neg hother] at hengine
      cases hengine rfl
    · intro h engine markup compiles html hhtml
      rwa [Text.asRead_eq_self_iff.2 (h markup compiles)]

/-- The subject of a letter has no line end. -/
theorem preview_agrees_iff_letter :
    (∃ markup, Compiles (holding (letter "Dear reader")).directory "letter.json" markup) ∧
      ∀ engine, { holding (letter "Dear reader") with engine := engine }.Agrees "letter.json"
        "letter.mjml" "first.html" "second.html" := by
  obtain ⟨settings, accepted⟩ := exists_settingsOf_holding (letter "Dear reader")
  have hload : loadTemplate (holding (letter "Dear reader")).directory "letter.json" =
      .ok (letter "Dear reader") := by
    apply loadTemplate_holding
    rw [Value.toList_write]
    decide +kernel
  have escapes : EscapesWhole (holding (letter "Dear reader")).directory "letter.json" := by
    apply escapesWhole_holding
    rw [Value.toList_write]
    decide +kernel
  have hreturn : hasReturn? (letter "Dear reader") = some false := by
    decide +kernel
  have hways := preview_agrees_iff "letter.json" "letter.mjml" "first.html" "second.html" accepted
    escapes (by decide +kernel) (by decide +kernel) (by decide +kernel)
    (takes_holding _ _ (by decide)) (takes_holding _ _ (by decide)) (takes_holding _ _ (by decide))
  refine ⟨exists_compiles escapes hload (by decide +kernel) (by rw [hreturn]; rfl),
    hways.2.2 fun markup compiles hmem => ?_⟩
  exact Bool.false_ne_true ((return_mem_iff_of_compiles hload hreturn compiles).1 hmem)

/-- A carriage return in the subject of a letter does not come back from a file. -/
theorem not_forall_previews :
    ¬∀ (workplace : Workplace) (settings : Settings) (file between first second : String),
      settingsOf workplace = .ok settings → EscapesWhole workplace.directory file →
      IsOperand file → IsOperand between →
      Path.absolute [] between ≠ [variableFile] →
      Directory.Takes workplace.directory between → Directory.Takes workplace.directory first →
      Directory.Takes workplace.directory second →
      workplace.Agrees file between first second := by
  intro h
  obtain ⟨settings, accepted⟩ := exists_settingsOf_holding (letter "Dear\rreader")
  have hload : loadTemplate (holding (letter "Dear\rreader")).directory "letter.json" =
      .ok (letter "Dear\rreader") := by
    apply loadTemplate_holding
    rw [Value.toList_write]
    decide +kernel
  have escapes : EscapesWhole (holding (letter "Dear\rreader")).directory "letter.json" := by
    apply escapesWhole_holding
    rw [Value.toList_write]
    decide +kernel
  have hreturn : hasReturn? (letter "Dear\rreader") = some true := by
    decide +kernel
  obtain ⟨markup, compiles⟩ :=
    exists_compiles escapes hload (by decide +kernel) (by rw [hreturn]; rfl)
  have hmem : '\r' ∈ markup.toList := (return_mem_iff_of_compiles hload hreturn compiles).2 rfl
  have operand : IsOperand "letter.json" ∧ IsOperand "letter.mjml" := by
    decide +kernel
  have keeps : Path.absolute [] "letter.mjml" ≠ [variableFile] := by
    decide +kernel
  have takesBetween := takes_holding (letter "Dear\rreader") "letter.mjml" (by decide)
  have takesFirst := takes_holding (letter "Dear\rreader") "first.html" (by decide)
  have takesSecond := takes_holding (letter "Dear\rreader") "second.html" (by decide)
  have hagrees := h _ settings "letter.json" "letter.mjml" "first.html" "second.html" accepted
    escapes operand.1 operand.2 keeps takesBetween takesFirst takesSecond
  have hread := (agrees_iff_html accepted operand.1 escapes operand.2 keeps takesBetween takesFirst
    takesSecond).1 hagrees markup compiles markup
  have hnonempty : ¬markup.isEmpty = true := by
    rw [String.isEmpty_iff]
    rintro rfl
    cases hmem
  rw [show (holding (letter "Dear\rreader")).engine = echoEngine from rfl, html?_echoEngine,
    html?_echoEngine, if_neg hnonempty] at hread
  have hsame := hread rfl
  split_ifs at hsame
  exact Text.asRead_eq_self_iff.1 (Option.some.inj hsame) hmem

end Workplace

end CommandLine

end EmailStudio
