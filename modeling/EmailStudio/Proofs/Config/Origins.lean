import EmailStudio.Proofs.Config.Variables
import EmailStudio.Proofs.Value.Substance
import Mathlib.Algebra.Order.BigOperators.Group.List
import Mathlib.Algebra.Order.Ring.Nat
import Mathlib.Data.List.TakeWhile

/-!
# Where origins come from

The origins of settings are given as a value, a text with commas in it, or in a variable, which is
read as a document before anything else. By `load_origins` there is no text that gives the same
origins in both places: what is read of a document has less substance than its text, but the origins
between commas have all of it.
-/

namespace EmailStudio

/-! ## Origins in a text -/

namespace Text

theorem substance_eq_nil_of_isBlank {cs : List Char} (h : ∀ c ∈ cs, isBlank c = true) :
    substance cs = [] := by
  refine List.filter_eq_nil_iff.2 fun c hc hkept => ?_
  rw [isSubstance, h c hc, Bool.not_true, Bool.and_false] at hkept
  cases hkept

theorem substance_dropWhile_isBlank (cs : List Char) :
    substance (cs.dropWhile isBlank) = substance cs := by
  have hblanks : substance (cs.takeWhile isBlank) = [] :=
    substance_eq_nil_of_isBlank fun c hc => List.mem_takeWhile_imp hc
  calc substance (cs.dropWhile isBlank)
      = substance (cs.takeWhile isBlank) ++ substance (cs.dropWhile isBlank) := by
        rw [hblanks, List.nil_append]
    _ = substance cs := by rw [← substance_append, List.takeWhile_append_dropWhile]

theorem substance_strip (s : String) : substance (strip s).toList = substance s.toList := by
  rw [strip, String.toList_ofList, stripBoth, stripRight, stripLeft, substance_reverse,
    substance_dropWhile_isBlank, substance_reverse, List.reverse_reverse,
    substance_dropWhile_isBlank]

theorem substance_joinAll (parts : List (List Char)) :
    substance (joinAll ',' parts) = parts.flatMap substance := by
  have hcomma : isSubstance ',' = false := rfl
  induction parts using joinAll.induct with
  | case1 => rfl
  | case2 part => rw [joinAll, List.flatMap_singleton]
  | case3 part parts hne ih =>
    rw [joinAll, substance_append, substance_cons_of_not hcomma, ih, List.flatMap_cons]
    exact hne

end Text

namespace Settings

/-- The origins in a text have all of its substance between them. -/
theorem substance_originsIn (s : String) :
    ((originsIn s).flatMap fun origin => Text.substance origin.toList) =
      Text.substance s.toList := by
  have hempty (origins : List String) :
      ((origins.filter (· ≠ "")).flatMap fun origin => Text.substance origin.toList) =
        origins.flatMap fun origin => Text.substance origin.toList := by
    induction origins with
    | nil => rfl
    | cons origin rest ih =>
      by_cases h : origin = ""
      · rw [List.filter_cons_of_neg (by simp [h]), ih, h]
        rfl
      · rw [List.filter_cons_of_pos (by simp [h]), List.flatMap_cons, List.flatMap_cons, ih]
  rw [originsIn, hempty, List.flatMap_map]
  simp only [Text.substance_strip, String.toList_ofList]
  rw [← Text.substance_joinAll, Text.joinAll_splitAll]

/-- How much substance some origins have. -/
def sizeOfOrigins (origins : List String) : Nat :=
  (origins.map fun origin => Text.size origin.toList).sum

theorem sizeOfOrigins_originsIn (s : String) :
    sizeOfOrigins (originsIn s) = Text.size s.toList := by
  rw [Text.size, ← substance_originsIn, List.length_flatMap]
  rfl

theorem eachItem_text_eq_ok_iff {items : List Value} {texts : List String} {index : Nat} :
    (Intake.eachItem Intake.text index items).result = .ok texts ↔ items = texts.map .text := by
  induction items generalizing index texts with
  | nil => cases texts <;> simp [Intake.eachItem, Reading.good]
  | cons v rest ih =>
    simp only [Intake.eachItem, Reading.seq_eq_ok_iff, Reading.map_eq_ok_iff,
      Reading.within_eq_ok_iff, Intake.text_eq_ok_iff, ih]
    cases texts with
    | nil => simp
    | cons text texts => simp [eq_comm]

/-- The origins that a value is read as have less substance than the value. -/
theorem size_of_origins {v : Value} {texts : List String} (h : (origins v).result = .ok texts) :
    sizeOfOrigins texts + 1 ≤ v.size := by
  cases v with
  | text s =>
    cases h
    rw [sizeOfOrigins_originsIn, Value.size_text]
  | list items =>
    obtain rfl := eachItem_text_eq_ok_iff.1 h
    refine Nat.succ_le_succ ?_
    rw [List.map_map]
    exact List.sum_le_sum fun origin _ => Nat.le_succ _
  | _ => cases h

/-! ## Origins among the fields -/

/-- The origins where none are given. -/
def defaultOrigins : List String := ["http://localhost:3000", "http://localhost:5173"]

/-- The origins among the fields of settings. -/
def originsOf (fields : Fields) : Reading (List String) :=
  Intake.optional "cors_origins" defaultOrigins origins fields

theorem originsOf_of_none {fields : Fields} (h : fields.get? "cors_origins" = none) :
    (originsOf fields).result = .ok defaultOrigins := by
  rw [originsOf, Intake.optional, h]
  rfl

theorem originsOf_of_some {fields : Fields} {v : Value} (h : fields.get? "cors_origins" = some v) :
    originsOf fields = (origins v).within (.name "cors_origins") := by
  rw [originsOf, Intake.optional, h]

section Agreeing

variable {fields others : Fields} (agree : Fields.AgreeBut "cors_origins" fields others)
include agree

/-- If all other fields are the same, only the origins change. -/
theorem ofFields_of_agreeBut (settings : Settings) (h : (ofFields fields).result = .ok settings) :
    (ofFields others).result =
      (originsOf others).result.map fun texts => { settings with corsOrigins := texts } := by
  have hkept {α : Type} {key : String} {default a : α} {read : Value → Reading α}
      (hkey : key ≠ "cors_origins")
      (hread : (Intake.optional key default read fields).result = .ok a) :
      (Intake.optional key default read others).result = .ok a := by
    rw [Intake.optional_congr (agree key hkey), hread]
  revert settings
  unfold ofFields
  iterate 31 refine Reading.seq_induction ?_
  refine Reading.map_induction ?_
  intros
  -- Sixteen fields come after the origins and fifteen before them.
  iterate 16 refine Reading.result_seq_of_right ?_ (hkept (by decide) ‹_›)
  refine Reading.result_seq_of_left ?_
  iterate 14 refine Reading.result_seq_of_ok ?_ (hkept (by decide) ‹_›)
  exact Reading.result_map_of_ok (hkept (by decide) ‹_›)

theorem read_of_agreeBut {settings : Settings} (h : (read fields).result = .ok settings) :
    (read others).result =
      (originsOf others).result.map fun texts => { settings with corsOrigins := texts } := by
  obtain ⟨hread, hrule⟩ := read_eq_ok_iff.1 h
  have hothers := ofFields_of_agreeBut agree settings hread
  cases hresult : (originsOf others).result with
  | error issues =>
    rw [hresult] at hothers
    rw [read, Reading.andThen, hothers]
    rfl
  | ok texts =>
    rw [hresult] at hothers
    exact read_eq_ok_iff.2 ⟨hothers, hrule⟩

end Agreeing

/-! ## Origins from both sources -/

/-- No source gives origins. -/
structure GivesNoOrigins (values : Fields) (environment file : List (String × String)) :
    Prop where
  values : values.get? "cors_origins" = none
  environment : lastVariable? "cors_origins" environment = none
  file : lastVariable? "cors_origins" file = none

section Merging

variable {values fromEnvironment fromFile : Fields}

theorem merged_set (hvalues : values.get? "cors_origins" = none) (v : Value) :
    merged (values.set "cors_origins" v) fromEnvironment fromFile =
      (merged values fromEnvironment fromFile).set "cors_origins" v :=
  Fields.update_set (Fields.get?_eq_none_iff.1 hvalues) v _

theorem get?_merged (hvalues : values.get? "cors_origins" = none)
    (nodup : (fromEnvironment.map (·.1)).Nodup) (hfile : fromFile.get? "cors_origins" = none) :
    (merged values fromEnvironment fromFile).get? "cors_origins" =
      fromEnvironment.get? "cors_origins" := by
  rw [merged, Fields.get?_update_of_notMem (Fields.get?_eq_none_iff.1 hvalues),
    Fields.get?_update nodup, hfile, Option.or_none]

end Merging

/-- What the text of a variable gives if everything else can be read. -/
def originsOfVariable (s : String) : Except SettingsFault (List String) :=
  match Value.read s.toList with
  | .error _ => .error (.unreadableVariable "cors_origins")
  | .ok .null => .ok defaultOrigins
  | .ok v => ((origins v).within (.name "cors_origins")).result.mapError .issues

/-- The origins between the commas of a text are never those that the text gives as a variable. -/
theorem originsOfVariable_ne (s : String) : originsOfVariable s ≠ .ok (originsIn s) := by
  intro h
  unfold originsOfVariable at h
  split at h
  · cases h
  · rename_i hread
    have hdefault : defaultOrigins = originsIn s := Except.ok.inj h
    obtain ⟨more, hsubstance⟩ : ∃ more, Text.substance s.toList = 'h' :: more := by
      rw [← substance_originsIn, ← hdefault]
      exact ⟨_, rfl⟩
    obtain ⟨fault, hfault⟩ := Value.exists_read_eq_error hsubstance (by decide) (by decide)
    cases hfault.symm.trans hread
  · rename_i v _ hread
    have horigins : (origins v).result = .ok (originsIn s) :=
      Reading.within_eq_ok_iff.1 (Outcome.mapError_eq_ok_iff.1 h)
    have hsize := size_of_origins horigins
    have hread := Value.size_le_of_read hread
    rw [sizeOfOrigins_originsIn] at hsize
    omega

section Loading

variable {values : Fields} {environment file : List (String × String)} {settings : Settings}

theorem load_set (silent : GivesNoOrigins values environment file)
    (h : load values environment file = .ok settings) (s : String) :
    load (values.set "cors_origins" (.text s)) environment file =
      .ok { settings with corsOrigins := originsIn s } := by
  obtain ⟨fromEnvironment, henvironment, fromFile, hfile, hread⟩ := load_eq_ok_iff.1 h
  rw [load_eq henvironment hfile, merged_set silent.values,
    read_of_agreeBut (Fields.AgreeBut.set _ _ _) hread,
    originsOf_of_some (by rw [Fields.get?_set, if_pos rfl])]
  rfl

/-- The fields of variables that give no origins hold none. -/
theorem get?_of_silent {bindings : List (String × String)} {fields : Fields}
    (h : fieldsOfVariables bindings = .ok fields)
    (silent : lastVariable? "cors_origins" bindings = none) :
    fields.get? "cors_origins" = none := by
  have hgiven := (holds_of_fieldsOfVariables h).get? "cors_origins" (by decide)
  rw [givenBy_of_none silent] at hgiven
  exact (Except.ok.inj hgiven).symm

theorem exists_load_of_load_set (silent : GivesNoOrigins values environment file) {v : Value}
    (h : load (values.set "cors_origins" v) environment file = .ok settings) :
    ∃ settings, load values environment file = .ok settings := by
  obtain ⟨fromEnvironment, henvironment, fromFile, hfile, hread⟩ := load_eq_ok_iff.1 h
  have hnodup := (holds_of_fieldsOfVariables henvironment).nodup nodup_keys
  have hnone := get?_merged silent.values hnodup (get?_of_silent hfile silent.file)
  rw [get?_of_silent henvironment silent.environment] at hnone
  rw [merged_set silent.values] at hread
  rw [load_eq henvironment hfile, read_of_agreeBut (Fields.AgreeBut.set _ _ _).symm hread,
    originsOf_of_none hnone]
  exact ⟨_, rfl⟩

/-- Variables that give the same but for the origins, which they give or leave out. -/
theorem load_of_same {others : List (String × String)} (hvalues : values.get? "cors_origins" = none)
    (hsilent : lastVariable? "cors_origins" file = none)
    (h : load values environment file = .ok settings)
    (hsame : ∀ key, key ≠ "cors_origins" → givenBy others key = givenBy environment key)
    {v? : Option Value} (hgiven : givenBy others "cors_origins" = .ok v?) :
    load values others file =
      ((v?.elim (.good defaultOrigins) fun v =>
        (origins v).within (.name "cors_origins")).result.mapError .issues).map
          fun texts => { settings with corsOrigins := texts } := by
  obtain ⟨fromEnvironment, henvironment, fromFile, hfile, hread⟩ := load_eq_ok_iff.1 h
  obtain ⟨more, hmore, agree⟩ := fieldsOfVariables_of_same henvironment hsame hgiven
  have nodup := (holds_of_fieldsOfVariables henvironment).nodup nodup_keys
  have nodup' := (holds_of_fieldsOfVariables hmore).nodup nodup_keys
  have agree : Fields.AgreeBut "cors_origins" (merged values fromEnvironment fromFile)
      (merged values more fromFile) :=
    (agree.update nodup nodup' fromFile).update_both values
  have hget : (merged values more fromFile).get? "cors_origins" = v? := by
    have hheld := (holds_of_fieldsOfVariables hmore).get? "cors_origins" (by decide)
    rw [get?_merged hvalues nodup' (get?_of_silent hfile hsilent)]
    exact (Except.ok.inj (hgiven.symm.trans hheld)).symm
  rw [load_eq hmore hfile, read_of_agreeBut agree hread, Outcome.mapError_map]
  cases v? with
  | none =>
    rw [originsOf_of_none hget]
    rfl
  | some v =>
    rw [originsOf_of_some hget]
    rfl

theorem lower_originsVariable :
    Text.lower "MAILBLOCKS_CORS_ORIGINS" = variableOf "cors_origins" := by
  decide +kernel

theorem load_append (silent : GivesNoOrigins values environment file)
    (h : load values environment file = .ok settings) (s : String) :
    load values (environment ++ [("MAILBLOCKS_CORS_ORIGINS", s)]) file =
      (originsOfVariable s).map fun texts => { settings with corsOrigins := texts } := by
  have hsame (key : String) (hkey : key ≠ "cors_origins") :
      givenBy (environment ++ [("MAILBLOCKS_CORS_ORIGINS", s)]) key = givenBy environment key :=
    givenBy_append_of_ne lower_originsVariable hkey
  have hself := givenBy_append_self lower_originsVariable environment s
  have hlist : listKeys.contains "cors_origins" = true := by decide
  rw [variableValue, if_pos hlist] at hself
  rw [originsOfVariable]
  cases hread : Value.read s.toList with
  | error fault =>
    rw [hread] at hself
    obtain ⟨fromEnvironment, henvironment, -⟩ := load_eq_ok_iff.1 h
    rw [load, fieldsOfVariables_of_same_of_error (by decide) henvironment hsame hself]
    rfl
  | ok v =>
    rw [hread] at hself
    rw [load_of_same silent.values silent.file h hsame hself]
    cases v <;> rfl

theorem exists_load_of_load_append (silent : GivesNoOrigins values environment file) {s : String}
    (h : load values (environment ++ [("MAILBLOCKS_CORS_ORIGINS", s)]) file = .ok settings) :
    ∃ settings, load values environment file = .ok settings := by
  have hsame (key : String) (hkey : key ≠ "cors_origins") :
      givenBy environment key = givenBy (environment ++ [("MAILBLOCKS_CORS_ORIGINS", s)]) key :=
    (givenBy_append_of_ne lower_originsVariable hkey).symm
  have hload := load_of_same silent.values silent.file h hsame (givenBy_of_none silent.environment)
  exact ⟨_, hload⟩

end Loading

/-- Settings that could both not be read, or that have the same origins. -/
def SameOrigins (left right : Except SettingsFault Settings) : Prop :=
  left.toOption.map (·.corsOrigins) = right.toOption.map (·.corsOrigins)

instance (left right : Except SettingsFault Settings) : Decidable (SameOrigins left right) :=
  inferInstanceAs (Decidable (_ = _))

/-- A text for the origins, given as a value or in the environment, where nothing else gives them.
If everything else can be read, then as a value the text gives the origins between its commas, and
in the environment it gives what it has as a document, or cannot be read. For no text this is the
same: both fail, or give the same origins, exactly if something else cannot be read. -/
theorem load_origins {values : Fields} {environment file : List (String × String)}
    (silent : GivesNoOrigins values environment file) (s : String) :
    let given := load (values.set "cors_origins" (.text s)) environment file
    let inherited := load values (environment ++ [("MAILBLOCKS_CORS_ORIGINS", s)]) file
    (∀ settings, load values environment file = .ok settings →
      given = .ok { settings with corsOrigins := originsIn s } ∧
        inherited = (originsOfVariable s).map fun texts => { settings with corsOrigins := texts }) ∧
      (SameOrigins given inherited ↔
        ∃ fault, load values environment file = .error fault) := by
  intro given inherited
  refine ⟨fun settings h => ⟨load_set silent h s, load_append silent h s⟩, ?_⟩
  cases hload : load values environment file with
  | ok settings =>
    have hgiven : given = _ := load_set silent hload s
    have hinherited : inherited = _ := load_append silent hload s
    refine iff_of_false (fun hsame => ?_) nofun
    rw [SameOrigins, hgiven, hinherited] at hsame
    cases hvariable : originsOfVariable s with
    | error fault =>
      rw [hvariable] at hsame
      cases hsame
    | ok texts =>
      rw [hvariable] at hsame
      refine originsOfVariable_ne s (hvariable.trans ?_)
      exact congrArg Except.ok (Option.some.inj hsame).symm
  | error fault =>
    refine iff_of_true ?_ ⟨fault, rfl⟩
    have hfails {x : Except SettingsFault Settings}
        (h : ∀ read, x = .ok read → ∃ settings, load values environment file = .ok settings) :
        x.toOption = none := by
      cases x with
      | error _ => rfl
      | ok settings =>
        obtain ⟨loaded, hloaded⟩ := h settings rfl
        cases hload.symm.trans hloaded
    rw [SameOrigins, hfails fun _ h => exists_load_of_load_set silent h,
      hfails fun _ h => exists_load_of_load_append silent h]

/-- Two origins with a comma between them. -/
def twoSites : String := "https://a.test, https://b.test"

/-- The same origins as a document. -/
def listedSites : String := "[\"https://a.test\", \"https://b.test\"]"

theorem originsOf_sites :
    originsIn twoSites = ["https://a.test", "https://b.test"] ∧
      originsOfVariable twoSites = .error (.unreadableVariable "cors_origins") ∧
      originsIn listedSites = ["[\"https://a.test\"", "\"https://b.test\"]"] ∧
      originsOfVariable listedSites = .ok ["https://a.test", "https://b.test"] := by
  decide +kernel

/-- Each place takes one of the two spellings as it is meant. -/
theorem load_origins_sites : ∃ settings, load [] [] [] = .ok settings ∧
    load [("cors_origins", .text twoSites)] [] [] =
      .ok { settings with corsOrigins := ["https://a.test", "https://b.test"] } ∧
    load [] [("MAILBLOCKS_CORS_ORIGINS", twoSites)] [] =
      .error (.unreadableVariable "cors_origins") ∧
    load [("cors_origins", .text listedSites)] [] [] =
      .ok { settings with corsOrigins := ["[\"https://a.test\"", "\"https://b.test\"]"] } ∧
    load [] [("MAILBLOCKS_CORS_ORIGINS", listedSites)] [] =
      .ok { settings with corsOrigins := ["https://a.test", "https://b.test"] } := by
  have silent : GivesNoOrigins [] [] [] := ⟨rfl, rfl, rfl⟩
  have hsome : (load [] [] []).toOption.isSome = true := by decide +kernel
  obtain ⟨settings, hsettings⟩ : ∃ settings, load [] [] [] = .ok settings := by
    cases h : load [] [] [] with
    | error fault =>
      rw [h] at hsome
      cases hsome
    | ok settings => exact ⟨settings, rfl⟩
  obtain ⟨hin, hvariable, hinListed, hvariableListed⟩ := originsOf_sites
  obtain ⟨hgiven, hinherited⟩ := (load_origins silent twoSites).1 settings hsettings
  obtain ⟨hgivenListed, hinheritedListed⟩ := (load_origins silent listedSites).1 settings hsettings
  rw [hin] at hgiven
  rw [hvariable] at hinherited
  rw [hinListed] at hgivenListed
  rw [hvariableListed] at hinheritedListed
  exact ⟨settings, hsettings, hgiven, hinherited, hgivenListed, hinheritedListed⟩

/-- A text does not always give the same origins in both places. -/
theorem not_forall_sameOrigins :
    ¬∀ s : String, SameOrigins (load [("cors_origins", .text s)] [] [])
      (load [] [("MAILBLOCKS_CORS_ORIGINS", s)] []) := by
  intro h
  exact absurd (h twoSites) (by decide +kernel)

end Settings

end EmailStudio
