import EmailStudio.Migration.Session
import EmailStudio.Proofs.Outcome
import EmailStudio.Proofs.Text.Case
import Mathlib.Data.List.TakeWhile
import Mathlib.Data.Nat.Find
import Mathlib.Tactic.SplitIfs

/-!
# The address that a migration gets

The settings name the address of the database, and a migration takes it out of a store of options.
What comes out of that store is what the text that was put in spells (`Address.Spells`): two percent
signs spell one, and a reference spells what its option spells. No text with a percent sign spells
itself (`Address.throughStore_eq_self_iff`). So by `Migration.address_is_kept_iff` a migration gets
the address of the application exactly if there is no percent sign in it; any other is refused or
becomes another address.
-/

namespace EmailStudio

namespace Address

variable {options : List (String × String)} {depth position : Nat} {cs ds : List Char}

theorem takeReference_eq_some_iff {name rest : List Char} :
    takeReference cs = some (name, rest) ↔
      name ≠ [] ∧ ')' ∉ name ∧ cs = name ++ ')' :: 's' :: rest := by
  constructor
  · intro h
    simp only [takeReference] at h
    split at h
    · rename_i rest' hdrop
      split_ifs at h with hname
      cases h
      refine ⟨by simpa using hname, fun hmem => ?_, ?_⟩
      · simpa using List.mem_takeWhile_imp hmem
      · rw [← hdrop, List.takeWhile_append_dropWhile]
    · cases h
  · rintro ⟨hname, hclosed, rfl⟩
    have hbefore : ∀ c ∈ name, decide (c ≠ ')') = true := by
      intro c hc
      rw [decide_eq_true_eq]
      rintro rfl
      exact hclosed hc
    rw [takeReference, List.dropWhile_append_of_pos hbefore, List.takeWhile_append_of_pos hbefore]
    simp [hname]

theorem takeReference_append {name : List Char} (hname : name ≠ []) (hclosed : ')' ∉ name)
    (rest : List Char) : takeReference (name ++ ')' :: 's' :: rest) = some (name, rest) :=
  takeReference_eq_some_iff.2 ⟨hname, hclosed, rfl⟩

/-! ## What a text spells -/

/-- What a text spells with some options, whose references go no deeper than a number of levels.
Without any level there are no percent signs. -/
inductive Spells (options : List (String × String)) : Nat → List Char → List Char → Prop
  | nil {depth : Nat} : Spells options depth [] []
  | plain {depth : Nat} {c : Char} {cs ds : List Char} (hc : c ≠ '%')
      (rest : Spells options depth cs ds) : Spells options depth (c :: cs) (c :: ds)
  | pair {depth : Nat} {cs ds : List Char} (rest : Spells options (depth + 1) cs ds) :
      Spells options (depth + 1) ('%' :: '%' :: cs) ('%' :: ds)
  | reference {depth : Nat} {name cs ds inner : List Char} {value : String} (nonempty : name ≠ [])
      (closed : ')' ∉ name) (found : options.lookup (Text.lower (String.ofList name)) = some value)
      (spelled : Spells options depth value.toList inner)
      (rest : Spells options (depth + 1) cs ds) :
      Spells options (depth + 1) ('%' :: '(' :: (name ++ ')' :: 's' :: cs)) (inner ++ ds)

theorem spells_of_notMem (h : '%' ∉ cs) : Spells options depth cs cs := by
  induction cs with
  | nil => exact .nil
  | cons c cs ih =>
    obtain ⟨hc, hcs⟩ := not_or.1 (mt List.mem_cons.2 h)
    exact .plain (Ne.symm hc) (ih hcs)

/-- A text without percent signs spells itself only. -/
theorem Spells.eq_of_notMem (h : Spells options depth cs ds) (hcs : '%' ∉ cs) : ds = cs := by
  induction h with
  | nil => rfl
  | plain hc rest ih => rw [ih fun hmem => hcs (List.mem_cons_of_mem _ hmem)]
  | pair => exact absurd List.mem_cons_self hcs
  | reference => exact absurd List.mem_cons_self hcs

theorem spells_iff_of_notMem (hcs : '%' ∉ cs) : Spells options depth cs ds ↔ ds = cs :=
  ⟨fun h => h.eq_of_notMem hcs, fun h => h.symm ▸ spells_of_notMem hcs⟩

theorem Spells.notMem_of_zero (h : Spells options 0 cs ds) : '%' ∉ cs := by
  generalize hzero : 0 = depth at h
  induction h with
  | nil => exact List.not_mem_nil
  | plain hc rest ih => exact List.not_mem_cons_of_ne_of_not_mem (Ne.symm hc) (ih hzero)
  | pair => cases hzero
  | reference => cases hzero

/-- More levels do no harm. -/
theorem Spells.succ (h : Spells options depth cs ds) : Spells options (depth + 1) cs ds := by
  induction h with
  | nil => exact .nil
  | plain hc rest ih => exact .plain hc ih
  | pair rest ih => exact .pair ih
  | reference nonempty closed found spelled rest ihspelled ihrest =>
    exact .reference nonempty closed found ihspelled ihrest

theorem Spells.mono {levels : Nat} (h : Spells options depth cs ds) (hle : depth ≤ levels) :
    Spells options levels cs ds := by
  induction hle with
  | refl => exact h
  | step _ ih => exact ih.succ

theorem Spells.cons_of_ne {c : Char} (hc : c ≠ '%') (h : Spells options depth (c :: cs) ds) :
    ∃ ds', ds = c :: ds' ∧ Spells options depth cs ds' := by
  generalize hcons : c :: cs = text at h
  cases h with
  | nil => cases hcons
  | plain _ rest =>
    cases hcons
    exact ⟨_, rfl, rest⟩
  | pair =>
    cases hcons
    exact absurd rfl hc
  | reference =>
    cases hcons
    exact absurd rfl hc

theorem Spells.append_left {before : List Char} (hbefore : '%' ∉ before)
    (h : Spells options depth (before ++ cs) ds) :
    ∃ ds', ds = before ++ ds' ∧ Spells options depth cs ds' := by
  induction before generalizing ds with
  | nil => exact ⟨ds, rfl, h⟩
  | cons c before ih =>
    obtain ⟨hc, hbefore⟩ := not_or.1 (mt List.mem_cons.2 hbefore)
    obtain ⟨rest, rfl, hrest⟩ := Spells.cons_of_ne (Ne.symm hc) h
    obtain ⟨ds', rfl, hds⟩ := ih hbefore hrest
    exact ⟨ds', rfl, hds⟩

/-! ## What is taken out -/

/-- References are replaced as they are spelled, if what each of them stands for is. -/
theorem expandWith_eq_ok_iff {value : String → Except AddressFault (List Char)}
    (hvalue : ∀ name inner, value name = .ok inner ↔
      ∃ v, options.lookup name = some v ∧ Spells options depth v.toList inner) :
    expandWith value cs = .ok ds ↔ Spells options (depth + 1) cs ds := by
  constructor
  · intro h
    fun_induction expandWith value cs generalizing ds with
    | case1 =>
      cases h
      exact .nil
    | case2 rest ih =>
      obtain ⟨out, hout, rfl⟩ := Outcome.map_eq_ok_iff.1 h
      exact .pair (ih hout)
    | case3 rest name rest' htake ih =>
      obtain ⟨inner, hinner, h⟩ := Outcome.bind_eq_ok_iff.1 h
      obtain ⟨out, hout, rfl⟩ := Outcome.map_eq_ok_iff.1 h
      obtain ⟨v, hfound, hspelled⟩ := (hvalue _ _).1 hinner
      obtain ⟨hname, hclosed, rfl⟩ := takeReference_eq_some_iff.1 htake
      exact .reference hname hclosed hfound hspelled (ih hout)
    | case4 => cases h
    | case5 => cases h
    | case6 c rest _ _ hc ih =>
      obtain ⟨out, hout, rfl⟩ := Outcome.map_eq_ok_iff.1 h
      exact .plain hc (ih hout)
  · intro h
    generalize hdepth : depth + 1 = levels at h
    induction h with
    | nil => rw [expandWith]
    | plain hc rest ih =>
      rw [expandWith, ih hdepth]
      · rfl
      all_goals simp [hc]
    | pair rest ih =>
      rw [expandWith, ih hdepth]
      rfl
    | reference nonempty closed found spelled rest _ ih =>
      obtain rfl := Nat.succ.inj hdepth
      rw [expandWith]
      split
      next htake =>
        cases (takeReference_append nonempty closed _).symm.trans htake
        rw [(hvalue _ _).2 ⟨_, found, spelled⟩]
        exact Outcome.map_eq_ok_iff.2 ⟨_, ih rfl, rfl⟩
      next hnone => cases (takeReference_append nonempty closed _).symm.trans hnone

theorem expand_eq_ok_iff :
    expand options (depth + 1) cs = .ok ds ↔ Spells options (depth + 1) cs ds := by
  induction depth generalizing cs ds with
  | zero =>
    apply expandWith_eq_ok_iff
    intro name inner
    cases options.lookup name with
    | none => simp
    | some v =>
      by_cases hv : '%' ∈ v.toList
      · have hnone : ¬Spells options 0 v.toList inner := fun h => h.notMem_of_zero hv
        simp [hv, hnone, expand]
      · simp [hv, spells_iff_of_notMem hv, eq_comm]
  | succ depth ih =>
    apply expandWith_eq_ok_iff
    intro name inner
    cases options.lookup name with
    | none => simp
    | some v =>
      by_cases hv : '%' ∈ v.toList
      · simp [hv, ih]
      · simp [hv, spells_iff_of_notMem hv, eq_comm]

/-! ## What is put in -/

theorem withoutPairs_append {before : List Char} (h : '%' ∉ before) (cs : List Char) :
    withoutPairs (before ++ cs) = before ++ withoutPairs cs := by
  induction before with
  | nil => rfl
  | cons c before ih =>
    obtain ⟨hc, hbefore⟩ := not_or.1 (mt List.mem_cons.2 h)
    rw [List.cons_append, withoutPairs, ih hbefore, List.cons_append]
    simp [Ne.symm hc]

theorem strayPosition?_append {before : List Char} (h : '%' ∉ before) (cs : List Char) :
    strayPosition? position (before ++ cs) = strayPosition? (position + before.length) cs := by
  induction before generalizing position with
  | nil => rfl
  | cons c before ih =>
    obtain ⟨hc, hbefore⟩ := not_or.1 (mt List.mem_cons.2 h)
    rw [List.cons_append, strayPosition?, ih hbefore, List.length_cons, Nat.add_right_comm,
      Nat.add_assoc]
    all_goals simp [Ne.symm hc]

/-- A percent sign is stray before anything but a second one and a bracket. -/
theorem strayPosition?_percent {rest : List Char} (hpair : rest.head? ≠ some '%')
    (hbracket : rest.head? ≠ some '(') :
    strayPosition? position (withoutPairs ('%' :: rest)) = some position := by
  cases rest with
  | nil =>
    rw [withoutPairs, withoutPairs, strayPosition?]
    all_goals simp
  | cons c rest =>
    rw [withoutPairs, withoutPairs, strayPosition?]
    all_goals simp_all

theorem strayPosition?_reference {name rest : List Char} (hname : name ≠ [])
    (hclosed : ')' ∉ name) :
    strayPosition? position ('%' :: '(' :: (name ++ ')' :: 's' :: rest)) =
      strayPosition? position rest := by
  rw [strayPosition?]
  split
  next htake =>
    cases (takeReference_append hname hclosed rest).symm.trans htake
    rfl
  next hnone => cases (takeReference_append hname hclosed rest).symm.trans hnone

/-- No percent sign is stray in a text that spells another, if there are none in the names of
options. -/
theorem Spells.strayPosition?_eq (h : Spells options depth cs ds)
    (hnames : ∀ name value, options.lookup name = some value → '%' ∉ name.toList) :
    strayPosition? position (withoutPairs cs) = none := by
  induction h generalizing position with
  | nil => rw [withoutPairs, strayPosition?]
  | plain hc rest ih =>
    rw [withoutPairs, strayPosition?, ih]
    all_goals simp [hc]
  | pair rest ih => rw [withoutPairs, ih]
  | @reference _ name cs _ _ _ nonempty closed found spelled rest _ ih =>
    have hname : '%' ∉ '(' :: name ++ [')', 's'] := by
      have hkept : '%' ∉ name := fun hmem => hnames _ _ found
        (Text.mem_lower_of_mem (by rwa [String.toList_ofList]) (by decide) (by decide))
      simp [hkept]
    have hpairs : withoutPairs ('%' :: '(' :: (name ++ ')' :: 's' :: cs)) =
        '%' :: '(' :: (name ++ ')' :: 's' :: withoutPairs cs) := by
      have happend := withoutPairs_append hname cs
      rw [withoutPairs]
      · simpa using happend
      · simp
    rw [hpairs, strayPosition?_reference nonempty closed, ih]

/-- What a name of the store stands for. -/
theorem lookup_options {directory address name value : String}
    (h : (Address.options directory address).lookup name = some value) :
    name = "here" ∧ value = directory ∨ name = "script_location" ∧ value = "alembic" ∨
      name = "prepend_sys_path" ∧ value = "src" ∨ name = "sqlalchemy.url" ∧ value = address := by
  obtain ⟨before, after, heq, -⟩ := List.lookup_eq_some_iff.1 h
  have hmem : (name, value) ∈ Address.options directory address := by
    rw [heq]
    simp
  simpa [Address.options] using hmem

variable {directory address : String}

theorem accept_of_spells {out : List Char}
    (h : Spells (Address.options directory address) depth address.toList out) :
    accept address = .ok () := by
  have hstray : strayPosition? 0 (withoutPairs address.toList) = none := by
    apply h.strayPosition?_eq
    intro name value hfound
    rcases lookup_options hfound with ⟨rfl, -⟩ | ⟨rfl, -⟩ | ⟨rfl, -⟩ | ⟨rfl, -⟩ <;> decide
  rw [accept, hstray]

/-- A text comes out of the store exactly if it is spelled by the one that was put in. -/
theorem throughStore_eq_ok_iff {text : String} : throughStore directory address = .ok text ↔
    Spells (Address.options directory address) depthLimit address.toList text.toList := by
  constructor
  · intro h
    obtain ⟨-, -, htaken⟩ := Outcome.bind_eq_ok_iff.1 h
    obtain ⟨out, hout, rfl⟩ := Outcome.map_eq_ok_iff.1 htaken
    rw [String.toList_ofList]
    exact expand_eq_ok_iff.1 hout
  · intro h
    refine Outcome.bind_eq_ok_iff.2 ⟨(), accept_of_spells h, ?_⟩
    exact Outcome.map_eq_ok_iff.2 ⟨_, expand_eq_ok_iff.2 h, String.ofList_toList⟩

/-- A text in which the first percent sign starts no reference is not taken. -/
theorem accept_of_stray {before rest : List Char} (h : address.toList = before ++ '%' :: rest)
    (hbefore : '%' ∉ before) (hpair : rest.head? ≠ some '%') (hbracket : rest.head? ≠ some '(') :
    accept address = .error (.strayPercent address before.length) := by
  rw [accept, h, withoutPairs_append hbefore, strayPosition?_append hbefore,
    strayPosition?_percent hpair hbracket, Nat.zero_add]

example : throughStore "/app" "100%% in %(Script_Location)s" = .ok "100% in alembic" := by
  decide +kernel

/-! ## Texts that stay -/

theorem Spells.unique {levels : Nat} {es : List Char} (h : Spells options depth cs ds)
    (h' : Spells options levels cs es) : ds = es := by
  have hds := expand_eq_ok_iff.2 (h.mono (Nat.le_max_left depth levels)).succ
  have hes := expand_eq_ok_iff.2 (h'.mono (Nat.le_max_right depth levels)).succ
  exact Except.ok.inj (hds.symm.trans hes)

theorem Spells.exists_of_head {c : Char} (h : Spells options depth cs ds)
    (hhead : cs.head? = some c) (hc : c ≠ '%') : ∃ c rest, ds = c :: rest ∧ c ≠ '%' := by
  obtain ⟨rest, rfl⟩ := List.head?_eq_some_iff.1 hhead
  obtain ⟨ds', rfl, -⟩ := h.cons_of_ne hc
  exact ⟨c, ds', rfl, hc⟩

/-- The percent signs that a text begins with. -/
def signs (cs : List Char) : Nat :=
  (cs.takeWhile (· = '%')).length

theorem signs_cons_of_ne {c : Char} (hc : c ≠ '%') (cs : List Char) : signs (c :: cs) = 0 := by
  simp [signs, hc]

theorem signs_percent (cs : List Char) : signs ('%' :: cs) = signs cs + 1 := by
  simp [signs]

/-- If no option spells a text that is empty or begins with a percent sign, then a text that begins
with percent signs spells one that begins with fewer. -/
theorem Spells.signs_lt (h : Spells options (depth + 1) cs ds)
    (hvalues : ∀ name value inner, options.lookup name = some value →
      Spells options depth value.toList inner → ∃ c rest, inner = c :: rest ∧ c ≠ '%') :
    signs ds ≤ signs cs ∧ (cs.head? = some '%' → signs ds < signs cs) := by
  generalize hlevels : depth + 1 = levels at h
  induction h with
  | nil => simp
  | plain hc rest ih =>
    rw [signs_cons_of_ne hc]
    simp [hc]
  | pair rest ih =>
    have hle := (ih hlevels).1
    rw [signs_percent, signs_percent, signs_percent]
    omega
  | reference nonempty closed found spelled rest =>
    obtain rfl := Nat.succ.inj hlevels
    obtain ⟨c, inner, rfl, hc⟩ := hvalues _ _ _ found spelled
    rw [List.cons_append, signs_cons_of_ne hc, signs_percent]
    omega

/-- A text with percent signs does not spell itself if the directory is an absolute path. -/
theorem Spells.notMem_of_self (absolute : directory.toList.head? = some '/')
    (h : Spells (Address.options directory address) depth address.toList address.toList) :
    '%' ∉ address.toList := by
  classical
  intro hmem
  have hsome : ∃ levels out,
      Spells (Address.options directory address) levels address.toList out := ⟨depth, _, h⟩
  -- With the least number of levels no reference leads back to the text.
  obtain ⟨out, hout⟩ := Nat.find_spec hsome
  have hleast {levels : Nat} (hlt : levels < Nat.find hsome) := Nat.find_min hsome hlt
  cases hlevels : Nat.find hsome with
  | zero =>
    rw [hlevels] at hout
    exact hout.notMem_of_zero hmem
  | succ levels =>
    rw [hlevels] at hout hleast
    obtain rfl := hout.unique h
    obtain ⟨before, rest, htext, hbefore⟩ := List.eq_append_cons_of_mem hmem
    rw [htext] at hout
    obtain ⟨spelled, heq, hspelled⟩ := hout.append_left hbefore
    rw [← List.append_cancel_left heq] at hspelled
    refine Nat.lt_irrefl _ ((hspelled.signs_lt fun name value inner hfound hinner => ?_).2 rfl)
    rcases lookup_options hfound with ⟨-, rfl⟩ | ⟨-, rfl⟩ | ⟨-, rfl⟩ | ⟨-, rfl⟩
    · exact hinner.exists_of_head absolute (by decide)
    · exact hinner.exists_of_head rfl (by decide)
    · exact hinner.exists_of_head rfl (by decide)
    · exact absurd ⟨inner, hinner⟩ (hleast (Nat.lt_succ_self levels))

theorem throughStore_eq_self_iff (absolute : directory.toList.head? = some '/') :
    throughStore directory address = .ok address ↔ '%' ∉ address.toList := by
  rw [throughStore_eq_ok_iff]
  exact ⟨Spells.notMem_of_self absolute, spells_of_notMem⟩

/-! ## All options -/

theorem taken_of_notMem (options : List (String × String)) {value : String}
    (h : '%' ∉ value.toList) : taken options value = .ok value :=
  Outcome.map_eq_ok_iff.2 ⟨_, expand_eq_ok_iff.2 (spells_of_notMem h), String.ofList_toList⟩

/-- With a plain directory the other options come back whenever the address does. -/
theorem allThroughStore_eq (hdirectory : '%' ∉ directory.toList) :
    allThroughStore directory address =
      (throughStore directory address).map fun text => [("here", directory),
        ("script_location", "alembic"), ("prepend_sys_path", "src"), ("sqlalchemy.url", text)] := by
  have hscripts : '%' ∉ "alembic".toList := by decide
  have hpath : '%' ∉ "src".toList := by decide
  have hhere := taken_of_notMem (Address.options directory address) hdirectory
  replace hscripts := taken_of_notMem (Address.options directory address) hscripts
  replace hpath := taken_of_notMem (Address.options directory address) hpath
  rw [allThroughStore, throughStore]
  generalize taken (Address.options directory address) = take at hhere hscripts hpath
  cases accept address with
  | error => rfl
  | ok =>
    simp only [Address.options, List.mapM_cons, hhere, hscripts, hpath]
    cases take address <;> rfl

end Address

namespace Migration

variable {home : String} {settings : Settings}

/-- All options are taken out of the store for a connection, which makes no difference if the
directory has a plain name. -/
theorem connectedAddress_eq (hhome : '%' ∉ home.toList) :
    connectedAddress home (.ok settings) = address home (.ok settings) := by
  show ((Address.allThroughStore home settings.databaseUrl).mapError MigrationFault.address >>=
      fun options => pure ((options.lookup "sqlalchemy.url").getD "")) =
    (Address.throughStore home settings.databaseUrl).mapError MigrationFault.address
  rw [Address.allThroughStore_eq hhome]
  cases Address.throughStore home settings.databaseUrl with
  | error => rfl
  | ok text => rfl

/-- A migration that gets the address of the application connects to the application's database, if
to any. -/
theorem connectedUrl_of_address
    (h : connectedAddress home (.ok settings) = .ok settings.databaseUrl) :
    connectedUrl home (.ok settings) = do
      let url ← applicationUrl (.ok settings)
      (Database.connectable url).mapError .connection
      return url := by
  rw [connectedUrl, h]
  rfl

theorem address_of_accept_error {fault : AddressFault}
    (h : Address.accept settings.databaseUrl = .error fault) :
    address home (.ok settings) = .error (.address fault) := by
  show (Address.throughStore home settings.databaseUrl).mapError MigrationFault.address = _
  rw [Address.throughStore, h]
  rfl

theorem run_of_accept_error {fault : AddressFault}
    (h : Address.accept settings.databaseUrl = .error fault) {command : MigrationCommand}
    {target : String} (htarget : refusesTarget command target = false) (files : DatabaseFiles) :
    run home (.ok settings) command target files = (files, .error (.address fault)) := by
  have hconnected : connectedAddress home (.ok settings) = .error (.address fault) := by
    show ((Address.allThroughStore home settings.databaseUrl).mapError MigrationFault.address >>=
      fun options => pure ((options.lookup "sqlalchemy.url").getD "")) = _
    rw [Address.allThroughStore, h]
    rfl
  have hurl : connectedUrl home (.ok settings) = .error (.address fault) := by
    rw [connectedUrl, hconnected]
    rfl
  rw [run, htarget, if_neg Bool.false_ne_true, hurl]

theorem script_of_accept_error {fault : AddressFault}
    (h : Address.accept settings.databaseUrl = .error fault) {command : MigrationCommand}
    {target : String} {places : String × String} (hends : ends command target = .ok places) :
    script home (.ok settings) command target = .error (.address fault) := by
  rw [script, hends, dialect, address_of_accept_error h]
  rfl

/-- A migration gets an address exactly if the settings have a text that spells it, with pairs of
percent signs and references to options. So it gets the address of the application exactly if there
is no percent sign in that one, and then it connects to the same database. If the first sign starts
no reference, as where a character of a password is written by its number, then the address is
refused with its position, and every migration and every script with it; nothing is changed. -/
theorem address_is_kept_iff (home : String) (absolute : home.toList.head? = some '/')
    (settings : Settings) :
    (∀ text, address home (.ok settings) = .ok text ↔
      Address.Spells (Address.options home settings.databaseUrl) Address.depthLimit
        settings.databaseUrl.toList text.toList) ∧
    (address home (.ok settings) = .ok settings.databaseUrl ↔
      '%' ∉ settings.databaseUrl.toList) ∧
    ('%' ∉ home.toList → connectedAddress home (.ok settings) = address home (.ok settings)) ∧
    ('%' ∉ home.toList → '%' ∉ settings.databaseUrl.toList → connectedUrl home (.ok settings) = do
      let url ← applicationUrl (.ok settings)
      (Database.connectable url).mapError .connection
      return url) ∧
    ∀ before rest, settings.databaseUrl.toList = before ++ '%' :: rest → '%' ∉ before →
      rest.head? ≠ some '%' → rest.head? ≠ some '(' →
      let fault := AddressFault.strayPercent settings.databaseUrl before.length
      address home (.ok settings) = .error (.address fault) ∧
      (∀ command target files, refusesTarget command target = false →
        run home (.ok settings) command target files = (files, .error (.address fault))) ∧
      ∀ command target places, ends command target = .ok places →
        script home (.ok settings) command target = .error (.address fault) := by
  have haddress (text : String) : address home (.ok settings) = .ok text ↔
      Address.throughStore home settings.databaseUrl = .ok text := Outcome.mapError_eq_ok_iff
  have hself : address home (.ok settings) = .ok settings.databaseUrl ↔
      '%' ∉ settings.databaseUrl.toList := by
    rw [haddress, Address.throughStore_eq_self_iff absolute]
  refine ⟨fun text => ?_, hself, connectedAddress_eq, fun hhome hplain => ?_, ?_⟩
  · rw [haddress, Address.throughStore_eq_ok_iff]
  · apply connectedUrl_of_address
    rw [connectedAddress_eq hhome, hself]
    exact hplain
  · intro before rest htext hbefore hpair hbracket fault
    have hrefused := Address.accept_of_stray htext hbefore hpair hbracket
    exact ⟨address_of_accept_error hrefused,
      fun command target files htarget => run_of_accept_error hrefused htarget files,
      fun command target places hends => script_of_accept_error hrefused hends⟩

/-- An address with an at sign in its password. -/
def encodedUrl : String := "postgresql+asyncpg://app:p%40ss@db/mail"

theorem toList_encodedUrl : encodedUrl.toList =
    "postgresql+asyncpg://app:p".toList ++ '%' :: "40ss@db/mail".toList := by
  decide +kernel

/-- The application takes the address from the environment and reads it. -/
theorem load_encodedUrl : ∃ settings url,
    Settings.load [] [("MAILBLOCKS_DATABASE_URL", encodedUrl)] [] = .ok settings ∧
      settings.databaseUrl = encodedUrl ∧ DatabaseUrl.read encodedUrl = .ok url := by
  have hsettings : (Settings.load [] [("MAILBLOCKS_DATABASE_URL", encodedUrl)] []).toOption.map
      (·.databaseUrl) = some encodedUrl := by
    decide +kernel
  have hurl : (DatabaseUrl.read encodedUrl).toOption.isSome = true := by
    decide +kernel
  cases hload : Settings.load [] [("MAILBLOCKS_DATABASE_URL", encodedUrl)] [] with
  | error fault =>
    rw [hload] at hsettings
    cases hsettings
  | ok settings =>
    cases hread : DatabaseUrl.read encodedUrl with
    | error fault =>
      rw [hread] at hurl
      cases hurl
    | ok url =>
      rw [hload] at hsettings
      exact ⟨settings, url, rfl, Option.some.inj hsettings, rfl⟩

/-- Why it is refused, with the position of the percent sign. -/
def refusal : AddressFault := .strayPercent encodedUrl 26

theorem address_is_kept_iff_encoded : ∃ settings : Settings, settings.databaseUrl = encodedUrl ∧
    run "/app" (.ok settings) .upgrade "head" .empty = (.empty, .error (.address refusal)) ∧
    (∀ places, ends .upgrade "head" = .ok places →
      script "/app" (.ok settings) .upgrade "head" = .error (.address refusal)) ∧
    let plain := { settings with databaseUrl := "sqlite+aiosqlite:///mail.db" }
    '%' ∉ plain.databaseUrl.toList ∧ connectedUrl "/app" (.ok plain) = do
      let url ← applicationUrl (.ok plain)
      (Database.connectable url).mapError .connection
      return url := by
  obtain ⟨settings, -, -, hurl, -⟩ := load_encodedUrl
  have absolute : "/app".toList.head? = some '/' := by decide
  have hhome : '%' ∉ "/app".toList := by decide
  obtain ⟨-, -, -, -, hrefused⟩ := address_is_kept_iff "/app" absolute settings
  obtain ⟨-, hrun, hscript⟩ := hrefused _ _ ((congrArg String.toList hurl).trans toList_encodedUrl)
    (by decide +kernel) (by decide +kernel) (by decide +kernel)
  rw [hurl] at hrun hscript
  obtain ⟨-, -, -, hconnected, -⟩ := address_is_kept_iff "/app" absolute
    { settings with databaseUrl := "sqlite+aiosqlite:///mail.db" }
  have hplain : '%' ∉ "sqlite+aiosqlite:///mail.db".toList := by decide +kernel
  exact ⟨settings, hurl, hrun .upgrade "head" .empty (by decide +kernel),
    hscript .upgrade "head", hplain, hconnected hhome hplain⟩

/-- A migration does not always get the address that the application takes. -/
theorem not_forall_address :
    ¬∀ (home : String) (values : Fields) (environment file : List (String × String))
      (settings : Settings) (url : DatabaseUrl), home.toList.head? = some '/' →
      Settings.load values environment file = .ok settings →
      DatabaseUrl.read settings.databaseUrl = .ok url →
      address home (.ok settings) = .ok settings.databaseUrl := by
  intro h
  obtain ⟨settings, url, hload, hurl, hread⟩ := load_encodedUrl
  have absolute : "/app".toList.head? = some '/' := by decide
  have hkept := h "/app" _ _ _ settings url absolute hload (by rw [hurl, hread])
  have hthrough : Address.throughStore "/app" encodedUrl = .ok encodedUrl := by
    rw [← hurl]
    exact Outcome.mapError_eq_ok_iff.1 hkept
  rw [Address.throughStore_eq_self_iff absolute] at hthrough
  apply hthrough
  rw [toList_encodedUrl]
  exact List.mem_append_right _ List.mem_cons_self

end Migration

end EmailStudio
