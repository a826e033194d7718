import EmailStudio.Proofs.Editor.Address
import EmailStudio.Proofs.Validation.Places
import EmailStudio.Proofs.Value.Edit

/-!
# Issues stay where they are

Validation says of a block what the block alone gives reason for, and puts the name of the block in
front. By `Template.errors_setAt`, replacing a block that validation gets to replaces its messages,
which stand together in the list, by the messages of the new block at that depth. All others, which
are neither of that name nor of a name below it, keep their wording and their order.
-/

namespace EmailStudio

/-- The messages of the items of a list stand one after the other. -/
theorem exists_split_at {α β : Type} {items : List α} {n : Nat} (hn : n < items.length)
    (f : α → Nat → List β) : ∃ before after : List β,
      (∀ b ∈ before ++ after, ∃ (item : α) (m : Nat), m ≠ n ∧ b ∈ f item m) ∧
      ∀ x, ((items.set n x).zipIdx.flatMap fun (item, m) => f item m) = before ++ f x n ++ after := by
  have hlength : (items.take n).length = n := List.length_take_of_le (Nat.le_of_lt hn)
  refine ⟨(items.take n).zipIdx.flatMap fun (item, m) => f item m,
    ((items.drop (n + 1)).zipIdx (n + 1)).flatMap fun (item, m) => f item m, fun b hb => ?_,
    fun x => ?_⟩
  · rcases List.mem_append.1 hb with hb | hb <;>
      obtain ⟨⟨item, m⟩, hitem, hb⟩ := List.mem_flatMap.1 hb
    · have hlt := List.snd_lt_of_mem_zipIdx hitem
      exact ⟨item, m, by omega, hb⟩
    · have hle := List.le_snd_of_mem_zipIdx hitem
      exact ⟨item, m, by omega, hb⟩
  · rw [List.set_eq_take_append_cons_drop, if_pos hn, List.zipIdx_append, List.zipIdx_cons, hlength,
      Nat.zero_add, List.flatMap_append, List.flatMap_cons, List.append_assoc]

/-! ## Blocks -/

namespace BlockIssue

/-- The issue of a block as one of a block that a place leads down from. -/
def below (place : List Nat) (issue : BlockIssue) : BlockIssue :=
  { issue with place := place ++ issue.place }

theorem below_nil (issue : BlockIssue) : issue.below [] = issue := rfl

theorem within_below (index : Nat) (place : List Nat) (issue : BlockIssue) :
    (issue.below place).within index = issue.below (index :: place) := rfl

end BlockIssue

namespace Block

/-- From a value at a depth, validation goes down a place to another one, and judges it as a
block. -/
inductive Visits : Int → Value → List Nat → Value → Prop
  | here {depth : Int} {v : Value} : Visits depth v [] v
  | inner {depth : Int} {fields columns : Fields} {items : List Value} {index : Nat}
      {child v : Value} {place : List Nat} (shallow : depth ≤ Catalog.maxDepth)
      (judged : judgedProps fields = .ok (.columns, columns))
      (list : fields.get "children" = .list items) (child_eq : items[index]? = some child)
      (visits : Visits (depth + 1) child place v) :
      Visits depth (.object fields) (index :: place) v

/-- The steps from a block down to the one at a place below it. -/
def stepsDown (place : List Nat) : List Step :=
  place.flatMap fun index => [.name "children", .index index]

/-- The messages of a block of a name at a depth. -/
def errors (name : String) (depth : Int) (block : Value) : List String :=
  (issues depth block).map (·.text name)

theorem issuesOfItems_eq_flatMap (depth : Int) : ∀ (index : Nat) (items : List Value),
    issuesOfItems depth index items =
      (items.zipIdx index).flatMap fun (v, n) => (issues (depth + 1) v).map (·.within n)
  | _, [] => rfl
  | index, v :: rest => by
    rw [issuesOfItems, issuesOfItems_eq_flatMap depth (index + 1) rest, List.zipIdx_cons,
      List.flatMap_cons]

/-- What validation says about columns, with any child in the place of one of theirs. -/
theorem exists_split_children {depth : Int} {fields columns : Fields} {items : List Value}
    {index : Nat} (shallow : depth ≤ Catalog.maxDepth)
    (judged : judgedProps fields = .ok (.columns, columns)) (hindex : index < items.length) :
    ∃ before after : List BlockIssue,
      (∀ issue ∈ before ++ after, ¬[index] <+: issue.place) ∧
      ∀ v, issues depth (.object (fields.set "children" (.list (items.set index v)))) =
        before ++ (issues (depth + 1) v).map (·.within index) ++ after := by
  obtain ⟨before, after, hother, hset⟩ :=
    exists_split_at hindex fun v n => (issues (depth + 1) v).map (·.within n)
  refine ⟨(Kind.columns.rule columns).map (fun issue => ⟨[], .prop issue⟩) ++ before, after,
    fun issue hissue => ?_, fun v => ?_⟩
  · rw [List.append_assoc, List.mem_append, List.mem_map] at hissue
    rcases hissue with ⟨_, -, rfl⟩ | hissue
    · exact fun h => List.cons_ne_nil _ _ (List.prefix_nil.1 h)
    · obtain ⟨_, n, hn, hmem⟩ := hother issue hissue
      obtain ⟨found, -, rfl⟩ := List.mem_map.1 hmem
      exact fun h => hn (List.cons_prefix_cons.1 h).1.symm
  · have hjudged : judgedProps (fields.set "children" (.list (items.set index v))) =
        .ok (.columns, columns) := by
      rw [← judged, judgedProps, judgedProps, Fields.get_set_of_ne (by decide),
        Fields.get_set_of_ne (by decide)]
    rw [issues_of_judged shallow hjudged, if_pos rfl, Fields.get_set_self, issuesOfChildren,
      issuesOfItems_eq_flatMap, hset, ← List.append_assoc, ← List.append_assoc]

/-- One step down at a time, the issues at a place stand together, whatever is put there. -/
theorem Visits.exists_split {depth : Int} {v old : Value} {place : List Nat}
    (h : Visits depth v place old) : ∃ (before after : List BlockIssue) (become : Value → Value),
      become old = v ∧ (∀ issue ∈ before ++ after, ¬place <+: issue.place) ∧
      ∀ new, Value.Replaced new v (stepsDown place) (become new) ∧
        issues depth (become new) =
          before ++ (issues (depth + place.length) new).map (·.below place) ++ after := by
  induction h with
  | @here depth v =>
    refine ⟨[], [], id, rfl, nofun, fun new => ⟨.whole v, ?_⟩⟩
    have hdepth : depth + (([] : List Nat).length : Int) = depth := Int.add_zero depth
    simp only [hdepth, BlockIssue.below_nil, List.map_id', List.nil_append, List.append_nil, id]
  | @inner depth fields columns items index child old place shallow judged list child_eq _ ih =>
    obtain ⟨before, after, become, hold, hother, hnew⟩ := ih
    obtain ⟨hindex, rfl⟩ := List.getElem?_eq_some_iff.1 child_eq
    have hfield : fields.get? "children" = some (.list items) := Fields.get?_of_get list nofun
    obtain ⟨above, behind, habove, hset⟩ := exists_split_children shallow judged hindex
    refine ⟨above ++ before.map (·.within index), after.map (·.within index) ++ behind,
      fun new => .object (fields.set "children" (.list (items.set index (become new)))), ?_, ?_,
      fun new => ⟨((hnew new).1.under_item child_eq).under_field hfield, ?_⟩⟩
    · simp only [hold, List.set_getElem_self hindex, Fields.set_of_get? hfield]
    · intro issue hissue hbegins
      have hmem : issue ∈ (before ++ after).map (·.within index) ∨ issue ∈ above ++ behind := by
        simp only [List.mem_append, List.map_append] at hissue ⊢
        tauto
      rcases hmem with hmem | hmem
      · obtain ⟨found, hfound, rfl⟩ := List.mem_map.1 hmem
        exact hother found hfound (List.cons_prefix_cons.1 hbegins).2
      · exact habove issue hmem ((List.prefix_append [index] place).trans hbegins)
    · have hdepth : depth + 1 + (place.length : Int) = depth + ((index :: place).length : Int) := by
        rw [List.length_cons]
        omega
      rw [hset, (hnew new).2, hdepth]
      simp only [List.map_append, List.map_map, List.append_assoc, Function.comp_def,
        BlockIssue.within_below]

end Block

/-! ## Names -/

/-- Whether a message begins with a name or with a name below it. -/
def IsUnder (name message : String) : Prop :=
  ∃ rest, message = name ++ ":" ++ rest ∨ message = name ++ "." ++ rest

/-- The name of the block at a place below the block of an index in the content. -/
def blockName (index : Nat) (place : List Nat) : String :=
  BlockIssue.placeName ("content[" ++ toString index ++ "]") place

/-- The characters that a place adds to the name of a block. -/
def placeChars (place : List Nat) : List Char :=
  place.flatMap fun index => ".children[".toList ++ Nat.toDigits 10 index ++ [']']

theorem placeChars_append (place below : List Nat) :
    placeChars (place ++ below) = placeChars place ++ placeChars below :=
  List.flatMap_append

theorem toList_placeName (name : String) (place : List Nat) :
    (BlockIssue.placeName name place).toList = name.toList ++ placeChars place := by
  rw [BlockIssue.placeName, String.toList_append, String.toList_join, List.flatMap_map]
  simp only [placeChars, String.toList_append, Nat.toString_eq_repr, Nat.toList_repr]
  rfl

theorem toList_blockName (index : Nat) (place : List Nat) :
    (blockName index place).toList =
      "content[".toList ++ (Nat.toDigits 10 index ++ ']' :: placeChars place) := by
  rw [blockName, toList_placeName, String.toList_append, String.toList_append,
    Nat.toString_eq_repr, Nat.toList_repr, List.append_assoc, List.append_assoc]
  rfl

/-- The digits of a number end where something else stands. -/
theorem toDigits_append_inj {i j : Nat} {c : Char} {xs ys : List Char} (hc : c.isDigit = false)
    (h : Nat.toDigits 10 i ++ c :: xs = Nat.toDigits 10 j ++ c :: ys) : i = j ∧ xs = ys := by
  have htake (n : Nat) (rest : List Char) :
      (Nat.toDigits 10 n ++ c :: rest).takeWhile Char.isDigit = Nat.toDigits 10 n := by
    have hdigits : ∀ d ∈ Nat.toDigits 10 n, d.isDigit = true := fun d hd =>
      Nat.isDigit_of_mem_toDigits (by decide) (by decide) hd
    rw [List.takeWhile_append_of_pos hdigits, List.takeWhile_cons, hc]
    exact List.append_nil _
  have hdigits : Nat.toDigits 10 i = Nat.toDigits 10 j := by
    rw [← htake i xs, h, htake]
  rw [hdigits] at h
  exact ⟨Editor.toDigits_injective hdigits, (List.cons.inj (List.append_cancel_left h)).2⟩

/-- What a problem adds to the name of its block. -/
theorem BlockProblem.text_eq (problem : BlockProblem) (name : String) :
    problem.text name = name ++ problem.text "" := by
  cases problem <;>
    simp only [BlockProblem.text, PropIssue.text, String.empty_append, String.append_assoc]

theorem BlockIssue.placeName_append (name : String) (place below : List Nat) :
    placeName name (place ++ below) = placeName (placeName name place) below := by
  rw [placeName, placeName, placeName, List.map_append, String.join_append, String.append_assoc]

theorem BlockIssue.text_eq (issue : BlockIssue) (name : String) :
    issue.text name = name ++ issue.text "" := by
  rw [text, text, BlockProblem.text_eq, BlockProblem.text_eq _ (placeName "" issue.place), placeName,
    placeName, String.empty_append, String.append_assoc]

/-- A message goes on after the name of its block with what is wrong or with a field of the block,
never with one of its children. -/
theorem BlockProblem.text_begins (problem : BlockProblem) :
    ∃ rest, (problem.text "").toList = ':' :: rest ∨
      (problem.text "").toList = ".props.".toList ++ rest ∨
      (problem.text "").toList = ".children ".toList ++ rest := by
  cases problem with
  | prop issue =>
    refine ⟨(issue.place.text ++ " " ++ issue.problem.text).toList, .inr (.inl ?_)⟩
    simp only [BlockProblem.text, PropIssue.text, String.toList_append, String.append_assoc]
    rfl
  | childrenNotList => exact ⟨"must be an array".toList, .inr (.inr rfl)⟩
  | _ => exact ⟨_, .inl (by simp only [BlockProblem.text, String.toList_append]; rfl)⟩

/-- Where a place leads is read off a message again. -/
theorem prefix_of_placeChars {problem : BlockProblem} {c : Char} {rest : List Char}
    (hc : c = ':' ∨ c = '.') : ∀ {place found : List Nat},
    placeChars found ++ (problem.text "").toList = placeChars place ++ c :: rest → place <+: found
  | [], _, _ => List.nil_prefix
  | index :: place, [], h => by
    exfalso
    obtain ⟨tail, htail⟩ := problem.text_begins
    rcases htail with htail | htail | htail <;> rw [htail] at h <;> simp [placeChars] at h
  | index :: place, other :: found, h => by
    have hcancel : Nat.toDigits 10 other ++ ']' :: (placeChars found ++ (problem.text "").toList) =
        Nat.toDigits 10 index ++ ']' :: (placeChars place ++ c :: rest) := by
      simpa [placeChars] using h
    obtain ⟨rfl, hrest⟩ := toDigits_append_inj rfl hcancel
    exact List.cons_prefix_cons.2 ⟨rfl, prefix_of_placeChars hc hrest⟩

theorem isUnder_iff {name message : String} : IsUnder name message ↔
    ∃ (c : Char) (rest : List Char), (c = ':' ∨ c = '.') ∧
      message.toList = name.toList ++ c :: rest := by
  constructor
  · rintro ⟨rest, rfl | rfl⟩
    · exact ⟨':', rest.toList, .inl rfl, by simp⟩
    · exact ⟨'.', rest.toList, .inr rfl, by simp⟩
  · rintro ⟨c, rest, rfl | rfl, h⟩
    · exact ⟨String.ofList rest, .inl (String.toList_injective (by simp [h]))⟩
    · exact ⟨String.ofList rest, .inr (String.toList_injective (by simp [h]))⟩

/-- Neither of two texts begins with the other. -/
def Apart (s t : String) : Prop :=
  ¬s.toList <+: t.toList ∧ ¬t.toList <+: s.toList

instance (s t : String) : Decidable (Apart s t) :=
  inferInstanceAs (Decidable (_ ∧ _))

theorem Apart.append_ne {s t : String} (h : Apart s t) (rest : String) (others : List Char) :
    (s ++ rest).toList ≠ t.toList ++ others := fun heq => by
  rw [String.toList_append] at heq
  have hs : s.toList <+: t.toList ++ others := heq ▸ List.prefix_append _ _
  exact (List.prefix_or_prefix_of_prefix hs (List.prefix_append _ _)).elim h.1 h.2

namespace Issue

/-- What is not about a block does not begin like the name of one. -/
theorem exists_lead {issue : Issue} (h : ∀ index found, issue ≠ .block index found) :
    ∃ lead rest, issue.text = lead ++ rest ∧ Apart lead "content[" := by
  cases issue with
  | block index found => exact absurd rfl (h index found)
  | version v =>
    refine ⟨"Unsupported version: ", v.plain ++ ". Expected \"" ++ formatVersion ++ "\"", ?_,
      by decide⟩
    show "Unsupported version: " ++ v.plain ++ ". Expected \"" ++ formatVersion ++ "\"" = _
    simp only [String.append_assoc]
  | metadataNotText key => exact ⟨"metadata.", _, String.append_assoc, by decide⟩
  | settingNotText key => exact ⟨"settings.", _, String.append_assoc, by decide⟩
  | widthNotBetween =>
    exact ⟨"settings.", "contentWidth must be between 400 and 700", by decide, by decide⟩
  | _ => exact ⟨_, "", String.append_empty.symm, by decide⟩

theorem toList_block_text (index : Nat) (found : BlockIssue) :
    (block index found).text.toList = "content[".toList ++ (Nat.toDigits 10 index ++
      ']' :: (placeChars found.place ++ (found.problem.text "").toList)) := by
  have htext : (block index found).text =
      blockName index found.place ++ found.problem.text "" := found.problem.text_eq _
  rw [htext, String.toList_append, toList_blockName, List.append_assoc, List.append_assoc]
  rfl

theorem text_below (index : Nat) (place : List Nat) (found : BlockIssue) :
    (block index (found.below place)).text = found.text (blockName index place) :=
  congrArg found.problem.text (BlockIssue.placeName_append _ place found.place)

/-- A message begins with the name of a block or with one below it exactly when its issue is at the
place of that block or below it. -/
theorem isUnder_blockName_iff {index : Nat} {place : List Nat} {issue : Issue} :
    IsUnder (blockName index place) issue.text ↔
      ∃ found, issue = .block index found ∧ place <+: found.place := by
  rw [isUnder_iff, toList_blockName]
  constructor
  · rintro ⟨c, rest, hc, h⟩
    by_cases hblock : ∃ other found, issue = .block other found
    · obtain ⟨other, found, rfl⟩ := hblock
      rw [toList_block_text, List.append_assoc] at h
      have hcancel := List.append_cancel_left h
      rw [List.append_assoc] at hcancel
      obtain ⟨rfl, hrest⟩ := toDigits_append_inj rfl hcancel
      exact ⟨found, rfl, prefix_of_placeChars hc hrest⟩
    · obtain ⟨lead, tail, htext, hapart⟩ :=
        exists_lead fun other found heq => hblock ⟨other, found, heq⟩
      rw [htext, List.append_assoc] at h
      exact absurd h (hapart.append_ne _ _)
  · rintro ⟨⟨_, problem⟩, rfl, below, rfl⟩
    have hbegins : ∃ (c : Char) (rest : List Char), (c = ':' ∨ c = '.') ∧
        placeChars below ++ (problem.text "").toList = c :: rest := by
      cases below with
      | nil =>
        obtain ⟨rest, h | h | h⟩ := problem.text_begins
        · exact ⟨_, _, .inl rfl, h⟩
        · exact ⟨_, _, .inr rfl, h⟩
        · exact ⟨_, _, .inr rfl, h⟩
      | cons => exact ⟨_, _, .inr rfl, rfl⟩
    obtain ⟨c, rest, hc, h⟩ := hbegins
    refine ⟨c, rest, hc, ?_⟩
    rw [toList_block_text, placeChars_append, List.append_assoc (placeChars place), h]
    simp only [List.append_assoc, List.cons_append]

end Issue

/-! ## Templates -/

namespace Template

/-- In the content of a candidate, validation gets to a value at a place below the block of an index
and judges it as a block. -/
inductive Visits : Value → Nat → List Nat → Value → Prop
  | block {fields : Fields} {content : List Value} {index : Nat} {block v : Value}
      {place : List Nat} (list : fields.get "content" = .list content)
      (block_eq : content[index]? = some block) (visits : Block.Visits 1 block place v) :
      Visits (.object fields) index place v

/-- The steps from a candidate down to a block. -/
def stepsTo (index : Nat) (place : List Nat) : List Step :=
  .name "content" :: .index index :: Block.stepsDown place

/-- The issues at a place and below it stand together, whatever is put there. -/
theorem Visits.exists_split {candidate old : Value} {index : Nat} {place : List Nat}
    (h : Visits candidate index place old) :
    ∃ (before after : List Issue) (become : Value → Value), become old = candidate ∧
      (∀ issue ∈ before ++ after, ¬∃ found, issue = .block index found ∧ place <+: found.place) ∧
      ∀ new, candidate.setAt (stepsTo index place) new = .ok (become new) ∧
        issues (become new) = before ++ (Block.issues (1 + place.length) new).map
          (fun issue => .block index (issue.below place)) ++ after := by
  obtain @⟨fields, content, _, block, _, _, list, block_eq, visits⟩ := h
  obtain ⟨before, after, become, hold, hother, hnew⟩ := visits.exists_split
  obtain ⟨hindex, rfl⟩ := List.getElem?_eq_some_iff.1 block_eq
  have hfield : fields.get? "content" = some (.list content) := Fields.get?_of_get list nofun
  obtain ⟨above, behind, hbeside, hset⟩ :=
    exists_split_at hindex fun v n => (Block.issues 1 v).map (Issue.block n)
  refine ⟨versionIssues (fields.get "version") ++ metadataIssues (fields.get "metadata") ++
      settingsIssues (fields.get "settings") ++ above ++ before.map (.block index),
    after.map (.block index) ++ behind,
    fun new => .object (fields.set "content" (.list (content.set index (become new)))), ?_, ?_,
    fun new => ⟨?_, ?_⟩⟩
  · simp only [hold, List.set_getElem_self hindex, Fields.set_of_get? hfield]
  · rintro issue hissue ⟨found, rfl, hbegins⟩
    have hmem : Issue.block index found ∈ (before ++ after).map (Issue.block index) ∨
        Issue.block index found ∈ above ++ behind := by
      have hheads := @block_notMem_append index found (fields.get "version")
        (fields.get "metadata") (fields.get "settings")
      simp only [List.mem_append, List.map_append] at hheads hissue ⊢
      tauto
    rcases hmem with hmem | hmem
    · obtain ⟨_, hfound, heq⟩ := List.mem_map.1 hmem
      cases heq
      exact hother _ hfound hbegins
    · obtain ⟨_, n, hn, hmem⟩ := hbeside _ hmem
      obtain ⟨_, -, heq⟩ := List.mem_map.1 hmem
      cases heq
      exact hn rfl
  · exact (((hnew new).1.under_item block_eq).under_field hfield).setAt_eq (List.cons_ne_nil _ _)
  · have hget (key : String) (hkey : "content" ≠ key) (v : Value) :
        Fields.get (fields.set "content" v) key = fields.get key := Fields.get_set_of_ne hkey v
    rw [issues, hget _ (by decide), hget _ (by decide), hget _ (by decide), Fields.get_set_self,
      contentIssues, hset, (hnew new).2]
    simp only [List.map_append, List.map_map, List.append_assoc, Function.comp_def]

/-- Replacing a block that validation gets to replaces the messages that begin with its name, which
stand together, by those of the new block, and leaves all others as they are. The messages of a
block are the same under any name, up to the name itself in front of each. -/
theorem errors_setAt :
    (∀ {candidate old : Value} {index : Nat} {place : List Nat}, Visits candidate index place old →
      ∃ before after : List String,
        errors candidate =
          before ++ Block.errors (blockName index place) (place.length + 1) old ++ after ∧
        (∀ new, ∃ edited, candidate.setAt (stepsTo index place) new = .ok edited ∧
          errors edited =
            before ++ Block.errors (blockName index place) (place.length + 1) new ++ after ∧
          ∀ message ∈ Block.errors (blockName index place) (place.length + 1) new,
            IsUnder (blockName index place) message) ∧
        ∀ message ∈ before ++ after, ¬IsUnder (blockName index place) message) ∧
    ∀ (depth : Int) (block : Value), ∃ messages : List String, ∀ name,
      Block.errors name depth block = messages.map (name ++ ·) := by
  refine ⟨fun {candidate old index place} h => ?_, fun depth block =>
    ⟨Block.errors "" depth block, fun name => ?_⟩⟩
  · obtain ⟨before, after, become, rfl, hother, hnew⟩ := h.exists_split
    have herrors (new : Value) : errors (become new) = before.map (·.text) ++
        Block.errors (blockName index place) (place.length + 1) new ++ after.map (·.text) := by
      rw [errors, (hnew new).2, List.map_append, List.map_append, List.map_map, Int.add_comm 1,
        Block.errors]
      simp only [Function.comp_def, Issue.text_below]
    refine ⟨before.map (·.text), after.map (·.text), herrors old,
      fun new => ⟨become new, (hnew new).1, herrors new, fun message hmessage => ?_⟩,
      fun message hmessage => ?_⟩
    · obtain ⟨issue, -, rfl⟩ := List.mem_map.1 hmessage
      rw [← Issue.text_below, Issue.isUnder_blockName_iff]
      exact ⟨_, rfl, List.prefix_append _ _⟩
    · rw [← List.map_append, List.mem_map] at hmessage
      obtain ⟨issue, hissue, rfl⟩ := hmessage
      rw [Issue.isUnder_blockName_iff]
      exact hother issue hissue
  · rw [Block.errors, Block.errors, List.map_map]
    exact List.map_congr_left fun issue _ => issue.text_eq name

/-- Eleven blocks that are no objects, but for the second, which has such a block as its child. -/
def elevenBlocks : Value :=
  candidate ((List.replicate 11 .null).set 1 (.object [
    ("type", .text "EmailColumns"), ("props", .object []), ("children", .list [.null])]))

theorem errors_setAt_elevenBlocks : Visits elevenBlocks 1 [0] .null ∧
    ∃ before after : List String,
      errors elevenBlocks = before ++ Block.errors (blockName 1 [0]) 2 .null ++ after ∧
      (∀ new, ∃ edited, elevenBlocks.setAt (stepsTo 1 [0]) new = .ok edited ∧
        errors edited = before ++ Block.errors (blockName 1 [0]) 2 new ++ after ∧
        ∀ message ∈ Block.errors (blockName 1 [0]) 2 new, IsUnder (blockName 1 [0]) message) ∧
      ∀ message ∈ before ++ after, ¬IsUnder (blockName 1 [0]) message :=
  have visits : Visits elevenBlocks 1 [0] .null :=
    .block rfl rfl (.inner (by decide) rfl rfl rfl .here)
  ⟨visits, errors_setAt.1 visits⟩

end Template

end EmailStudio
