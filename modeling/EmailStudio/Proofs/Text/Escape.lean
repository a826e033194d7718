import EmailStudio.Number.Decimal
import EmailStudio.Text.Escape
import Mathlib.Tactic.SplitIfs

/-!
# Plain texts

A text is plain if it holds no angle bracket and no quote, so that it can stand between tags and as
the value of an attribute. The main results are `escapeChars_eq_flatMap`, escaping replaces every
character by itself, and `isPlain_escape`; numbers are plain as they are written.
-/

namespace EmailStudio.Text

/-- The characters that begin or end a tag or the value of an attribute. -/
def delimiters : List Char := ['<', '>', '"', '\'']

/-- A text without delimiters. -/
def IsPlain (s : String) : Prop :=
  ∀ c ∈ s.toList, c ∉ delimiters

instance (s : String) : Decidable (IsPlain s) :=
  decidable_of_iff (s.toList.all fun c => !delimiters.contains c) (by simp [IsPlain])

theorem isPlain_append {s t : String} (hs : IsPlain s) (ht : IsPlain t) : IsPlain (s ++ t) := by
  intro c hc
  rw [String.toList_append, List.mem_append] at hc
  exact hc.elim (hs c) (ht c)

theorem isPlain_ofList {cs : List Char} :
    IsPlain (String.ofList cs) ↔ ∀ c ∈ cs, c ∉ delimiters := by
  unfold IsPlain
  rw [String.toList_ofList]

theorem isPlain_take {s : String} (h : IsPlain s) (n : Nat) :
    IsPlain (String.ofList (s.toList.take n)) :=
  isPlain_ofList.2 fun c hc => h c (List.mem_of_mem_take hc)

theorem isPlain_drop {s : String} (h : IsPlain s) (n : Nat) :
    IsPlain (String.ofList (s.toList.drop n)) :=
  isPlain_ofList.2 fun c hc => h c (List.mem_of_mem_drop hc)

/-! ## Escaping -/

/-- What a character is written as by some rows of the table. -/
def codeOf (table : List (Char × List Char)) (c : Char) : List Char :=
  (table.lookup c).getD [c]

/-- What a character is written as. -/
def entityOf (c : Char) : List Char :=
  (entities.lookup c).getD [c]

theorem replaceChar_flatMap (c : Char) (replacement cs : List Char) (f : Char → List Char) :
    replaceChar c replacement (cs.flatMap f) =
      cs.flatMap fun x => replaceChar c replacement (f x) :=
  List.flatMap_assoc

theorem escapeChars_flatMap (cs : List Char) (f : Char → List Char) :
    escapeChars (cs.flatMap f) = cs.flatMap fun x => escapeChars (f x) := by
  simp only [escapeChars, entities, List.foldl_cons, List.foldl_nil, replaceChar_flatMap]

theorem mem_keys_iff {c : Char} :
    c ∈ entities.map (·.1) ↔ c = '&' ∨ c = '<' ∨ c = '>' ∨ c = '"' ∨ c = '\'' := by
  simp [entities]

theorem codeOf_of_notMem {table : List (Char × List Char)} {c : Char}
    (h : c ∉ table.map (·.1)) : codeOf table c = [c] := by
  rw [codeOf, List.lookup_eq_none_iff.2, Option.getD_none]
  intro row hrow
  exact bne_iff_ne.2 fun hc => h (List.mem_map.2 ⟨row, hrow, hc.symm⟩)

theorem exists_codeOf_of_mem {table : List (Char × List Char)} {c : Char}
    (h : c ∈ table.map (·.1)) :
    ∃ row ∈ table, row.1 = c ∧ codeOf table c = row.2 := by
  cases hlookup : table.lookup c with
  | none =>
    obtain ⟨row, hrow, rfl⟩ := List.mem_map.1 h
    exact absurd rfl (bne_iff_ne.1 (List.lookup_eq_none_iff.1 hlookup row hrow))
  | some code =>
    obtain ⟨before, after, rfl, -⟩ := List.lookup_eq_some_iff.1 hlookup
    exact ⟨(c, code), by simp, rfl, by rw [codeOf, hlookup, Option.getD_some]⟩

theorem entityOf_of_not_mem {c : Char} (h : c ∉ entities.map (·.1)) : entityOf c = [c] :=
  codeOf_of_notMem h

theorem escapeChars_singleton (c : Char) : escapeChars [c] = entityOf c := by
  by_cases h : c ∈ entities.map (·.1)
  · rcases mem_keys_iff.1 h with rfl | rfl | rfl | rfl | rfl <;> rfl
  · rw [entityOf_of_not_mem h]
    simp only [mem_keys_iff, not_or] at h
    obtain ⟨hamp, hlt, hgt, hquot, hapos⟩ := h
    simp [escapeChars, entities, replaceChar, hamp, hlt, hgt, hquot, hapos]

/-- Escaping writes each character as its entity or as itself. -/
theorem escapeChars_eq_flatMap (cs : List Char) : escapeChars cs = cs.flatMap entityOf := by
  have h := escapeChars_flatMap cs fun c => [c]
  rw [List.flatMap_singleton'] at h
  simpa only [escapeChars_singleton] using h

theorem not_delimiter_of_mem_entityOf {c x : Char} (h : x ∈ entityOf c) : x ∉ delimiters := by
  by_cases hc : c ∈ entities.map (·.1)
  · have plain : IsPlain (String.ofList (entityOf c)) := by
      rcases mem_keys_iff.1 hc with rfl | rfl | rfl | rfl | rfl <;> decide
    exact isPlain_ofList.1 plain x h
  · rw [entityOf_of_not_mem hc, List.mem_singleton] at h
    have keys : delimiters ⊆ entities.map (·.1) := by simp [delimiters, entities]
    exact fun hx => hc (keys (h ▸ hx))

theorem isPlain_escape (s : String) : IsPlain (escape s) := by
  unfold escape
  rw [isPlain_ofList, escapeChars_eq_flatMap]
  intro c hc
  obtain ⟨x, -, hx⟩ := List.mem_flatMap.1 hc
  exact not_delimiter_of_mem_entityOf hx

/-- Every ampersand in a text begins one of the entities. -/
def HasOnlyEntities (s : String) : Prop :=
  ∀ before after, s.toList = before ++ '&' :: after →
    ∃ entry ∈ entities, entry.2 <+: '&' :: after

theorem exists_entity {c : Char} (h : c ∈ entities.map (·.1)) :
    ∃ entry ∈ entities, entityOf c = entry.2 := by
  obtain ⟨entry, hentry, -, hcode⟩ := exists_codeOf_of_mem h
  exact ⟨entry, hentry, hcode⟩

/-- An ampersand stands only at the beginning of what a character is written as. -/
theorem entity_of_ampersand {c : Char} {before after : List Char}
    (h : entityOf c = before ++ '&' :: after) :
    before = [] ∧ ∃ entry ∈ entities, entry.2 = '&' :: after := by
  by_cases hc : c ∈ entities.map (·.1)
  · obtain ⟨entry, hentry, heq⟩ := exists_entity hc
    have tails : ∀ entry ∈ entities, '&' ∉ entry.2.tail := by decide
    rw [heq] at h
    cases before with
    | nil => exact ⟨rfl, entry, hentry, h⟩
    | cons x before =>
      refine absurd ?_ (tails entry hentry)
      rw [h]
      simp
  · rw [entityOf_of_not_mem hc] at h
    have hmem : '&' ∈ [c] := h ▸ (by simp)
    rw [← List.mem_singleton.1 hmem] at hc
    exact absurd (by decide) hc

theorem hasOnlyEntities_escape (s : String) : HasOnlyEntities (escape s) := by
  intro before after h
  rw [escape, String.toList_ofList, escapeChars_eq_flatMap] at h
  generalize s.toList = cs at h
  induction cs generalizing before with
  | nil => simp at h
  | cons c cs ih =>
    rw [List.flatMap_cons] at h
    rcases List.append_eq_append_iff.1 h with ⟨skipped, -, hrest⟩ | ⟨within, hc, hrest⟩
    · exact ih skipped hrest
    · cases within with
      | nil => exact ih [] hrest.symm
      | cons x within =>
        obtain ⟨rfl, rfl⟩ := List.cons.inj hrest
        obtain ⟨-, entry, hentry, heq⟩ := entity_of_ampersand hc
        refine ⟨entry, hentry, ?_⟩
        rw [heq]
        exact List.prefix_append _ _

/-! ## Numbers -/

theorem not_delimiter_of_isDigit {c : Char} (h : c.isDigit = true) : c ∉ delimiters := by
  have none : delimiters.all (fun d => !d.isDigit) = true := by decide
  intro hc
  have := List.all_eq_true.1 none c hc
  rw [h] at this
  cases this

theorem isPlain_digits (n : Nat) : IsPlain (String.ofList (Nat.toDigits 10 n)) :=
  isPlain_ofList.2 fun _ hc =>
    not_delimiter_of_isDigit (Nat.isDigit_of_mem_toDigits (by decide) (by decide) hc)

theorem isPlain_repr (n : Nat) : IsPlain n.repr := by
  rw [Nat.repr_eq_ofList_toDigits]
  exact isPlain_digits n

theorem isPlain_int (n : Int) : IsPlain (toString n) := by
  rw [Int.toString_eq_repr, Int.repr_eq_if]
  split_ifs
  · exact isPlain_repr _
  · exact isPlain_append (by decide) (isPlain_repr _)

theorem isPlain_pushn_zero (n : Nat) : IsPlain ("".pushn '0' n) := by
  rw [String.pushn_eq_repeat_push]
  induction n with
  | zero => decide
  | succ n ih =>
    rw [Nat.repeat, String.push_eq_append]
    exact isPlain_append ih (by decide)

theorem isPlain_padZeros {s : String} (h : IsPlain s) (width : Nat) : IsPlain (padZeros width s) :=
  isPlain_append (isPlain_pushn_zero _) h

theorem isPlain_trimZeros (n : Nat) :
    IsPlain (String.ofList (trimZeros (Nat.toDigits 10 n)).1) := by
  have hdigits := isPlain_ofList.1 (isPlain_digits n)
  refine isPlain_ofList.2 fun c hc => hdigits c ?_
  have hc := List.mem_reverse.1 hc
  exact List.mem_reverse.1 ((List.dropWhile_sublist _).mem hc)

theorem isPlain_positional {digits : String} (h : IsPlain digits) (exponent : Int) :
    IsPlain (NumberFormat.positional digits exponent) := by
  unfold NumberFormat.positional
  split_ifs
  · exact isPlain_append (isPlain_append (by decide) (isPlain_pushn_zero _)) h
  · have padded := isPlain_append h
      (isPlain_pushn_zero (exponent.toNat + 1 - digits.length))
    refine isPlain_append (isPlain_append (isPlain_take padded _) (by decide)) ?_
    split_ifs
    · decide
    · exact isPlain_drop padded _

theorem isPlain_scientific {digits : String} (h : IsPlain digits) (f : NumberFormat)
    (exponent : Int) : IsPlain (f.scientific digits exponent) := by
  unfold NumberFormat.scientific
  refine isPlain_append (isPlain_append (isPlain_append (isPlain_append ?_ ?_) (by decide)) ?_) ?_
  · exact isPlain_take h 1
  · split_ifs
    · decide
    · exact isPlain_append (by decide) (isPlain_drop h 1)
  · split_ifs <;> decide
  · exact isPlain_padZeros (isPlain_repr _) _

theorem isPlain_write (x : Binary64) : IsPlain (NumberFormat.plain.write x) := by
  have sign : IsPlain (if x.negative then "-" else "") := by split_ifs <;> decide
  have digits := isPlain_trimZeros x.shortest.1
  simp only [NumberFormat.write]
  generalize (if x.negative = true then "-" else "") = s at sign ⊢
  split_ifs
  · decide
  · exact isPlain_append sign (by decide)
  · exact isPlain_append sign (by decide)
  · exact isPlain_append sign (isPlain_positional digits _)
  · exact isPlain_append sign (isPlain_scientific digits _ _)

end EmailStudio.Text
