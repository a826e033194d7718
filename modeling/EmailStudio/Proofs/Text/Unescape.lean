import EmailStudio.Markup.Padding
import EmailStudio.Proofs.Text.Escape
import Mathlib.Data.List.Induction

/-!
# Escaping and back

Each of the five replacements of escaping is undone by one of unescaping, the last one first. What
makes this exact is that entities can be told apart wherever they stand: each begins with an
ampersand and holds no other, none begins another, and an ampersand that is no beginning of an
entity has become one itself before anything else was replaced.

`replaceAll_flatMap_codeOf` undoes one replacement in a text where the characters of the first rows
of the table stand as entities. The main result is `escape_exact`.
-/

namespace EmailStudio.Text

/-! ## Replacing a pattern -/

section Replacing

variable {pattern replacement : List Char}

theorem replaceFrom_append (pattern replacement skipped rest : List Char) :
    replaceFrom pattern replacement skipped.length (skipped ++ rest) =
      replaceAll pattern replacement rest := by
  induction skipped with
  | nil => rfl
  | cons c skipped ih => exact ih

theorem replaceAll_pattern (h : pattern ≠ []) (rest : List Char) :
    replaceAll pattern replacement (pattern ++ rest) =
      replacement ++ replaceAll pattern replacement rest := by
  obtain ⟨c, tail, rfl⟩ := List.exists_cons_of_ne_nil h
  have occurs : (c :: tail).isPrefixOf (c :: (tail ++ rest)) = true :=
    List.isPrefixOf_iff_prefix.2 (List.prefix_append (c :: tail) rest)
  rw [replaceAll, List.cons_append, replaceFrom, if_pos occurs, List.length_cons,
    Nat.add_sub_cancel, replaceFrom_append]

theorem replaceAll_cons_of_not_begins {c : Char} {rest : List Char}
    (h : ¬pattern <+: c :: rest) :
    replaceAll pattern replacement (c :: rest) = c :: replaceAll pattern replacement rest := by
  rw [replaceAll, replaceFrom, if_neg (mt List.isPrefixOf_iff_prefix.1 h), replaceAll]

/-- Nothing is replaced where the first character of the pattern is missing. -/
theorem replaceAll_append_of_notMem {first : Char} {tail passed : List Char}
    (h : first ∉ passed) (rest : List Char) :
    replaceAll (first :: tail) replacement (passed ++ rest) =
      passed ++ replaceAll (first :: tail) replacement rest := by
  induction passed with
  | nil => rfl
  | cons c passed ih =>
    obtain ⟨hc, h⟩ := not_or.1 (mt List.mem_cons.2 h)
    have absent : ¬first :: tail <+: c :: (passed ++ rest) := fun hp =>
      hc (List.cons_prefix_cons.1 hp).1
    rw [List.cons_append, replaceAll_cons_of_not_begins absent, ih h, List.cons_append]

end Replacing

/-! ## The table of entities -/

variable {table : List (Char × List Char)} {entry : Char × List Char} {c : Char}

theorem ampersand_of_mem (h : entry ∈ entities) :
    ∃ tail, entry.2 = '&' :: tail ∧ '&' ∉ tail := by
  have all : ∀ entry ∈ entities, entry.2 = '&' :: entry.2.tail ∧ '&' ∉ entry.2.tail := by decide
  exact ⟨entry.2.tail, all entry h⟩

/-- No entity begins another. -/
theorem eq_of_begins {other : Char × List Char} (h : entry ∈ entities) (ho : other ∈ entities)
    (hp : entry.2 <+: other.2) : entry = other := by
  have all : ∀ entry ∈ entities, ∀ other ∈ entities, entry.2 <+: other.2 → entry = other := by
    decide
  exact all entry h other ho hp

/-- A new row at the end of the table is only for its own character. -/
theorem codeOf_append_of_ne (h : c ≠ entry.1) :
    codeOf (table ++ [entry]) c = codeOf table c := by
  have hnone : [entry].lookup c = none := List.lookup_eq_none_iff.2 fun row hrow => by
    rw [List.mem_singleton.1 hrow]
    exact bne_iff_ne.2 h
  rw [codeOf, codeOf, List.lookup_append, hnone, Option.or_none]

theorem codeOf_append_self (h : entry.1 ∉ table.map (·.1)) :
    codeOf (table ++ [entry]) entry.1 = entry.2 := by
  have hnone : table.lookup entry.1 = none := List.lookup_eq_none_iff.2 fun row hrow =>
    bne_iff_ne.2 fun hc => h (List.mem_map.2 ⟨row, hrow, hc.symm⟩)
  rw [codeOf, List.lookup_append, hnone, Option.none_or, List.lookup_cons_self, Option.getD_some]

/-- The ampersand comes first, so every part of the table that has a row has one for it. -/
theorem ampersand_mem_keys (h : table ++ [entry] <+: entities) :
    '&' ∈ (table ++ [entry]).map (·.1) := by
  cases table with
  | nil =>
    obtain ⟨rfl, -⟩ := List.cons_prefix_cons.1 h
    exact List.mem_cons_self
  | cons row table =>
    obtain ⟨rfl, -⟩ := List.cons_prefix_cons.1 h
    exact List.mem_cons_self

/-! ## Undoing one replacement -/

/-- An entity is not found at the beginning of what another character is written as. -/
theorem not_prefix_codeOf (h : table ++ [entry] <+: entities) (hc : c ≠ entry.1)
    (rest : List Char) : ¬entry.2 <+: codeOf table c ++ rest := by
  have hentry : entry ∈ entities := h.subset (by simp)
  intro hp
  by_cases hmem : c ∈ table.map (·.1)
  · obtain ⟨row, hrow, rfl, hcode⟩ := exists_codeOf_of_mem hmem
    have hrow : row ∈ entities := h.subset (List.mem_append_left _ hrow)
    rw [hcode] at hp
    rcases List.prefix_or_prefix_of_prefix hp (List.prefix_append row.2 rest) with hle | hle
    · exact hc (congrArg Prod.fst (eq_of_begins hentry hrow hle)).symm
    · exact hc (congrArg Prod.fst (eq_of_begins hrow hentry hle))
  · obtain ⟨tail, htail, -⟩ := ampersand_of_mem hentry
    rw [codeOf_of_notMem hmem, htail] at hp
    have hamp : '&' = c := (List.cons_prefix_cons.1 hp).1
    have hkeys := ampersand_mem_keys h
    rw [List.map_append, List.mem_append, hamp] at hkeys
    rcases hkeys with hkeys | hkeys
    · exact hmem hkeys
    · exact hc (List.mem_singleton.1 hkeys)

/-- Nor is it found later in it. -/
theorem exists_cons_codeOf (h : table <+: entities) (c : Char) :
    ∃ first tail, codeOf table c = first :: tail ∧ '&' ∉ tail := by
  by_cases hmem : c ∈ table.map (·.1)
  · obtain ⟨row, hrow, -, hcode⟩ := exists_codeOf_of_mem hmem
    obtain ⟨tail, htail, hamp⟩ := ampersand_of_mem (h.subset hrow)
    exact ⟨'&', tail, hcode.trans htail, hamp⟩
  · exact ⟨c, [], codeOf_of_notMem hmem, List.not_mem_nil⟩

/-- To replace the entity of the last row is to write its character as it is. -/
theorem replaceAll_flatMap_codeOf (h : table ++ [entry] <+: entities) (cs : List Char) :
    replaceAll entry.2 [entry.1] (cs.flatMap (codeOf (table ++ [entry]))) =
      cs.flatMap (codeOf table) := by
  have hentry : entry ∈ entities := h.subset (by simp)
  obtain ⟨tail, htail, -⟩ := ampersand_of_mem hentry
  have hfresh : entry.1 ∉ table.map (·.1) := by
    have nodup : (entities.map (·.1)).Nodup := by decide
    have hkeys := (h.map (·.1)).sublist.nodup nodup
    rw [List.map_append, List.map_singleton] at hkeys
    exact fun hmem => (List.nodup_append.1 hkeys).2.2 _ hmem _ (List.mem_singleton_self _) rfl
  induction cs with
  | nil => rfl
  | cons c cs ih =>
    rw [List.flatMap_cons, List.flatMap_cons]
    by_cases hc : c = entry.1
    · have hne : entry.2 ≠ [] := htail ▸ List.cons_ne_nil _ _
      rw [hc, codeOf_append_self hfresh, codeOf_of_notMem hfresh, replaceAll_pattern hne, ih]
    · rw [codeOf_append_of_ne hc]
      obtain ⟨first, rest, hcode, hamp⟩ :=
        exists_cons_codeOf ((List.prefix_append table [entry]).trans h) c
      have hstart := not_prefix_codeOf h hc (cs.flatMap (codeOf (table ++ [entry])))
      rw [hcode, List.cons_append] at hstart ⊢
      rw [replaceAll_cons_of_not_begins hstart, htail, replaceAll_append_of_notMem hamp, ← htail,
        ih, List.cons_append]

/-! ## Undoing all of them -/

theorem foldl_replaceAll_flatMap_codeOf (h : table <+: entities) (cs : List Char) :
    table.reverse.foldl (fun acc (c, entity) => replaceAll entity [c] acc)
      (cs.flatMap (codeOf table)) = cs := by
  induction table using List.reverseRecOn with
  | nil => exact List.flatMap_singleton' cs
  | append_singleton table entry ih =>
    rw [List.reverse_append, List.reverse_singleton, List.singleton_append, List.foldl_cons]
    obtain ⟨c, entity⟩ := entry
    dsimp only
    rw [replaceAll_flatMap_codeOf h]
    exact ih ((List.prefix_append table [(c, entity)]).trans h)

theorem unescapeChars_escapeChars (cs : List Char) : unescapeChars (escapeChars cs) = cs := by
  rw [escapeChars_eq_flatMap]
  exact foldl_replaceAll_flatMap_codeOf List.prefix_rfl cs

theorem toList_escape (s : String) : (escape s).toList = s.toList.flatMap entityOf := by
  rw [escape, String.toList_ofList, escapeChars_eq_flatMap]

theorem escape_append (s t : String) : escape (s ++ t) = escape s ++ escape t := by
  apply String.toList_injective
  simp only [String.toList_append, toList_escape, List.flatMap_append]

theorem unescape_escape (s : String) : unescape (escape s) = s := by
  rw [unescape, escape, String.toList_ofList, unescapeChars_escapeChars, String.ofList_toList]

theorem escaped_text (s : String) : (Value.text s).escaped = .ok (escape s) := by
  by_cases hs : s = ""
  · rw [hs]
    rfl
  · rw [Value.escaped, if_pos (by simpa [Value.truthy] using hs)]

/-- In markup, a text is written character by character, each as its entity or as itself, so that
the parts of a text are written one after the other. What is written has no angle bracket and no
quote, and with its entities resolved it is the text again, also a text that looks as if it were
escaped already. -/
theorem escape_exact (s : String) :
    (Value.text s).escaped = .ok (escape s) ∧
      (escape s).toList = s.toList.flatMap entityOf ∧
      (∀ t, escape (s ++ t) = escape s ++ escape t) ∧
      IsPlain (escape s) ∧
      (Value.text (escape s)).unescaped = .ok s :=
  ⟨escaped_text s, toList_escape s, escape_append s, isPlain_escape s,
    congrArg Except.ok (unescape_escape s)⟩

example : escape "&lt; &amp;#039; '" = "&amp;lt; &amp;amp;#039; &#039;" := by decide

end EmailStudio.Text
