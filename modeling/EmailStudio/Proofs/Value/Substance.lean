import EmailStudio.Proofs.Outcome
import EmailStudio.Text.Blank
import EmailStudio.Value.Reader
import Mathlib.Algebra.BigOperators.Group.List.Basic
import Mathlib.Algebra.Order.Ring.Nat

/-!
# The substance of document text

Commas and blanks only stand between other characters. What is left without them is the substance of
a text. By `Value.size_le_of_read`, the text of a document has more substance than the texts that
the document is or lists together: escapes only make a text longer, and quotes and brackets come on
top. By `Value.exists_read_eq_error`, the substance of a document begins as one of its tokens does.
-/

namespace EmailStudio

namespace Text

/-- A character that is no comma and no blank. -/
def isSubstance (c : Char) : Bool :=
  c ≠ ',' && !isBlank c

/-- The characters of a text that are no commas and no blanks. -/
def substance (cs : List Char) : List Char :=
  cs.filter isSubstance

/-- How much substance a text has. -/
def size (cs : List Char) : Nat :=
  (substance cs).length

variable {c d : Char} {cs ds : List Char}

theorem substance_append (cs ds : List Char) :
    substance (cs ++ ds) = substance cs ++ substance ds :=
  List.filter_append ..

theorem substance_cons_of_not (h : isSubstance c = false) (cs : List Char) :
    substance (c :: cs) = substance cs :=
  List.filter_cons_of_neg (by rw [h]; exact Bool.false_ne_true)

theorem substance_reverse (cs : List Char) : substance cs.reverse = (substance cs).reverse :=
  List.filter_reverse ..

theorem size_reverse (cs : List Char) : size cs.reverse = size cs := by
  rw [size, substance_reverse, List.length_reverse, size]

theorem size_cons (h : isSubstance c = true) (cs : List Char) : size (c :: cs) = size cs + 1 := by
  rw [size, substance, List.filter_cons_of_pos h, List.length_cons, ← substance, ← size]

theorem size_cons_of_not (h : isSubstance c = false) (cs : List Char) :
    size (c :: cs) = size cs :=
  congrArg List.length (substance_cons_of_not h cs)

theorem size_cons_le (c : Char) (cs : List Char) : size (c :: cs) ≤ size cs + 1 := by
  cases h : isSubstance c with
  | true => exact Nat.le_of_eq (size_cons h cs)
  | false => exact Nat.le_succ_of_le (Nat.le_of_eq (size_cons_of_not h cs))

theorem size_le_of_sublist (h : cs.Sublist ds) : size cs ≤ size ds :=
  (h.filter _).length_le

theorem size_le_cons (c : Char) (cs : List Char) : size cs ≤ size (c :: cs) :=
  size_le_of_sublist (List.sublist_cons_self c cs)

/-- A character moved from one text to another. -/
theorem size_cons_add (c : Char) (cs ds : List Char) :
    size (c :: cs) + size ds = size cs + size (c :: ds) := by
  cases h : isSubstance c with
  | true => rw [size_cons h, size_cons h]; omega
  | false => rw [size_cons_of_not h, size_cons_of_not h]

theorem isSubstance_of_isSeparator {c : Char} (h : Token.isSeparator c = true) :
    isSubstance c = false := by
  simp only [Token.isSeparator, Bool.or_eq_true, decide_eq_true_eq] at h
  rcases h with ((rfl | rfl) | rfl) | rfl <;> decide

theorem not_isDigit_of_isBlank {c : Char} (h : isBlank c = true) : c.isDigit = false := by
  refine Bool.eq_false_iff.2 fun hdigit => ?_
  have hrange : 48 ≤ c.toNat ∧ c.toNat ≤ 57 := by
    simpa [Char.isDigit, UInt32.le_iff_toNat_le] using hdigit
  obtain ⟨⟨first, last⟩, hmem, hin⟩ := List.any_eq_true.1 h
  have houtside : ∀ range ∈ blankRanges, range.2 < 48 ∨ 57 < range.1 := by decide
  have houtside := houtside _ hmem
  simp only [Bool.and_eq_true, decide_eq_true_eq] at hin
  omega

end Text

open Text (isBlank isSubstance size size_cons size_le_cons size_le_of_sublist substance)

/-! ## Values -/

namespace Value

/-- How much substance a text in a list brings with it, its quotes counted once. -/
def itemSize : Value → Nat
  | text s => size s.toList + 1
  | _ => 0

/-- How much substance a text, or a list with the texts in it, brings with it. -/
def size : Value → Nat
  | list items => (items.map itemSize).sum + 1
  | v => v.itemSize

theorem itemSize_le (v : Value) : v.itemSize ≤ v.size := by
  cases v with
  | list items => exact Nat.zero_le _
  | _ => exact Nat.le_refl _

theorem size_list_reverse (items : List Value) :
    (list items.reverse).size = (items.map itemSize).sum + 1 := by
  rw [size, List.map_reverse, List.sum_reverse]

theorem size_text (s : String) : (text s).size = Text.size s.toList + 1 :=
  rfl

theorem size_object (fields : Fields) : (object fields).size = 0 :=
  rfl

end Value

/-! ## Tokens -/

namespace Token

/-- A character for an escape. -/
theorem size_escape_le {c : Char} {acc rest written : List Char} (h : rest.Sublist written) :
    size (c :: acc) + size rest ≤ size acc + size ('\\' :: written) := by
  have hchar := Text.size_cons_le c acc
  have hrest := size_le_of_sublist h
  have hescape : size ('\\' :: written) = size written + 1 := size_cons rfl written
  omega

/-- A text has no more substance than what it is written in, and its closing quote comes on top. -/
theorem size_scanText_le {start position next : Nat} {acc cs rest : List Char} {s : String}
    (h : scanText start acc position cs = .ok (s, next, rest)) :
    size s.toList + size rest + 1 ≤ size acc + size cs := by
  fun_induction scanText start acc position cs with
  | case2 acc position rest =>
    cases h
    rw [String.toList_ofList, Text.size_reverse, size_cons rfl rest]
    omega
  | case5 acc position a b c d e rest code hcode hhalf ih =>
    exact Nat.le_trans (ih h) (size_escape_le (List.sublist_append_right ['u', a, b, c, d] _))
  | case7 acc position a b c d e rest code hcode low hhalf ih =>
    have hrest := List.sublist_append_right ['u', a, b, c, d, e] rest
    exact Nat.le_trans (ih h) (size_escape_le ((List.drop_sublist 5 rest).trans hrest))
  | case9 acc position c rest _ _ e hescape ih =>
    exact Nat.le_trans (ih h) (size_escape_le (List.sublist_cons_self c rest))
  | case12 acc position c rest _ _ _ _ _ hcontrol ih =>
    exact Nat.le_trans (ih h) (Nat.le_of_eq (Text.size_cons_add c acc rest))
  | _ => cases h

/-! ### Scalars -/

/-- What is left behind a word or a number is a part of the text. -/
theorem sublist_scanWord {cs rest : List Char} {v : Value} (h : scanWord cs = some (v, rest)) :
    rest.Sublist cs := by
  obtain ⟨⟨word, w⟩, -, h⟩ := List.exists_of_findSome?_eq_some h
  dsimp only at h
  split_ifs at h
  cases h
  exact List.drop_sublist _ cs

theorem sublist_scanWhole {cs digits rest : List Char} (h : scanWhole cs = some (digits, rest)) :
    rest.Sublist cs := by
  unfold scanWhole at h
  split at h
  · cases h
    exact List.sublist_cons_self ..
  · split_ifs at h
    cases h
    exact (List.dropWhile_sublist _).cons _
  · cases h

theorem sublist_scanFraction (cs : List Char) : (scanFraction cs).2.Sublist cs := by
  unfold scanFraction
  split
  · split_ifs
    · exact ((List.dropWhile_sublist _).cons _).cons _
    · exact List.Sublist.refl _
  · exact List.Sublist.refl _

theorem sublist_scanExponent (cs : List Char) : (scanExponent cs).2.Sublist cs := by
  unfold scanExponent
  split
  · rename_i mark rest
    split_ifs
    · split
      rename_i negative digits hsign
      have hdigits : digits.Sublist rest := by
        split at hsign <;> cases hsign
        · exact List.sublist_cons_self ..
        · exact List.sublist_cons_self ..
        · exact List.Sublist.refl _
      split
      · exact List.Sublist.refl _
      · exact ((List.dropWhile_sublist _).trans hdigits).cons _
    · exact List.Sublist.refl _
  · exact List.Sublist.refl _

theorem sublist_scanNumber {cs rest : List Char} {v : Value} (h : scanNumber cs = some (v, rest)) :
    rest.Sublist cs := by
  unfold scanNumber at h
  split at h
  rename_i negative body hsign
  have hbody : body.Sublist cs := by
    split at hsign <;> cases hsign
    · exact List.sublist_cons_self ..
    · exact List.Sublist.refl _
  split at h
  · cases h
  · rename_i whole after hwhole
    have hfraction := (sublist_scanFraction after).trans ((sublist_scanWhole hwhole).trans hbody)
    have hexponent := (sublist_scanExponent (scanFraction after).2).trans hfraction
    dsimp only at h
    split_ifs at h <;> cases h <;> exact hexponent

theorem size_of_scanWord {cs rest : List Char} {v : Value} (h : scanWord cs = some (v, rest)) :
    v.size = 0 := by
  obtain ⟨⟨word, w⟩, hmem, h⟩ := List.exists_of_findSome?_eq_some h
  dsimp only at h
  split_ifs at h
  cases h
  have hsizes : ∀ entry ∈ words, entry.2.size = 0 := by decide +kernel
  exact hsizes _ hmem

theorem size_of_scanNumber {cs rest : List Char} {v : Value} (h : scanNumber cs = some (v, rest)) :
    v.size = 0 := by
  unfold scanNumber at h
  dsimp only at h
  split at h
  · cases h
  · split_ifs at h <;> cases h <;> rfl

/-! ### The next token -/

/-- How much substance of a text a token keeps. -/
def size : Token → Nat
  | text s => Text.size s.toList + 1
  | scalar v => v.size
  | openList => 1
  | _ => 0

theorem size_ofScalar {v : Value} (h : v.size = 0) (position : Nat) (written : List Char) :
    (ofScalar position written v).size = 0 := by
  unfold ofScalar
  split
  · dsimp only
    split_ifs <;> rfl
  · exact h

theorem size_mark_le {c : Char} {token : Token} (h : mark? c = some token) (rest : List Char) :
    token.size + Text.size rest ≤ Text.size (c :: rest) := by
  have hother : 0 + Text.size rest ≤ Text.size (c :: rest) := by
    rw [Nat.zero_add]
    exact size_le_cons c rest
  unfold mark? at h
  split at h <;> cases h
  · have hopen : Text.size ('[' :: rest) = Text.size rest + 1 := size_cons rfl rest
    rw [hopen, Nat.add_comm]
    exact Nat.le_refl _
  all_goals exact hother

/-- The next token keeps no more than what is taken of the text. -/
theorem size_next_le (position : Nat) (c : Char) (rest : List Char) :
    (next position c rest).1.size +
        ((next position c rest).2.map fun behind => Text.size behind.2).getD 0 ≤
      Text.size (c :: rest) := by
  unfold next
  split
  · rename_i token hmark
    exact size_mark_le hmark rest
  · split_ifs with hquote
    · subst hquote
      split
      · rename_i s next rest' hscan
        have hsize := size_scanText_le hscan
        have hopen : Text.size ('"' :: rest) = Text.size rest + 1 := size_cons rfl rest
        have hnone : Text.size [] = 0 := rfl
        show Text.size s.toList + 1 + Text.size rest' ≤ Text.size ('"' :: rest)
        omega
      · exact Nat.zero_le _
    · split
      · rename_i v rest' hscalar
        have hscalar : v.size = 0 ∧ rest'.Sublist (c :: rest) := by
          cases hword : scanWord (c :: rest) with
          | some found =>
            rw [hword] at hscalar
            cases hscalar
            exact ⟨size_of_scanWord hword, sublist_scanWord hword⟩
          | none =>
            rw [hword] at hscalar
            exact ⟨size_of_scanNumber hscalar, sublist_scanNumber hscalar⟩
        show (ofScalar _ _ v).size + Text.size rest' ≤ Text.size (c :: rest)
        rw [size_ofScalar hscalar.1, Nat.zero_add]
        exact size_le_of_sublist hscalar.2
      · exact Nat.zero_le _

end Token

/-! ## What is read -/

/-- How much substance some tokens keep. -/
def sizeOfTokens (tokens : List Placed) : Nat :=
  (tokens.map (·.token.size)).sum

theorem sizeOfTokens_cons (token : Token) (position : Nat) (tokens : List Placed) :
    sizeOfTokens (⟨token, position⟩ :: tokens) = token.size + sizeOfTokens tokens :=
  rfl

theorem sizeOfTokens_reverse (tokens : List Placed) :
    sizeOfTokens tokens.reverse = sizeOfTokens tokens := by
  rw [sizeOfTokens, List.map_reverse, List.sum_reverse, sizeOfTokens]

theorem size_tokensFrom_le (before : List Placed) (position fuel : Nat) (cs : List Char) :
    sizeOfTokens (tokensFrom before position fuel cs) ≤ sizeOfTokens before + size cs := by
  fun_induction tokensFrom before position fuel cs with
  | case1 fuel before position => rw [sizeOfTokens_reverse]; exact Nat.le_of_eq (Nat.zero_add _)
  | case2 before position cs => rw [sizeOfTokens_reverse]; exact Nat.le_add_right ..
  | case3 before position fuel c rest hblank ih =>
    exact Nat.le_trans ih (Nat.add_le_add_left (size_le_cons c rest) _)
  | case4 before position fuel c rest hblank token position' rest' hnext ih =>
    have hsize := Token.size_next_le position c rest
    rw [hnext] at hsize
    have hsize : token.size + size rest' ≤ size (c :: rest) := hsize
    rw [sizeOfTokens_cons] at ih
    omega
  | case5 before position fuel c rest hblank token hnext =>
    have hsize := Token.size_next_le position c rest
    rw [hnext] at hsize
    have hsize : token.size + 0 ≤ size (c :: rest) := hsize
    rw [sizeOfTokens_reverse, sizeOfTokens_cons]
    omega

theorem size_tokens_le (cs : List Char) : sizeOfTokens (tokens cs) ≤ size cs :=
  Nat.le_trans (size_tokensFrom_le [] 0 cs.length cs) (Nat.le_of_eq (Nat.zero_add _))

/-- What lists that are open have taken up. -/
def OpenValue.size : OpenValue → Nat
  | list items => (items.map Value.itemSize).sum + 1
  | object _ _ => 0

/-- What a value that was just read has taken up. -/
def Expecting.size : Expecting → Nat
  | after v => v.size
  | _ => 0

def sizeOfStack (stack : List OpenValue) : Nat :=
  (stack.map (·.size)).sum

theorem sizeOfStack_cons (opened : OpenValue) (stack : List OpenValue) :
    sizeOfStack (opened :: stack) = opened.size + sizeOfStack stack :=
  rfl

namespace Value

/-- Each token that is read on hands what it keeps to the lists that are open, and in the end to the
document. -/
theorem size_ofTokens_le {stack : List OpenValue} {expecting : Expecting} {tokens : List Placed}
    {v : Value} (h : ofTokens stack expecting tokens = .ok v) :
    v.size ≤ sizeOfStack stack + expecting.size + sizeOfTokens tokens := by
  -- Only where a value enters a list, it is counted as an item of it from then on.
  fun_induction ofTokens stack expecting tokens with
  | case17 =>
    cases h
    simp only [sizeOfStack, Expecting.size, List.map_nil, List.sum_nil]
    omega
  | case7 position rest items stack ih | case12 stack position rest fields ih
  | case2 stack position rest mayClose w ih | case3 stack position rest mayClose s ih
  | case4 stack position rest mayClose ih | case5 stack position rest mayClose ih
  | case10 stack position rest fields mayClose s ih | case15 stack position rest fields name ih
  | case22 position rest w fields name stack ih | case23 position rest w fields name stack ih =>
    have ih := ih h
    simp only [sizeOfStack_cons, sizeOfTokens_cons, OpenValue.size, Expecting.size, Token.size,
      size_list_reverse, size_text, size_object, List.map_nil, List.sum_nil] at ih ⊢
    omega
  | case19 position rest w items stack ih | case20 position rest w items stack ih =>
    have ih := ih h
    have hitem := w.itemSize_le
    simp only [sizeOfStack_cons, sizeOfTokens_cons, OpenValue.size, Expecting.size, Token.size,
      size_list_reverse, List.map_cons, List.sum_cons] at ih ⊢
    omega
  | _ => cases h

/-- A document has less substance than its text. -/
theorem size_le_of_read {cs : List Char} {v : Value} (h : read cs = .ok v) :
    v.size ≤ Text.size cs := by
  unfold read at h
  split at h
  · cases h
  · have hsize := size_ofTokens_le h
    have htokens := size_tokens_le cs
    have hstart : sizeOfStack [] + (Expecting.value false).size = 0 := rfl
    omega

end Value

/-! ## How a document begins -/

namespace Token

/-- The characters that begin a token, the digits apart. -/
def starts : List Char :=
  ['[', ']', '\x7b', '\x7d', ',', ':', '"', 'n', 't', 'f', 'N', 'I', '-']

theorem notMem_starts_of_isBlank {c : Char} (h : isBlank c = true) : c ∉ starts := by
  have hstarts : starts.all (fun d => !isBlank d) = true := by decide
  intro hc
  have hc := List.all_eq_true.1 hstarts c hc
  rw [h] at hc
  cases hc

theorem scanWord_eq_none {c : Char} (h : c ∉ starts) (rest : List Char) :
    scanWord (c :: rest) = none := by
  have hstarts : words.all (fun entry => entry.1.head?.any (starts.contains ·)) = true := by
    decide +kernel
  refine List.findSome?_eq_none_iff.2 fun entry hentry => if_neg fun hbegins => ?_
  obtain ⟨d, hhead, hd⟩ :=
    (Option.any_eq_true _ _).1 (List.all_eq_true.1 hstarts entry hentry)
  obtain ⟨tail, htail⟩ := List.head?_eq_some_iff.1 hhead
  rw [htail, List.isPrefixOf_cons_cons, Bool.and_eq_true, beq_iff_eq] at hbegins
  exact h (hbegins.1 ▸ List.contains_iff_mem.1 hd)

theorem scanNumber_eq_none {c : Char} (h : c ∉ starts) (hdigit : c.isDigit = false)
    (rest : List Char) : scanNumber (c :: rest) = none := by
  have hminus : c ≠ '-' := fun heq => h (heq ▸ by decide)
  have hzero : c ≠ '0' := fun heq => absurd hdigit (heq ▸ by decide)
  have hwhole : scanWhole (c :: rest) = none := by
    unfold scanWhole
    split
    · rename_i heq
      exact absurd (List.cons.inj heq).1 hzero
    · rename_i heq
      rw [← (List.cons.inj heq).1, if_neg (Bool.eq_false_iff.1 hdigit)]
    · rfl
  unfold scanNumber
  split
  rename_i negative body hsign
  split at hsign
  · rename_i heq
    exact absurd (List.cons.inj heq).1 hminus
  · cases hsign
    rw [hwhole]

theorem next_eq_unknown {c : Char} (h : c ∉ starts) (hdigit : c.isDigit = false) (position : Nat)
    (rest : List Char) : next position c rest = (.unknown, none) := by
  have hmark : mark? c = none := by
    unfold mark?
    split <;> first | rfl | exact absurd (by decide) h
  have hquote : c ≠ '"' := fun heq => h (heq ▸ by decide)
  rw [next, hmark]
  simp only [if_neg hquote, scanWord_eq_none h, scanNumber_eq_none h hdigit, Option.none_or]

end Token

theorem exists_tokensFrom_eq_append (before : List Placed) (position fuel : Nat)
    (cs : List Char) :
    ∃ later, tokensFrom before position fuel cs = before.reverse ++ later := by
  fun_induction tokensFrom before position fuel cs with
  | case1 fuel before position => exact ⟨_, List.reverse_cons⟩
  | case2 before position cs => exact ⟨[], (List.append_nil _).symm⟩
  | case3 before position fuel c rest hblank ih => exact ih
  | case4 before position fuel c rest hblank token position' rest' hnext ih =>
    obtain ⟨later, hlater⟩ := ih
    exact ⟨_, by rw [hlater, List.reverse_cons, List.append_assoc]⟩
  | case5 before position fuel c rest hblank token hnext => exact ⟨_, List.reverse_cons⟩

/-- If the first character of the substance begins no token, then the first token is a comma, or
none that can be read. -/
theorem tokensFrom_eq_cons {c : Char} {more cs : List Char} (hsubstance : substance cs = c :: more)
    (hstart : c ∉ Token.starts) (hdigit : c.isDigit = false) {fuel : Nat}
    (hfuel : cs.length ≤ fuel) (position : Nat) :
    ∃ token place later, tokensFrom [] position fuel cs = ⟨token, place⟩ :: later ∧
      (token = .comma ∨ token = .unknown) := by
  induction cs generalizing fuel position with
  | nil => cases hsubstance
  | cons d rest ih =>
    obtain ⟨fuel, rfl⟩ := Nat.exists_eq_add_one_of_ne_zero (Nat.ne_zero_of_lt hfuel)
    rw [tokensFrom]
    split_ifs with hseparator
    · rw [Text.substance_cons_of_not (Text.isSubstance_of_isSeparator hseparator)] at hsubstance
      exact ih hsubstance (Nat.le_of_succ_le_succ hfuel) (position + 1)
    · by_cases hcomma : d = ','
      · subst hcomma
        obtain ⟨later, hlater⟩ :=
          exists_tokensFrom_eq_append [⟨.comma, position⟩] (position + 1) fuel rest
        exact ⟨.comma, position, later, hlater, .inl rfl⟩
      · have hunknown : Token.next position d rest = (.unknown, none) := by
          cases hd : isSubstance d with
          | true =>
            rw [substance, List.filter_cons_of_pos hd] at hsubstance
            rw [(List.cons.inj hsubstance).1]
            exact Token.next_eq_unknown hstart hdigit position rest
          | false =>
            have hblank : isBlank d = true := by simpa [isSubstance, hcomma] using hd
            exact Token.next_eq_unknown (Token.notMem_starts_of_isBlank hblank)
              (Text.not_isDigit_of_isBlank hblank) position rest
        rw [hunknown]
        exact ⟨.unknown, position, [], rfl, .inr rfl⟩

/-- A document does not begin with a character that begins no token. -/
theorem Value.exists_read_eq_error {c : Char} {more cs : List Char}
    (hsubstance : substance cs = c :: more) (hstart : c ∉ Token.starts)
    (hdigit : c.isDigit = false) : ∃ fault, read cs = .error fault := by
  unfold read
  split
  · exact ⟨_, rfl⟩
  · obtain ⟨token, place, later, htokens, rfl | rfl⟩ :=
      tokensFrom_eq_cons hsubstance hstart hdigit (Nat.le_refl _) 0
    · exact ⟨⟨.expectedValue, place⟩, by simp only [tokens, htokens, ofTokens]⟩
    · exact ⟨⟨.expectedValue, place⟩, by simp only [tokens, htokens, ofTokens]⟩

end EmailStudio
