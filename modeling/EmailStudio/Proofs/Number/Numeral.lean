import EmailStudio.Proofs.Number.Digits
import EmailStudio.Proofs.Number.Shortest
import Mathlib.Tactic.Ring

/-!
# Numerals

What the text of a number says, read as anyone would read it: digits, perhaps a point among them,
and perhaps an exponent. By `Numeral.value?_write`, the text that a number is written as says its
shortest decimal, whichever of the two forms it has.
-/

namespace EmailStudio.Numeral

/-- What digits count, if there are some and nothing else. -/
def digits? (cs : List Char) : Option ℕ :=
  if !cs.isEmpty && cs.all Char.isDigit then some (Nat.ofDigitChars 10 cs 0) else none

/-- The exponent behind a mantissa. -/
def exponent? : List Char → Option ℤ
  | [] => some 0
  | 'e' :: '-' :: cs => (digits? cs).map fun (n : ℕ) => -(n : ℤ)
  | 'e' :: '+' :: cs => (digits? cs).map fun (n : ℕ) => (n : ℤ)
  | _ => none

/-- The exact value of a numeral without a sign. -/
def value? (s : String) : Option ℚ := do
  let mantissa := s.toList.takeWhile (· ≠ 'e')
  let whole := mantissa.takeWhile (· ≠ '.')
  let fraction := (mantissa.drop whole.length).drop 1
  let n ← digits? (whole ++ fraction)
  let exponent ← exponent? (s.toList.drop mantissa.length)
  return n * 10 ^ (exponent - fraction.length)

/-! ## Reading a numeral by its parts -/

theorem digits?_eq {cs : List Char} (hne : cs ≠ []) (hdigits : ∀ c ∈ cs, c.isDigit) :
    digits? cs = some (Nat.ofDigitChars 10 cs 0) := by
  have hall : cs.all Char.isDigit := List.all_eq_true.2 hdigits
  have hnonempty : cs.isEmpty = false := List.isEmpty_eq_false_iff.2 hne
  rw [digits?, hall, hnonempty]
  rfl

theorem isDigit_ne {c stop : Char} (hc : c.isDigit) (hstop : stop.isDigit = false) : c ≠ stop := by
  rintro rfl
  exact Bool.noConfusion (hc.symm.trans hstop)

/-- A numeral falls into the digits before the point, the point with the digits behind it, and the
exponent. -/
structure Parts (s : String) (whole point fraction tail : List Char) (exponent : ℤ) : Prop where
  split : s.toList = whole ++ point ++ tail
  isPoint : point = [] ∧ fraction = [] ∨ point = '.' :: fraction
  nonempty : whole ++ fraction ≠ []
  digits : ∀ c ∈ whole ++ fraction, c.isDigit
  ends : tail.takeWhile (· ≠ 'e') = []
  isExponent : exponent? tail = some exponent

namespace Parts

variable {s : String} {whole point fraction tail : List Char} {exponent : ℤ}

theorem takeWhile_whole (h : Parts s whole point fraction tail exponent) :
    (whole ++ point).takeWhile (· ≠ '.') = whole := by
  have hwhole : ∀ c ∈ whole, decide (c ≠ '.') = true := fun c hc =>
    decide_eq_true (isDigit_ne (h.digits c (List.mem_append_left _ hc)) rfl)
  rw [List.takeWhile_append_of_pos hwhole]
  rcases h.isPoint with ⟨rfl, -⟩ | rfl
  · exact List.append_nil whole
  · rw [List.takeWhile_cons_of_neg (by decide), List.append_nil]

theorem takeWhile_mantissa (h : Parts s whole point fraction tail exponent) :
    s.toList.takeWhile (· ≠ 'e') = whole ++ point := by
  have hmantissa : ∀ c ∈ whole ++ point, decide (c ≠ 'e') = true := by
    intro c hc
    apply decide_eq_true
    rcases List.mem_append.1 hc with hc | hc
    · exact isDigit_ne (h.digits c (List.mem_append_left _ hc)) rfl
    rcases h.isPoint with ⟨rfl, -⟩ | rfl
    · exact absurd hc List.not_mem_nil
    rcases List.mem_cons.1 hc with rfl | hc
    · decide
    · exact isDigit_ne (h.digits c (List.mem_append_right _ hc)) rfl
  rw [h.split, List.takeWhile_append_of_pos hmantissa, h.ends, List.append_nil]

theorem value?_eq (h : Parts s whole point fraction tail exponent) :
    value? s = some ((Nat.ofDigitChars 10 (whole ++ fraction) 0 : ℚ) *
      10 ^ (exponent - fraction.length)) := by
  have hfraction : ((whole ++ point).drop whole.length).drop 1 = fraction := by
    rw [List.drop_left]
    rcases h.isPoint with ⟨rfl, rfl⟩ | rfl <;> rfl
  have htail : s.toList.drop (whole ++ point).length = tail := by
    rw [h.split, List.drop_left]
  simp only [value?, h.takeWhile_mantissa, h.takeWhile_whole, hfraction, htail,
    digits?_eq h.nonempty h.digits, h.isExponent, Option.bind_eq_bind, Option.bind_some]
  rfl

theorem of_point (hs : s.toList = whole ++ '.' :: fraction)
    (hdigits : ∀ c ∈ whole ++ fraction, c.isDigit) (hne : whole ++ fraction ≠ []) :
    Parts s whole ('.' :: fraction) fraction [] 0 where
  split := hs.trans (List.append_nil _).symm
  isPoint := .inr rfl
  nonempty := hne
  digits := hdigits
  ends := rfl
  isExponent := rfl

end Parts

/-- The digits of a natural number are a numeral. -/
theorem value?_natCast (n : ℕ) : value? (toString n) = some (n : ℚ) := by
  have hparts : Parts (toString n) (Nat.toDigits 10 n) [] [] [] 0 := by
    constructor
    · rw [Nat.toString_eq_repr, Nat.toList_repr, List.append_nil, List.append_nil]
    · exact .inl ⟨rfl, rfl⟩
    · rw [List.append_nil]
      exact Nat.toDigits_ne_nil
    · intro c hc
      rw [List.append_nil] at hc
      exact Nat.isDigit_of_mem_toDigits (by decide) (by decide) hc
    · rfl
    · rfl
  rw [hparts.value?_eq, List.append_nil, Nat.ofDigitChars_ten_toDigits]
  norm_num

/-! ## The two forms -/

section Forms

variable {kept : List Char}

theorem isEmpty_ofList {cs : List Char} (hne : cs ≠ []) : (String.ofList cs).isEmpty = false := by
  rw [String.isEmpty_eq_false_iff, Ne, ← String.toList_inj, String.toList_ofList]
  exact hne

theorem isDigit_replicate_zero {n : ℕ} {c : Char} (hc : c ∈ List.replicate n '0') : c.isDigit := by
  rw [List.eq_of_mem_replicate hc]
  rfl

/-- Digits behind a point and zeros. -/
theorem value?_below_one (hdigits : ∀ c ∈ kept, c.isDigit) (n : ℕ) :
    value? ("0." ++ "".pushn '0' n ++ String.ofList kept) =
      some ((Nat.ofDigitChars 10 kept 0 : ℚ) * 10 ^ (-(n : ℤ) - kept.length)) := by
  have hzeros : '0' :: (List.replicate n '0' ++ kept) = List.replicate (n + 1) '0' ++ kept := rfl
  have hparts : Parts ("0." ++ "".pushn '0' n ++ String.ofList kept) ['0']
      ('.' :: (List.replicate n '0' ++ kept)) (List.replicate n '0' ++ kept) [] 0 := by
    refine .of_point ?_ ?_ (List.cons_ne_nil _ _)
    · simp [toList_pushn_zero]
    · intro c hc
      rw [List.singleton_append, hzeros] at hc
      rcases List.mem_append.1 hc with hc | hc
      · exact isDigit_replicate_zero hc
      · exact hdigits c hc
  rw [hparts.value?_eq, List.singleton_append, hzeros, ofDigitChars_zeros_append,
    List.length_append, List.length_replicate]
  congr 3
  omega

/-- Digits with zeros up to the point, and a zero behind it. -/
theorem value?_whole (hdigits : ∀ c ∈ kept, c.isDigit) (n : ℕ) :
    value? (String.ofList (kept ++ List.replicate n '0') ++ "." ++ "0") =
      some ((Nat.ofDigitChars 10 kept 0 : ℚ) * 10 ^ n) := by
  have hzeros : kept ++ List.replicate n '0' ++ ['0'] = kept ++ List.replicate (n + 1) '0' := by
    rw [List.replicate_succ', List.append_assoc]
  have hparts : Parts (String.ofList (kept ++ List.replicate n '0') ++ "." ++ "0")
      (kept ++ List.replicate n '0') ['.', '0'] ['0'] [] 0 := by
    refine .of_point ?_ ?_ (by simp)
    · simp
    · intro c hc
      rw [hzeros] at hc
      rcases List.mem_append.1 hc with hc | hc
      · exact hdigits c hc
      · exact isDigit_replicate_zero hc
  rw [hparts.value?_eq, hzeros, ofDigitChars_append_zeros]
  rw [List.length_singleton, Nat.cast_one, zero_sub, zpow_neg_one]
  congr 1
  push_cast
  ring

/-- Digits with the point between them. -/
theorem value?_between (hne : kept ≠ []) (hdigits : ∀ c ∈ kept, c.isDigit) (n : ℕ) :
    value? (String.ofList (kept.take n) ++ "." ++ String.ofList (kept.drop n)) =
      some ((Nat.ofDigitChars 10 kept 0 : ℚ) * 10 ^ (-((kept.length - n : ℕ) : ℤ))) := by
  have hkept : kept.take n ++ kept.drop n = kept := List.take_append_drop n kept
  have hparts : Parts (String.ofList (kept.take n) ++ "." ++ String.ofList (kept.drop n))
      (kept.take n) ('.' :: kept.drop n) (kept.drop n) [] 0 := by
    refine .of_point ?_ ?_ ?_
    · simp
    · rwa [hkept]
    · rwa [hkept]
  rw [hparts.value?_eq, hkept, List.length_drop, zero_sub]

/-- The positional form says the digits with the point behind the leading one, moved. -/
theorem value?_positional (hne : kept ≠ []) (hdigits : ∀ c ∈ kept, c.isDigit) (exponent : ℤ) :
    value? (NumberFormat.positional (String.ofList kept) exponent) =
      some ((Nat.ofDigitChars 10 kept 0 : ℚ) * 10 ^ (exponent + 1 - kept.length)) := by
  have hpos : 0 < kept.length := List.length_pos_iff.2 hne
  unfold NumberFormat.positional
  by_cases hexponent : exponent < 0
  · rw [if_pos hexponent, value?_below_one hdigits]
    congr 3
    omega
  · rw [if_neg hexponent]
    dsimp only
    have hlength : (String.ofList kept).length = kept.length := String.length_ofList
    rw [hlength, String.toList_append, String.toList_ofList, toList_pushn_zero]
    by_cases hfits : kept.length ≤ exponent.toNat + 1
    · have hpadded : (kept ++ List.replicate (exponent.toNat + 1 - kept.length) '0').length =
          exponent.toNat + 1 := by
        rw [List.length_append, List.length_replicate]
        omega
      rw [List.take_of_length_le hpadded.le, List.drop_eq_nil_of_le hpadded.le]
      have hvalue := value?_whole hdigits (exponent.toNat + 1 - kept.length)
      rw [← zpow_natCast] at hvalue
      have hplaces : ((exponent.toNat + 1 - kept.length : ℕ) : ℤ) = exponent + 1 - kept.length := by
        omega
      rwa [hplaces] at hvalue
    · have hnone : exponent.toNat + 1 - kept.length = 0 := by omega
      rw [hnone, List.replicate_zero, List.append_nil]
      have hplaces : kept.drop (exponent.toNat + 1) ≠ [] := by
        rw [Ne, List.drop_eq_nil_iff]
        exact hfits
      rw [isEmpty_ofList hplaces, if_neg Bool.false_ne_true, value?_between hne hdigits]
      congr 3
      omega

theorem digits?_padZeros (width n : ℕ) :
    digits? (padZeros width (toString n)).toList = some n := by
  have hcount := ofDigitChars_padZeros width n
  rw [toList_padZeros, Nat.toString_eq_repr, Nat.toList_repr] at hcount ⊢
  rw [digits?_eq, hcount]
  · exact List.append_ne_nil_of_right_ne_nil _ Nat.toDigits_ne_nil
  · intro c hc
    rcases List.mem_append.1 hc with hc | hc
    · exact isDigit_replicate_zero hc
    · exact Nat.isDigit_of_mem_toDigits (by decide) (by decide) hc

theorem exponent?_sign {exponent : ℤ} {cs : List Char} (hread : digits? cs = some exponent.natAbs) :
    exponent? ('e' :: (if exponent < 0 then '-' else '+') :: cs) = some exponent := by
  by_cases hexponent : exponent < 0
  · have habs : -(exponent.natAbs : ℤ) = exponent := by omega
    rw [if_pos hexponent, exponent?, hread, Option.map_some, habs]
  · have habs : (exponent.natAbs : ℤ) = exponent := by omega
    rw [if_neg hexponent, exponent?, hread, Option.map_some, habs]

/-- The scientific form says the digits with the point behind the leading one, and the exponent. -/
theorem value?_scientific (f : NumberFormat) (hne : kept ≠ []) (hdigits : ∀ c ∈ kept, c.isDigit)
    (exponent : ℤ) :
    value? (f.scientific (String.ofList kept) exponent) =
      some ((Nat.ofDigitChars 10 kept 0 : ℚ) * 10 ^ (exponent + 1 - kept.length)) := by
  obtain ⟨c, cs, rfl⟩ := List.exists_cons_of_ne_nil hne
  set written := padZeros f.exponentDigits (toString exponent.natAbs) with hwritten
  have hread : digits? written.toList = some exponent.natAbs := digits?_padZeros _ _
  have hparts : Parts (f.scientific (String.ofList (c :: cs)) exponent) [c]
      (if cs = [] then [] else '.' :: cs) cs
      ('e' :: (if exponent < 0 then '-' else '+') :: written.toList) exponent := by
    constructor
    · rw [NumberFormat.scientific, ← hwritten]
      by_cases hcs : cs = [] <;> by_cases hexponent : exponent < 0 <;>
        simp [hcs, hexponent, isEmpty_ofList]
    · by_cases hcs : cs = []
      · exact .inl ⟨if_pos hcs, hcs⟩
      · exact .inr (if_neg hcs)
    · exact List.cons_ne_nil c cs
    · exact hdigits
    · rfl
    · exact exponent?_sign hread
  have hplaces : exponent - cs.length = exponent + 1 - (c :: cs).length := by
    rw [List.length_cons]
    omega
  rw [hparts.value?_eq, List.singleton_append, hplaces]

end Forms

/-- The text of a number that is not negative says its shortest decimal. -/
theorem value?_write {x : Binary64} {d : ℕ} {place : ℤ} (f : NumberFormat)
    (hfinite : x.isFinite = true) (hsign : x.negative = false) (hx : x.significand ≠ 0)
    (h : x.shortest = (d, place)) : value? (f.write x) = some ((d : ℚ) * 10 ^ place) := by
  obtain ⟨hne, hdigits, hcount⟩ := ofDigitChars_trimZeros (Binary64.shortest_pos hx h)
  rcases htrim : trimZeros (Nat.toDigits 10 d) with ⟨kept, dropped⟩
  rw [htrim] at hne hdigits hcount
  dsimp only at hne hdigits hcount
  set exponent : ℤ := place + dropped + kept.length - 1 with hexponent
  have hplaces : exponent + 1 - kept.length = dropped + place := by omega
  have hvalue : (Nat.ofDigitChars 10 kept 0 : ℚ) * 10 ^ (exponent + 1 - kept.length) =
      d * 10 ^ place := by
    rw [hplaces, zpow_add₀ (by norm_num), zpow_natCast, ← mul_assoc, ← hcount]
    push_cast
    rfl
  have hnan : x.isNaN = false := by
    rw [Binary64.isFinite, bne_iff_ne] at hfinite
    rw [Binary64.isNaN, beq_false_of_ne hfinite, Bool.false_and]
  have hzero : x.isZero = false := by
    rw [Binary64.isZero, beq_false_of_ne hx, Bool.and_false]
  have hwrite : f.write x =
      if f.positionalFrom ≤ exponent ∧ exponent < f.positionalBelow then
        NumberFormat.positional (String.ofList kept) exponent
      else f.scientific (String.ofList kept) exponent := by
    simp [NumberFormat.write, hnan, hfinite, hzero, hsign, h, htrim, ← hexponent]
  rw [hwrite, ← hvalue]
  split_ifs
  · exact value?_positional hne hdigits exponent
  · exact value?_scientific f hne hdigits exponent

example : value? "150.5" = some (301 / 2) := by decide +kernel

example : value? "1.5e-05" = some (3 / 200000) := by decide +kernel

end EmailStudio.Numeral
