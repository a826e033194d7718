import EmailStudio.Number.Decimal
import Mathlib.Algebra.Ring.Nat
import Mathlib.Data.List.DropRight

/-!
# Digits

What digits count is not changed by zeros in front of them, and multiplied by ten by each zero
behind them.
-/

namespace EmailStudio

theorem toList_pushn_zero (n : Nat) : ("".pushn '0' n).toList = List.replicate n '0' := by
  rw [String.pushn_eq_repeat_push]
  induction n with
  | zero => rfl
  | succ n ih => rw [Nat.repeat, String.toList_push, ih, List.replicate_succ']

theorem toList_padZeros (width : Nat) (s : String) :
    (padZeros width s).toList = List.replicate (width - s.length) '0' ++ s.toList := by
  rw [padZeros, String.toList_append, toList_pushn_zero]

theorem ofDigitChars_zeros_append (n : Nat) (cs : List Char) :
    Nat.ofDigitChars 10 (List.replicate n '0' ++ cs) 0 = Nat.ofDigitChars 10 cs 0 := by
  rw [Nat.ofDigitChars_append, Nat.ofDigitChars_replicate_zero, Nat.mul_zero]

theorem ofDigitChars_append_zeros (cs : List Char) (n : Nat) :
    Nat.ofDigitChars 10 (cs ++ List.replicate n '0') 0 = 10 ^ n * Nat.ofDigitChars 10 cs 0 := by
  rw [Nat.ofDigitChars_append, Nat.ofDigitChars_replicate_zero]

/-- Zeros in front of a number do not change what it counts. -/
theorem ofDigitChars_padZeros (width n : Nat) :
    Nat.ofDigitChars 10 (padZeros width (toString n)).toList 0 = n := by
  rw [toList_padZeros, ofDigitChars_zeros_append, Nat.toString_eq_repr, Nat.toList_repr,
    Nat.ofDigitChars_ten_toDigits]

/-- Trimming takes zeros off the end and nothing else. -/
theorem trimZeros_append (digits : List Char) :
    (trimZeros digits).1 ++ List.replicate (trimZeros digits).2 '0' = digits := by
  have hsplit := List.rdropWhile_append_rtakeWhile (l := digits) (p := (· == '0'))
  have hzeros : digits.rtakeWhile (· == '0') =
      List.replicate (digits.rtakeWhile (· == '0')).length '0' :=
    List.eq_replicate_of_mem fun c hc => by
      simpa using List.mem_rtakeWhile_imp hc
  have hlength := congrArg List.length hsplit
  rw [List.length_append] at hlength
  have hdropped : (trimZeros digits).2 = (digits.rtakeWhile (· == '0')).length :=
    Nat.sub_eq_of_eq_add' hlength.symm
  rw [hdropped, ← hzeros]
  exact hsplit

/-- The digits of a number that is not zero count it once the zeros are back, and some of them are
kept. -/
theorem ofDigitChars_trimZeros {d : Nat} (hd : 0 < d) :
    (trimZeros (Nat.toDigits 10 d)).1 ≠ [] ∧
      (∀ c ∈ (trimZeros (Nat.toDigits 10 d)).1, c.isDigit) ∧
      Nat.ofDigitChars 10 (trimZeros (Nat.toDigits 10 d)).1 0 *
        10 ^ (trimZeros (Nat.toDigits 10 d)).2 = d := by
  have happend := trimZeros_append (Nat.toDigits 10 d)
  have hcount : Nat.ofDigitChars 10 (trimZeros (Nat.toDigits 10 d)).1 0 *
      10 ^ (trimZeros (Nat.toDigits 10 d)).2 = d := by
    rw [Nat.mul_comm, ← ofDigitChars_append_zeros, happend, Nat.ofDigitChars_ten_toDigits]
  refine ⟨fun hnil => ?_, fun c hc => ?_, hcount⟩
  · rw [hnil, Nat.ofDigitChars_nil, Nat.zero_mul] at hcount
    exact hd.ne hcount
  · refine Nat.isDigit_of_mem_toDigits (b := 10) (n := d) (by decide) (by decide) ?_
    rw [← happend]
    exact List.mem_append_left _ hc

end EmailStudio
