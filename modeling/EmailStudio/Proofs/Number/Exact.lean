import EmailStudio.Number.Binary64
import Mathlib.Algebra.Order.Field.Rat
import Mathlib.Data.Rat.Lemmas
import Mathlib.Tactic.Linarith
import Mathlib.Tactic.NormNum
import Mathlib.Tactic.Positivity

/-!
# Numbers of one value

Every finite number counts steps of the same size, `2 ^ -1074`. A normal significand has its leading
bit, so that the number of steps tells the exponent and the significand; by
`Binary64.eq_of_toRat?`, zero is the only value that two numbers have.
-/

namespace EmailStudio.Binary64

/-- How many of the least steps a number is away from zero. -/
def steps (x : Binary64) : ℕ :=
  x.significand * 2 ^ (max x.field 1 - 1)

/-- How many of the least steps one is away from zero. -/
def stepsOfOne : ℕ := 2 ^ 1074

theorem significand_lt (x : Binary64) : x.significand < 2 ^ 53 := by
  have hfraction : x.fraction < 2 ^ 52 := Nat.mod_lt _ (by decide)
  unfold significand
  rw [Nat.pow_eq]
  split_ifs <;> omega

theorem le_significand {x : Binary64} (h : x.field ≠ 0) : 2 ^ 52 ≤ x.significand := by
  rw [significand, if_neg h, Nat.pow_eq]
  exact Nat.le_add_right _ _

/-- The sign and the two fields make up the pattern. -/
theorem bits_eq (x : Binary64) : x.bits.toNat =
    (if x.negative then 2 ^ 63 else 0) + x.field * 2 ^ 52 + x.fraction := by
  have hlt : x.bits.toNat < 2 ^ 64 := x.bits.toNat_lt
  simp only [negative, field, fraction, Nat.pow_eq, decide_eq_true_eq]
  split_ifs <;> omega

theorem eq_of_fields {x y : Binary64} (hnegative : x.negative = y.negative)
    (hfield : x.field = y.field) (hfraction : x.fraction = y.fraction) : x = y := by
  have hbits : x.bits.toNat = y.bits.toNat := by
    rw [bits_eq, bits_eq, hnegative, hfield, hfraction]
  cases x
  cases y
  exact congrArg mk (UInt64.toNat_inj.1 hbits)

/-- A number with the same significand and exponent as another has the same fields. -/
theorem fields_eq_of_significand {x y : Binary64} (hs : x.significand = y.significand)
    (he : max x.field 1 = max y.field 1) : x.field = y.field ∧ x.fraction = y.fraction := by
  have hx : x.fraction < 2 ^ 52 := Nat.mod_lt _ (by decide)
  have hy : y.fraction < 2 ^ 52 := Nat.mod_lt _ (by decide)
  simp only [significand, Nat.pow_eq] at hs
  split_ifs at hs <;> omega

/-- Fewer steps are not counted by a greater exponent. -/
theorem field_le_of_steps {x y : Binary64} (h : x.steps = y.steps) :
    max y.field 1 ≤ max x.field 1 := by
  by_contra hlt
  have hlt : max x.field 1 < max y.field 1 := not_le.1 hlt
  have hy : 2 ^ 52 ≤ y.significand := le_significand (by omega)
  obtain ⟨k, hk⟩ : ∃ k, max y.field 1 - 1 = (max x.field 1 - 1) + (k + 1) :=
    ⟨max y.field 1 - max x.field 1 - 1, by omega⟩
  rw [steps, steps, hk, pow_add, ← mul_assoc, mul_right_comm] at h
  have hs : x.significand = y.significand * 2 ^ (k + 1) :=
    Nat.eq_of_mul_eq_mul_right (by positivity) h
  have htwo : 2 ≤ 2 ^ (k + 1) := by
    rw [pow_succ]
    exact Nat.le_mul_of_pos_left 2 (by positivity)
  have hbound := x.significand_lt
  have hdouble := Nat.mul_le_mul hy htwo
  omega

theorem fields_eq_of_steps {x y : Binary64} (h : x.steps = y.steps) :
    x.field = y.field ∧ x.fraction = y.fraction := by
  have he : max x.field 1 = max y.field 1 :=
    (field_le_of_steps h.symm).antisymm (field_le_of_steps h)
  rw [steps, steps, he] at h
  exact fields_eq_of_significand (Nat.eq_of_mul_eq_mul_right (by positivity) h) he

theorem den_pos {x : Binary64} {num den : ℕ} (h : x.magnitude = (num, den)) : 0 < den := by
  unfold magnitude at h
  split_ifs at h <;> cases h
  · exact Nat.one_pos
  · exact Nat.pow_pos (by decide)

theorem magnitude_mul {x : Binary64} {num den : ℕ} (h : x.magnitude = (num, den)) :
    num * stepsOfOne = x.steps * den := by
  unfold magnitude at h
  split_ifs at h with hscale <;> cases h <;> simp only [scale] at hscale ⊢
  · have he : max x.field 1 - 1 = ((max x.field 1 : ℤ) - 1075).toNat + 1074 := by omega
    rw [stepsOfOne, steps, he, Nat.pow_eq, pow_add, mul_one, mul_assoc]
  · have he : 1074 = max x.field 1 - 1 + (-((max x.field 1 : ℤ) - 1075)).toNat := by omega
    rw [stepsOfOne, steps, Nat.pow_eq, mul_assoc, ← pow_add, ← he]

/-- The exact value as a number of steps. -/
theorem toRat?_mul {x : Binary64} {q : ℚ} (h : x.toRat? = some q) :
    q * stepsOfOne = if x.negative then -(x.steps : ℚ) else x.steps := by
  rcases hm : x.magnitude with ⟨num, den⟩
  have hden : (den : ℚ) ≠ 0 := by exact_mod_cast (den_pos hm).ne'
  have hsteps : (num : ℚ) * stepsOfOne = x.steps * den := by exact_mod_cast magnitude_mul hm
  unfold toRat? at h
  rw [hm] at h
  split_ifs at h with hfinite hsign <;> dsimp only at h <;> rw [Rat.mkRat_eq_div] at h <;>
    cases h
  · rw [if_pos hsign, div_mul_eq_mul_div, div_eq_iff hden]
    push_cast
    linarith
  · rw [if_neg hsign, div_mul_eq_mul_div, div_eq_iff hden]
    exact_mod_cast hsteps

/-- Only zero is the value of two numbers. -/
theorem eq_of_toRat? {x y : Binary64} {q : ℚ} (hx : x.toRat? = some q) (hy : y.toRat? = some q)
    (hq : q ≠ 0) : x = y := by
  have hone : (stepsOfOne : ℚ) ≠ 0 := by exact_mod_cast (Nat.pow_pos Nat.two_pos).ne'
  have hne := mul_ne_zero hq hone
  have hx := toRat?_mul hx
  have hy := toRat?_mul hy
  have hxpos : (0 : ℚ) ≤ x.steps := Nat.cast_nonneg _
  have hypos : (0 : ℚ) ≤ y.steps := Nat.cast_nonneg _
  obtain ⟨hsign, hsteps⟩ : x.negative = y.negative ∧ x.steps = y.steps := by
    cases hxs : x.negative <;> cases hys : y.negative <;> rw [hxs] at hx <;> rw [hys] at hy <;>
      simp only [if_true, Bool.false_eq_true, if_false] at hx hy
    · exact ⟨rfl, by exact_mod_cast hx.symm.trans hy⟩
    · exact absurd (by linarith) hne
    · exact absurd (by linarith) hne
    · exact ⟨rfl, by exact_mod_cast neg_inj.1 (hx.symm.trans hy)⟩
  obtain ⟨hfield, hfraction⟩ := fields_eq_of_steps hsteps
  exact eq_of_fields hsign hfield hfraction

theorem isZero_of_toRat? {x : Binary64} (h : x.toRat? = some 0) : x.isZero = true := by
  have hfinite : x.isFinite = true := by
    by_contra hinfinite
    rw [toRat?, if_neg hinfinite] at h
    cases h
  have hsteps : (x.steps : ℚ) = 0 := by
    have h := toRat?_mul h
    rw [zero_mul] at h
    split_ifs at h
    · exact neg_eq_zero.1 h.symm
    · exact h.symm
  have hzero : x.significand = 0 :=
    (Nat.mul_eq_zero.1 (by exact_mod_cast hsteps)).resolve_right (by positivity)
  rw [isZero, hfinite, hzero]
  rfl

end EmailStudio.Binary64
