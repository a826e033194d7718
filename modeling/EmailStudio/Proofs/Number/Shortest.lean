import EmailStudio.Number.Shortest
import EmailStudio.Proofs.Number.Exact
import Mathlib.Algebra.Order.Field.Power
import Mathlib.Algebra.Order.Field.Rat
import Mathlib.Tactic.FieldSimp
import Mathlib.Tactic.Linarith
import Mathlib.Tactic.Positivity

/-!
# What the shortest decimal comes to

The decimal that a number is written as lies less than one step of its grid away from the number,
and the step is no power of ten above the number. So a bound on that grid which the number keeps is
kept by the decimal (`IsNear.le_of_le`, `IsNear.le_of_ge`), and the decimal of what is not zero is
not zero (`shortest_pos`).
-/

namespace EmailStudio.Binary64

/-! ## Grids -/

/-- A multiple of a power of ten lies less than one such power away from a value. -/
def IsNear (q : ℚ) (d : ℕ) (place : ℤ) : Prop :=
  |(d : ℚ) * 10 ^ place - q| < 10 ^ place

theorem ten_zpow_pos (place : ℤ) : (0 : ℚ) < 10 ^ place := by positivity

namespace IsNear

variable {q : ℚ} {d : ℕ} {place n : ℤ}

/-- A bound on the grid from above is kept. -/
theorem le_of_le (h : IsNear q d place) (hq : q ≤ n * 10 ^ place) :
    (d : ℚ) * 10 ^ place ≤ n * 10 ^ place := by
  have hstep := ten_zpow_pos place
  have hlt : (d : ℚ) * 10 ^ place < (n + 1) * 10 ^ place := by
    have := (abs_lt.1 h).2
    linarith
  have hd : (d : ℤ) < n + 1 := by exact_mod_cast lt_of_mul_lt_mul_right hlt hstep.le
  have hd : ((d : ℤ) : ℚ) ≤ n := by exact_mod_cast Int.lt_add_one_iff.1 hd
  exact mul_le_mul_of_nonneg_right (by exact_mod_cast hd) hstep.le

/-- A bound on the grid from below is kept. -/
theorem le_of_ge (h : IsNear q d place) (hq : n * 10 ^ place ≤ q) :
    (n : ℚ) * 10 ^ place ≤ d * 10 ^ place := by
  have hstep := ten_zpow_pos place
  have hlt : (n : ℚ) * 10 ^ place < (d + 1) * 10 ^ place := by
    have := (abs_lt.1 h).1
    linarith
  have hd : n < (d : ℤ) + 1 := by exact_mod_cast lt_of_mul_lt_mul_right hlt hstep.le
  have hd : (n : ℚ) ≤ ((d : ℤ) : ℚ) := by exact_mod_cast Int.lt_add_one_iff.1 hd
  exact mul_le_mul_of_nonneg_right (by exact_mod_cast hd) hstep.le

end IsNear

theorem div_eq_div_add_mod_div (num : ℕ) {den : ℕ} (hden : 0 < den) :
    (num : ℚ) / den = (num / den : ℕ) + (num % den : ℕ) / (den : ℚ) := by
  have hden : (den : ℚ) ≠ 0 := by exact_mod_cast hden.ne'
  have hnum : (num : ℚ) = den * (num / den : ℕ) + (num % den : ℕ) := by
    exact_mod_cast (Nat.div_add_mod num den).symm
  rw [div_eq_iff hden, add_mul, div_mul_cancel₀ _ hden, mul_comm _ (den : ℚ)]
  exact hnum

/-- A quotient is made of whole steps of the grid and of a remainder below one step. -/
theorem gridFloor_spec {num den : ℕ} (hden : 0 < den) (place : ℤ) {low rest step : ℕ}
    (h : gridFloor num den place = (low, rest, step)) :
    (num : ℚ) / den = (low + rest / step) * 10 ^ place ∧ rest < step := by
  have hden' : (den : ℚ) ≠ 0 := by exact_mod_cast hden.ne'
  have hscaled {n d : ℕ} (hd : 0 < d) (hq : (num : ℚ) / den = n / d * 10 ^ place) :
      (num : ℚ) / den = ((n / d : ℕ) + (n % d : ℕ) / (d : ℚ)) * 10 ^ place ∧ n % d < d :=
    ⟨by rw [hq, div_eq_div_add_mod_div n hd], Nat.mod_lt n hd⟩
  unfold gridFloor at h
  split_ifs at h with hplace
  · obtain ⟨k, rfl⟩ := Int.eq_ofNat_of_zero_le hplace
    cases h
    refine hscaled (Nat.mul_pos hden (Nat.pos_of_ne_zero (by simp))) ?_
    simp only [Int.toNat_natCast, Nat.pow_eq, zpow_natCast]
    push_cast
    field_simp
  · obtain ⟨k, hk⟩ := Int.eq_ofNat_of_zero_le (a := -place) (by omega)
    obtain rfl : place = -(k : ℤ) := by omega
    cases h
    refine hscaled hden ?_
    simp only [neg_neg, Int.toNat_natCast, Nat.pow_eq, zpow_neg, zpow_natCast]
    push_cast
    field_simp

section Neighbours

variable {num den low rest step : ℕ} {place : ℤ}

theorem isNear_low (hden : 0 < den) (h : gridFloor num den place = (low, rest, step)) :
    IsNear (num / den) low place := by
  obtain ⟨hq, hrest⟩ := gridFloor_spec hden place h
  have hplace := ten_zpow_pos place
  have hstep : (0 : ℚ) < step := by exact_mod_cast Nat.zero_lt_of_lt hrest
  have hnonneg : (0 : ℚ) ≤ rest / step := by positivity
  have hlt : (rest / step : ℚ) < 1 := (div_lt_one hstep).2 (by exact_mod_cast hrest)
  rw [IsNear, hq, abs_lt]
  constructor <;> nlinarith

/-- The grid above a value that is not on it is as near. -/
theorem isNear_high (hden : 0 < den) (h : gridFloor num den place = (low, rest, step))
    (hne : rest ≠ 0) : IsNear (num / den) (low + 1) place := by
  obtain ⟨hq, hrest⟩ := gridFloor_spec hden place h
  have hplace := ten_zpow_pos place
  have hstep : (0 : ℚ) < step := by exact_mod_cast Nat.zero_lt_of_lt hrest
  have hpos : (0 : ℚ) < rest / step :=
    div_pos (by exact_mod_cast Nat.pos_of_ne_zero hne) hstep
  have hlt : (rest / step : ℚ) < 1 := (div_lt_one hstep).2 (by exact_mod_cast hrest)
  rw [IsNear, hq, abs_lt]
  push_cast
  constructor <;> nlinarith

end Neighbours

/-! ## The place of the leading digit -/

theorem reachesTenPower_iff {num den : ℕ} (hden : 0 < den) (e : ℤ) :
    reachesTenPower num den e = true ↔ (10 : ℚ) ^ e ≤ num / den := by
  have hden : (0 : ℚ) < den := by exact_mod_cast hden
  rw [le_div_iff₀ hden]
  unfold reachesTenPower
  split_ifs with he
  · obtain ⟨k, rfl⟩ := Int.eq_ofNat_of_zero_le he
    simp only [Int.toNat_natCast, Nat.pow_eq, decide_eq_true_eq, zpow_natCast]
    rw [mul_comm]
    exact_mod_cast Iff.rfl
  · obtain ⟨k, hk⟩ := Int.eq_ofNat_of_zero_le (a := -e) (by omega)
    obtain rfl : e = -(k : ℤ) := by omega
    simp only [neg_neg, Int.toNat_natCast, Nat.pow_eq, decide_eq_true_eq, zpow_neg, zpow_natCast]
    rw [← div_eq_inv_mul, div_le_iff₀ (by positivity)]
    exact_mod_cast Iff.rfl

/-- A quotient lies above the power of two that its binary size says. -/
theorem two_zpow_lt {num den : ℕ} (hnum : num ≠ 0) (hden : 0 < den) :
    (2 : ℚ) ^ ((num.log2 : ℤ) - den.log2 - 1) < num / den := by
  have hlow : (2 : ℚ) ^ num.log2 ≤ num := by exact_mod_cast Nat.log2_self_le hnum
  have hhigh : (den : ℚ) < 2 ^ (den.log2 + 1) := by exact_mod_cast Nat.lt_log2_self
  have hden : (0 : ℚ) < den := by exact_mod_cast hden
  have hpow : (2 : ℚ) ^ ((num.log2 : ℤ) - den.log2 - 1) = 2 ^ num.log2 / 2 ^ (den.log2 + 1) := by
    rw [sub_sub, zpow_sub₀ (by norm_num)]
    exact_mod_cast rfl
  rw [hpow]
  exact div_lt_div₀' hlow hhigh (by positivity) hden

/-- The leading place is reached, or it is the estimate from the binary size, less one. -/
theorem leadingPlace_cases {num den : ℕ} (hden : 0 < den) :
    (10 : ℚ) ^ leadingPlace num den ≤ num / den ∨
      100000 * (leadingPlace num den + 1) ≤ 30103 * ((num.log2 : ℤ) - den.log2 - 1) := by
  unfold leadingPlace
  dsimp only
  split_ifs with h₂ h₁ h₀
  · exact .inl ((reachesTenPower_iff hden _).1 h₂)
  · exact .inl ((reachesTenPower_iff hden _).1 h₁)
  · exact .inl ((reachesTenPower_iff hden _).1 h₀)
  · right
    rw [Int.fdiv_eq_ediv_of_nonneg _ (by decide)]
    omega

/-- Below the tenth power of two, the leading place is no more than one or it is reached. -/
theorem leadingPlace_le_or {num den : ℕ} (hnum : num ≠ 0) (hden : 0 < den)
    (h : (num : ℚ) / den < 1024) :
    leadingPlace num den ≤ 1 ∨ (10 : ℚ) ^ leadingPlace num den ≤ num / den := by
  rcases leadingPlace_cases hden with hreached | hlow
  · exact .inr hreached
  · left
    have hlt : (2 : ℚ) ^ ((num.log2 : ℤ) - den.log2 - 1) < 2 ^ (10 : ℤ) :=
      (two_zpow_lt hnum hden).trans (h.trans_eq (by norm_num))
    have := (zpow_lt_zpow_iff_right₀ (by norm_num)).1 hlt
    omega

/-- Sixteen places further a power of two has been passed, if its exponent is not enormous. -/
theorem ten_zpow_le_two_zpow {top k : ℤ} (h : 100000 * (top + 1) ≤ 30103 * k) (hlow : -1100 ≤ k)
    (hhigh : k ≤ 1100) : (10 : ℚ) ^ (top - 16) ≤ 2 ^ k := by
  rcases le_total 0 k with hk | hk
  · obtain ⟨n, rfl⟩ := Int.eq_ofNat_of_zero_le hk
    calc (10 : ℚ) ^ (top - 16) ≤ 10 ^ ((3 * (n / 10) : ℕ) : ℤ) :=
          zpow_le_zpow_right₀ (by norm_num) (by omega)
      _ = 1000 ^ (n / 10) := by rw [zpow_natCast, pow_mul]; norm_num
      _ ≤ 1024 ^ (n / 10) := pow_le_pow_left₀ (by norm_num) (by norm_num) _
      _ = 2 ^ (10 * (n / 10)) := by rw [pow_mul]; norm_num
      _ ≤ 2 ^ n := pow_le_pow_right₀ (by norm_num) (by omega)
      _ = 2 ^ (n : ℤ) := (zpow_natCast 2 n).symm
  · obtain ⟨n, hn⟩ := Int.eq_ofNat_of_zero_le (a := -k) (by omega)
    obtain rfl : k = -(n : ℤ) := by omega
    have hpow : (2 : ℚ) ^ n ≤ 10 ^ (4 * ((n + 12) / 13)) :=
      calc (2 : ℚ) ^ n ≤ 2 ^ (13 * ((n + 12) / 13)) := pow_le_pow_right₀ (by norm_num) (by omega)
        _ = 8192 ^ ((n + 12) / 13) := by rw [pow_mul]; norm_num
        _ ≤ 10000 ^ ((n + 12) / 13) := pow_le_pow_left₀ (by norm_num) (by norm_num) _
        _ = 10 ^ (4 * ((n + 12) / 13)) := by rw [pow_mul]; norm_num
    calc (10 : ℚ) ^ (top - 16) ≤ 10 ^ (-((4 * ((n + 12) / 13) : ℕ) : ℤ)) :=
          zpow_le_zpow_right₀ (by norm_num) (by omega)
      _ ≤ 2 ^ (-(n : ℤ)) := by
        rw [zpow_neg, zpow_neg, zpow_natCast, zpow_natCast]
        exact inv_anti₀ (by positivity) hpow

/-! ## Neighbours that read back -/

theorem neighbourAt?_spec {x : Binary64} {num den d : ℕ} {place : ℤ} (hden : 0 < den)
    (h : x.neighbourAt? num den place = some d) :
    IsNear (num / den) d place ∧
      ofDecimal false d place = ofPattern false (x.bits.toNat % Nat.pow 2 63) := by
  unfold neighbourAt? at h
  rcases hgrid : gridFloor num den place with ⟨low, rest, step⟩
  rw [hgrid] at h
  have hlow := isNear_low hden hgrid
  have hhigh := isNear_high hden hgrid
  dsimp only at h
  split_ifs at h with hboth hless hmore hlowHit hhighHit
  · cases h
    exact ⟨hlow, hboth.1⟩
  · cases h
    exact ⟨hhigh hboth.2.1, hboth.2.2⟩
  · cases h
    rcases Nat.mod_two_eq_zero_or_one low with heven | hodd
    · rw [heven]
      exact ⟨hlow, hboth.1⟩
    · rw [hodd]
      exact ⟨hhigh hboth.2.1, hboth.2.2⟩
  · cases h
    exact ⟨hlow, hlowHit⟩
  · cases h
    exact ⟨hhigh hhighHit.1, hhighHit.2⟩

/-- Zero reads back as nothing but zero. -/
theorem ofDecimal_zero_ne {x : Binary64} (hx : x.significand ≠ 0) (place : ℤ) :
    ofDecimal false 0 place ≠ ofPattern false (x.bits.toNat % Nat.pow 2 63) := by
  have hzero : ofDecimal false 0 place = ofPattern false 0 := by
    rw [ofDecimal, decide_eq_true rfl, Bool.true_or, if_pos rfl, zero]
  rw [hzero]
  intro h
  have hmod : x.bits.toNat % 2 ^ 63 < 2 ^ 64 :=
    (Nat.mod_lt _ (by norm_num)).trans (by norm_num)
  have hbits : 0 = x.bits.toNat % 2 ^ 63 := by
    have h : 0 = x.bits.toNat % 2 ^ 63 % 2 ^ 64 := by
      simpa [ofPattern] using congrArg (fun y : Binary64 => y.bits.toNat) h
    rwa [Nat.mod_eq_of_lt hmod] at h
  refine hx ?_
  have hfield : x.field = 0 := by
    simp only [field, Nat.pow_eq]
    omega
  rw [significand, if_pos hfield, fraction]
  simp only [Nat.pow_eq]
  omega

/-! ## The shortest decimal -/

theorem num_ne_zero {x : Binary64} {num den : ℕ} (h : x.magnitude = (num, den))
    (hx : x.significand ≠ 0) : num ≠ 0 := by
  unfold magnitude at h
  split_ifs at h <;> cases h
  · exact Nat.mul_ne_zero hx (Nat.pow_pos (by decide)).ne'
  · exact hx

/-- The decimal is a neighbour that reads back, or the last one that was looked at from below. -/
theorem shortest_cases {x : Binary64} {num den d : ℕ} {place : ℤ} (hm : x.magnitude = (num, den))
    (h : x.shortest = (d, place)) :
    leadingPlace num den - 16 ≤ place ∧ place ≤ leadingPlace num den ∧
      (x.neighbourAt? num den place = some d ∨
        place = leadingPlace num den - 16 ∧ (gridFloor num den place).1 = d) := by
  unfold shortest at h
  rw [hm] at h
  dsimp only at h
  generalize hplaces : List.findSome? _ _ = found at h
  cases found with
  | some hit =>
    obtain ⟨place', hmem, hhit⟩ := List.exists_of_findSome?_eq_some hplaces
    obtain ⟨n, hn, rfl⟩ := List.mem_map.1 hmem
    obtain ⟨d', hd', rfl⟩ := Option.map_eq_some_iff.1 hhit
    cases h
    have hn := List.mem_range.1 hn
    exact ⟨by omega, by omega, .inl hd'⟩
  | none =>
    cases h
    exact ⟨le_rfl, by omega, .inr ⟨rfl, rfl⟩⟩

theorem isNear_shortest {x : Binary64} {num den d : ℕ} {place : ℤ} (hm : x.magnitude = (num, den))
    (h : x.shortest = (d, place)) : IsNear (num / den) d place := by
  have hden := den_pos hm
  obtain ⟨-, -, hhit | ⟨-, hd⟩⟩ := shortest_cases hm h
  · exact (neighbourAt?_spec hden hhit).1
  · rcases hgrid : gridFloor num den place with ⟨low, rest, step⟩
    rw [hgrid] at hd
    exact hd ▸ isNear_low hden hgrid

theorem log2_mul_two_pow_lt {m a : ℕ} (hm : m ≠ 0) (h : m < 2 ^ a) (b : ℕ) :
    (m * 2 ^ b).log2 < a + b := by
  refine (Nat.log2_lt (Nat.mul_ne_zero hm (by positivity))).2 ?_
  rw [pow_add]
  exact Nat.mul_lt_mul_of_pos_right h (by positivity)

/-- The binary sizes of the two parts of a magnitude. -/
theorem log2_magnitude {x : Binary64} {num den : ℕ} (hx : x.significand ≠ 0)
    (hm : x.magnitude = (num, den)) :
    -1100 ≤ (num.log2 : ℤ) - den.log2 - 1 ∧ (num.log2 : ℤ) - den.log2 - 1 ≤ 1100 := by
  have hfield : x.field < 2048 := Nat.mod_lt _ (by decide)
  have hsignificand := x.significand_lt
  unfold magnitude at hm
  split_ifs at hm with hscale <;> cases hm <;> simp only [scale] at hscale ⊢
  · have hlog := log2_mul_two_pow_lt hx hsignificand ((max (x.field : ℤ) 1) - 1075).toNat
    rw [Nat.pow_eq]
    have hone : Nat.log2 1 = 0 := by decide
    omega
  · have hlog := (Nat.log2_lt hx (k := 53)).2 hsignificand
    rw [Nat.pow_eq, Nat.log2_two_pow]
    omega

/-- The decimal of what is not zero is not zero. -/
theorem shortest_pos {x : Binary64} {d : ℕ} {place : ℤ} (hx : x.significand ≠ 0)
    (h : x.shortest = (d, place)) : 0 < d := by
  rcases hm : x.magnitude with ⟨num, den⟩
  have hden := den_pos hm
  have hnum := num_ne_zero hm hx
  refine Nat.pos_of_ne_zero ?_
  rintro rfl
  obtain ⟨-, -, hhit | ⟨rfl, hd⟩⟩ := shortest_cases hm h
  · exact ofDecimal_zero_ne hx place (neighbourAt?_spec hden hhit).2
  · rcases hgrid : gridFloor num den (leadingPlace num den - 16) with ⟨low, rest, step⟩
    rw [hgrid] at hd
    obtain rfl : low = 0 := hd
    have hnear := isNear_low hden hgrid
    have hreached : (10 : ℚ) ^ (leadingPlace num den - 16) ≤ num / den := by
      rcases leadingPlace_cases hden with hreached | hlow
      · exact (zpow_le_zpow_right₀ (by norm_num) (by omega)).trans hreached
      · obtain ⟨hk, hk'⟩ := log2_magnitude hx hm
        exact (ten_zpow_le_two_zpow hlow hk hk').trans (two_zpow_lt hnum hden).le
    rw [IsNear, abs_lt] at hnear
    have := hnear.1
    push_cast at this
    linarith

/-! ## Bounds that are kept -/

/-- Every coarser grid is part of a finer one. -/
theorem exists_mul_ten_zpow {place e : ℤ} (h : place ≤ e) (n : ℕ) :
    ∃ m : ℤ, (n : ℚ) * 10 ^ e = m * 10 ^ place := by
  refine ⟨n * 10 ^ (e - place).toNat, ?_⟩
  have he : e = ((e - place).toNat : ℤ) + place := by omega
  push_cast
  rw [mul_assoc, ← zpow_natCast, ← zpow_add₀ (by norm_num), ← he]

section Bounds

variable {x : Binary64} {num den d n : ℕ} {place : ℤ}

theorem place_le_two (hx : x.significand ≠ 0) (hm : x.magnitude = (num, den))
    (h : x.shortest = (d, place)) (hq : (num : ℚ) / den < 1000) :
    place ≤ 1 ∨ place = 2 ∧ (100 : ℚ) ≤ num / den := by
  obtain ⟨-, hplace, -⟩ := shortest_cases hm h
  rcases leadingPlace_le_or (num_ne_zero hm hx) (den_pos hm) (hq.trans (by norm_num)) with
    hone | hreached
  · exact .inl (hplace.trans hone)
  · have hlt : (10 : ℚ) ^ leadingPlace num den < 10 ^ (3 : ℤ) :=
      hreached.trans_lt (hq.trans_eq (by norm_num))
    have htop := (zpow_lt_zpow_iff_right₀ (by norm_num)).1 hlt
    by_cases hone : place ≤ 1
    · exact .inl hone
    · have htwo : leadingPlace num den = 2 := by omega
      rw [htwo] at hreached
      exact .inr ⟨by omega, by exact_mod_cast hreached⟩

/-- A number of hundreds that bounds a number below a thousand bounds its decimal. -/
theorem decimal_le_hundreds (hx : x.significand ≠ 0) (hm : x.magnitude = (num, den))
    (h : x.shortest = (d, place)) (hq : (num : ℚ) / den < 1000)
    (hle : (num : ℚ) / den ≤ n * 10 ^ (2 : ℤ)) : (d : ℚ) * 10 ^ place ≤ n * 10 ^ (2 : ℤ) := by
  have hplace : place ≤ 2 := by
    rcases place_le_two hx hm h hq with hone | ⟨htwo, -⟩ <;> omega
  obtain ⟨m, hn⟩ := exists_mul_ten_zpow hplace n
  rw [hn] at hle ⊢
  exact (isNear_shortest hm h).le_of_le hle

theorem hundreds_le_decimal (hx : x.significand ≠ 0) (hm : x.magnitude = (num, den))
    (h : x.shortest = (d, place)) (hq : (num : ℚ) / den < 1000)
    (hle : n * 10 ^ (2 : ℤ) ≤ (num : ℚ) / den) : n * 10 ^ (2 : ℤ) ≤ (d : ℚ) * 10 ^ place := by
  have hplace : place ≤ 2 := by
    rcases place_le_two hx hm h hq with hone | ⟨htwo, -⟩ <;> omega
  obtain ⟨m, hn⟩ := exists_mul_ten_zpow hplace n
  rw [hn] at hle ⊢
  exact (isNear_shortest hm h).le_of_ge hle

/-- So does a number of tens from below: on the grid of hundreds, a number is at least hundred. -/
theorem tens_le_decimal (hx : x.significand ≠ 0) (hm : x.magnitude = (num, den))
    (h : x.shortest = (d, place)) (hq : (num : ℚ) / den < 1000) (hn : n ≤ 10)
    (hle : n * 10 ^ (1 : ℤ) ≤ (num : ℚ) / den) : n * 10 ^ (1 : ℤ) ≤ (d : ℚ) * 10 ^ place := by
  rcases place_le_two hx hm h hq with hone | ⟨rfl, hhundred⟩
  · obtain ⟨m, hn⟩ := exists_mul_ten_zpow hone n
    rw [hn] at hle ⊢
    exact (isNear_shortest hm h).le_of_ge hle
  · have hd : ((1 : ℤ) : ℚ) * 10 ^ (2 : ℤ) ≤ d * 10 ^ (2 : ℤ) :=
      (isNear_shortest hm h).le_of_ge ((by norm_num : _ = (100 : ℚ)).trans_le hhundred)
    have hn : (n : ℚ) ≤ 10 := by exact_mod_cast hn
    refine le_trans ?_ hd
    norm_num
    linarith

end Bounds

end EmailStudio.Binary64
