import EmailStudio.Markup.Padding
import EmailStudio.Proofs.Document.Normal
import EmailStudio.Proofs.Number.Numeral

/-!
# Numbers of pixels

What a number of pixels says when it stands in markup. A number of the catalog is written as the
catalog has it, in either spelling (`Value.pixels_mem_inPixels`). A number between bounds may be
written with fewer digits than it has; by `Value.exists_numeral`, what is written keeps the bounds
that the catalog sets.
-/

namespace EmailStudio

/-- Numbers of the catalog, as numbers of pixels. -/
def Catalog.inPixels (ns : List ℤ) : List String :=
  ns.map fun n => toString n ++ "px"

/-! ## Bounds -/

namespace Numeral

/-- What is written for a value is on the same side of the bounds that are kept: zero, the hundreds,
and from below the tens up to hundred. -/
structure Follows (q r : ℚ) : Prop where
  pos : 0 < q → 0 < r
  le_hundreds : ∀ n : ℕ, q ≤ n * 10 ^ (2 : ℤ) → r ≤ n * 10 ^ (2 : ℤ)
  hundreds_le : ∀ n : ℕ, n * 10 ^ (2 : ℤ) ≤ q → n * 10 ^ (2 : ℤ) ≤ r
  tens_le : ∀ n : ℕ, n ≤ 10 → n * 10 ^ (1 : ℤ) ≤ q → n * 10 ^ (1 : ℤ) ≤ r

theorem Follows.refl (q : ℚ) : Follows q q where
  pos h := h
  le_hundreds _ h := h
  hundreds_le _ h := h
  tens_le _ _ h := h

/-- A number of pixels that is good in some way. -/
def IsPixels (good : ℚ → Prop) (s : String) : Prop :=
  ∃ numeral r, s = numeral ++ "px" ∧ value? numeral = some r ∧ good r

end Numeral

/-! ## Exact values -/

namespace Binary64

/-- The parts of a number above zero. -/
theorem magnitude_of_pos {x : Binary64} {q : ℚ} (h : x.toRat? = some q) (hq : 0 < q) :
    x.isFinite = true ∧ x.negative = false ∧ x.significand ≠ 0 ∧
      ∃ num den, x.magnitude = (num, den) ∧ q = num / den := by
  rcases hm : x.magnitude with ⟨num, den⟩
  have hden : (0 : ℚ) < den := by exact_mod_cast den_pos hm
  have hread := h
  unfold toRat? at h
  rw [hm] at h
  split_ifs at h with hfinite hsign
  · have h : mkRat (-(num : ℤ)) den = q := Option.some.inj h
    rw [Rat.mkRat_eq_div] at h
    have hneg : q ≤ 0 := by
      rw [← h]
      push_cast
      exact div_nonpos_of_nonpos_of_nonneg (by simp) hden.le
    exact absurd hq hneg.not_gt
  · have h : mkRat (num : ℤ) den = q := Option.some.inj h
    rw [Rat.mkRat_eq_div] at h
    refine ⟨hfinite, Bool.eq_false_of_not_eq_true hsign, ?_, num, den, rfl, h.symm⟩
    intro hzero
    have hx : x.isZero = true := by
      rw [isZero, hfinite, hzero]
      rfl
    exact hq.ne (Option.some.inj ((toRat?_of_isZero hx).symm.trans hread))

/-- The shortest decimal of a number above zero follows it. -/
theorem follows_shortest {x : Binary64} {q : ℚ} {num den d : ℕ} {place : ℤ}
    (hx : x.significand ≠ 0) (hm : x.magnitude = (num, den)) (hnum : q = num / den) (hq : q < 1000)
    (h : x.shortest = (d, place)) : Numeral.Follows q (d * 10 ^ place) := by
  subst hnum
  have hd : (0 : ℚ) < d := by exact_mod_cast shortest_pos hx h
  constructor
  · intro _
    exact mul_pos hd (ten_zpow_pos place)
  · intro n hn
    exact decimal_le_hundreds hx hm h hq hn
  · intro n hn
    exact hundreds_le_decimal hx hm h hq hn
  · intro n hten hn
    exact tens_le_decimal hx hm h hq hten hn

end Binary64

/-! ## Measures -/

namespace Value

/-- A whole number is measured by the integer. -/
theorem measure_of_isWhole {v : Value} {n : ℤ} (h : v.isWhole n = true) :
    v.measure = toString n := by
  have h := of_decide_eq_true h
  cases v with
  | int m =>
    have hm : m = n := Rat.intCast_inj.1 (Option.some.inj h)
    rw [hm]
    rfl
  | float x =>
    have hx : x.toInt? = some n := by
      rw [Binary64.toInt?, show x.toRat? = some (n : ℚ) from h, Option.bind_some,
        if_pos (Rat.den_intCast n), Rat.num_intCast]
    simp only [measure, hx]
  | _ => cases h

theorem pixels_mem_inPixels {options : List ℤ} {v : Value}
    (h : Rule.isNumberOf options v = true) : v.pixels ∈ Catalog.inPixels options := by
  obtain ⟨n, hn, hv⟩ := List.any_eq_true.1 h
  rw [pixels, measure_of_isWhole hv]
  exact List.mem_map_of_mem hn

/-- The measure of a number of less than a thousand is a numeral that follows it. -/
theorem exists_numeral {v : Value} {q : ℚ} (hv : v.rat? = some q) (hlow : 0 ≤ q)
    (hhigh : q < 1000) : ∃ r, Numeral.value? v.measure = some r ∧ Numeral.Follows q r := by
  by_cases hwhole : q.den = 1
  · obtain ⟨n, hn⟩ := Int.eq_ofNat_of_zero_le (Rat.num_nonneg.2 hlow)
    have hq : q = (n : ℤ) := by
      rw [← hn, (Rat.den_eq_one_iff q).1 hwhole]
    have hv : v.isWhole n = true := decide_eq_true (hq ▸ hv)
    refine ⟨q, ?_, .refl q⟩
    rw [measure_of_isWhole hv, hq]
    exact Numeral.value?_natCast n
  · cases v with
    | int n =>
      cases hv
      exact absurd (Rat.den_intCast n) hwhole
    | float x =>
      have hpos : 0 < q := by
        refine hlow.lt_of_ne' ?_
        rintro rfl
        exact hwhole rfl
      obtain ⟨hfinite, hsign, hx, num, den, hm, hnum⟩ := Binary64.magnitude_of_pos hv hpos
      rcases h : x.shortest with ⟨d, place⟩
      refine ⟨d * 10 ^ place, ?_, Binary64.follows_shortest hx hm hnum hhigh h⟩
      have hint : x.toInt? = none := by
        rw [Binary64.toInt?, show x.toRat? = some q from hv, Option.bind_some, if_neg hwhole]
      simp only [measure, hint, plain, quoted]
      exact Numeral.value?_write _ hfinite hsign hx h
    | _ => cases hv

theorem isPixels {v : Value} {q : ℚ} {good : ℚ → Prop} (hv : v.rat? = some q) (hlow : 0 ≤ q)
    (hhigh : q < 1000) (hgood : ∀ r, Numeral.Follows q r → good r) :
    Numeral.IsPixels good v.pixels := by
  obtain ⟨r, hr, hfollows⟩ := exists_numeral hv hlow hhigh
  exact ⟨v.measure, r, rfl, hr, hgood r hfollows⟩

/-- The width of a logo. -/
theorem isPixels_logoWidth {v : Value}
    (h : v.isBetween Catalog.logoWidthMin Catalog.logoWidthMax = true) :
    Numeral.IsPixels (fun r => Catalog.logoWidthMin ≤ r ∧ r ≤ Catalog.logoWidthMax) v.pixels := by
  obtain ⟨q, hv, hlow, hhigh⟩ := isBetween_iff_exists.1 h
  norm_num [Catalog.logoWidthMin, Catalog.logoWidthMax] at hlow hhigh ⊢
  refine isPixels hv (by linarith) (by linarith) fun r hr => ?_
  have hr₁ := hr.tens_le 5
  have hr₂ := hr.le_hundreds 3
  norm_num at hr₁ hr₂
  exact ⟨hr₁ hlow, hr₂ hhigh⟩

/-- The width of a template. -/
theorem isPixels_contentWidth {v : Value}
    (h : v.isBetween Catalog.contentWidthMin Catalog.contentWidthMax = true) :
    Numeral.IsPixels (fun r => Catalog.contentWidthMin ≤ r ∧ r ≤ Catalog.contentWidthMax)
      v.pixels := by
  obtain ⟨q, hv, hlow, hhigh⟩ := isBetween_iff_exists.1 h
  norm_num [Catalog.contentWidthMin, Catalog.contentWidthMax] at hlow hhigh ⊢
  refine isPixels hv (by linarith) (by linarith) fun r hr => ?_
  have hr₁ := hr.hundreds_le 4
  have hr₂ := hr.le_hundreds 7
  norm_num at hr₁ hr₂
  exact ⟨hr₁ hlow, hr₂ hhigh⟩

/-- The width of an image that is not zero. -/
theorem isPixels_imageWidth {v : Value} (h : v.isBetween 0 Catalog.maxWidth = true)
    (hzero : v.isWhole 0 = false) :
    Numeral.IsPixels (fun r => 0 < r ∧ r ≤ Catalog.maxWidth) v.pixels := by
  obtain ⟨q, hv, hlow, hhigh⟩ := isBetween_iff_exists.1 h
  norm_num [Catalog.maxWidth] at hlow hhigh ⊢
  have hpos : 0 < q := by
    refine hlow.lt_of_ne' ?_
    rintro rfl
    exact of_decide_eq_false hzero hv
  refine isPixels hv hlow (by linarith) fun r hr => ?_
  have hr₂ := hr.le_hundreds 6
  norm_num at hr₂
  exact ⟨hr.pos hpos, hr₂ hhigh⟩

end Value

end EmailStudio
