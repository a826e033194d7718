import EmailStudio.Proofs.Markup.Columns
import Mathlib.Data.Rat.Floor

/-!
# The lengths of runs

Run number `i` of a list takes up behind the first `i` runs. By `Columns.spread_partitions` the runs
cut the list into as many parts as there are columns, and each part is as long as the number of
items for each column, rounded up, as far as the items reach.
-/

namespace EmailStudio.Columns

variable {α : Type}

theorem getElem_runs {length count : Nat} {items : List α} {i : Nat}
    (hi : i < (runs length count items).length) :
    (runs length count items)[i] = (items.drop (i * length)).take length := by
  induction count generalizing items i with
  | zero => cases hi
  | succ count ih =>
    cases i with
    | zero => simp only [runs, List.getElem_cons_zero, Nat.zero_mul, List.drop_zero]
    | succ i =>
      simp only [runs, List.getElem_cons_succ, ih, List.drop_drop]
      rw [Nat.succ_mul, Nat.add_comm]

theorem length_getElem_runs {length count : Nat} {items : List α} {i : Nat}
    (hi : i < (runs length count items).length) :
    (runs length count items)[i].length = min length (items.length - i * length) := by
  rw [getElem_runs, List.length_take, List.length_drop]

/-- Without items all runs are empty. -/
theorem runs_nil (length count : Nat) :
    runs length count ([] : List α) = List.replicate count [] := by
  induction count with
  | zero => rfl
  | succ count ih => rw [runs, List.take_nil, List.drop_nil, ih, List.replicate_succ]

/-- Items or not, what is spread over one column or more is cut into runs. -/
theorem spread_eq_runs {count : Int} (h : 1 ≤ count) (items : List α) :
    spread items count = .ok (runs (runLength items.length count.toNat) count.toNat items) := by
  unfold spread
  by_cases hempty : items.isEmpty = true
  · rw [if_pos hempty, List.isEmpty_iff.1 hempty, runs_nil]
  · rw [if_neg hempty, if_neg (by omega)]

/-- Runs are as long as the number of items for each column, rounded up. -/
theorem runLength_eq_ceil (size : Nat) {count : Nat} (h : 0 < count) :
    (runLength size count : Int) = ⌈(size : ℚ) / count⌉ := by
  have hlow : size ≤ runLength size count * count := le_runLength_mul h
  have hhigh : runLength size count * count < size + count := by
    have hdiv := Nat.div_mul_le_self (size + count - 1) count
    rw [runLength]
    omega
  have hcount : (0 : ℚ) < count := Nat.cast_pos.2 h
  symm
  rw [Int.ceil_eq_iff]
  constructor
  · rw [lt_div_iff₀ hcount, sub_mul, one_mul, sub_lt_iff_lt_add]
    exact_mod_cast hhigh
  · rw [div_le_iff₀ hcount]
    exact_mod_cast hlow

/-- Spreading items over columns cuts their list into as many parts as there are columns. Each part
has as many items as come to a column, rounded up, or as many as are left; so none follows a shorter
one. -/
theorem spread_partitions (items : List α) {count : Int} (h : 1 ≤ count) :
    ∃ parts, spread items count = .ok parts ∧ (parts.length : Int) = count ∧
      parts.flatten = items ∧
      (∀ (i : Nat) (hi : i < parts.length), (parts[i].length : Int) =
        min ⌈(items.length : ℚ) / count⌉
          (max 0 (items.length - i * ⌈(items.length : ℚ) / count⌉))) ∧
      parts.Pairwise fun before after => after.length ≤ before.length := by
  obtain ⟨k, rfl⟩ : ∃ k : Nat, count = k := ⟨count.toNat, by omega⟩
  have hk : 0 < k := by omega
  refine ⟨_, spread_eq_runs h items, ?_, flatten_runs (le_runLength_mul hk), ?_, ?_⟩
  · rw [length_runs, Int.toNat_natCast]
  · intro i hi
    rw [length_getElem_runs, Int.cast_natCast, ← runLength_eq_ceil items.length hk,
      Int.toNat_natCast]
    push_cast
    omega
  · rw [List.pairwise_iff_getElem]
    intro i j hi hj hij
    rw [length_getElem_runs, length_getElem_runs]
    have hle := Nat.mul_le_mul_right (runLength items.length (k : Int).toNat) hij.le
    omega

/-- Five items over four columns: two come to a column, and none is left for the last one. -/
theorem spread_partitions_five :
    (1 : Int) ≤ 4 ∧ spread [1, 2, 3, 4, 5] 4 = .ok [[1, 2], [3, 4], [5], []] ∧
      ([[1, 2], [3, 4], [5], []] : List (List Nat)).flatten = [1, 2, 3, 4, 5] ∧
      (([5] : List Nat).length : Int) = min 2 (max 0 (5 - 2 * 2)) ∧
      ([[1, 2], [3, 4], [5], []] : List (List Nat)).Pairwise
        fun before after => after.length ≤ before.length := by
  obtain ⟨parts, hspread, -, hflat, hlengths, hpairwise⟩ :=
    spread_partitions [1, 2, 3, 4, 5] (by decide : (1 : Int) ≤ 4)
  have hparts : spread [1, 2, 3, 4, 5] 4 = .ok [[1, 2], [3, 4], [5], []] := rfl
  cases hparts.symm.trans hspread
  have hceil : ⌈(([1, 2, 3, 4, 5] : List Nat).length : ℚ) / (4 : Int)⌉ = 2 := by
    rw [Int.ceil_eq_iff]
    norm_num
  have hthird := hlengths 2 (by decide)
  rw [hceil] at hthird
  exact ⟨by decide, rfl, hflat, hthird, hpairwise⟩

end EmailStudio.Columns
