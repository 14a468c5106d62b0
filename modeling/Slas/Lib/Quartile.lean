import Mathlib
import Slas.Lib.Select

/-!
Quartiles and outliers of a list of numbers.

* `quartile`: the element of the sorted list at rank `⌈kn/4⌉`, counted from one;
* `IsOutlier`: more than one and a half interquartile ranges above the upper
  quartile;
* `quartile_perm`, `isOutlier_perm`: the order of the list does not matter;
* `le_countP_not_isOutlier`: at least three quarters of the list, rounded up, are
  no outliers.
-/

namespace Quartile

/-- The rank of the `k`-th quartile of `n` numbers. -/
def rank (k n : ℕ) : ℕ := ⌈(k * n : ℚ) / 4⌉₊

lemma rank_eq (k n : ℕ) : rank k n = (k * n + 3) / 4 := by
  have hle : ∀ m : ℕ, (k * n : ℚ) / 4 ≤ m ↔ k * n ≤ 4 * m := by
    intro m
    rw [div_le_iff₀ (by norm_num), ← Nat.cast_mul, mul_comm (m : ℚ), ← Nat.cast_ofNat,
      ← Nat.cast_mul, Nat.cast_le]
  refine le_antisymm (Nat.ceil_le.mpr ((hle _).mpr (by omega))) ?_
  have := (hle (rank k n)).mp (Nat.le_ceil _)
  omega

/-- The `k`-th quartile. -/
def quartile (k : ℕ) (xs : List ℤ) : ℤ := (Select.orderBy id xs).getD (rank k xs.length - 1) 0

/-- More than one and a half interquartile ranges above the upper quartile. -/
def IsOutlier (xs : List ℤ) (x : ℤ) : Prop :=
  2 * x > 2 * quartile 3 xs + 3 * (quartile 3 xs - quartile 1 xs)

instance (xs : List ℤ) (x : ℤ) : Decidable (IsOutlier xs x) := inferInstanceAs (Decidable (_ > _))

variable {xs ys : List ℤ}

/-- A sorted rearrangement of a list is what sorting makes of it. -/
lemma orderBy_id_eq (hperm : ys.Perm xs) (hsorted : ys.Pairwise (· ≤ ·)) :
    Select.orderBy id xs = ys :=
  Select.orderBy_eq (fun _ _ _ _ h => h) hperm hsorted

lemma orderBy_id_perm (h : xs.Perm ys) : Select.orderBy id xs = Select.orderBy id ys :=
  orderBy_id_eq ((Select.orderBy_perm id ys).trans h.symm) (Select.orderBy_sorted id ys)

/-- The order of the list does not matter. -/
lemma quartile_perm (k : ℕ) (h : xs.Perm ys) : quartile k xs = quartile k ys := by
  rw [quartile, quartile, orderBy_id_perm h, h.length_eq]

lemma isOutlier_perm (h : xs.Perm ys) (x : ℤ) : IsOutlier xs x ↔ IsOutlier ys x := by
  rw [IsOutlier, IsOutlier, quartile_perm 1 h, quartile_perm 3 h]

/-- Elements of the sorted list, by their positions. -/
lemma getD_orderBy_le (xs : List ℤ) {i j : ℕ} (hij : i ≤ j) (hj : j < xs.length) :
    (Select.orderBy id xs).getD i 0 ≤ (Select.orderBy id xs).getD j 0 := by
  have hlen := (Select.orderBy_perm id xs).length_eq
  have hsorted := Select.orderBy_sorted id xs
  rw [List.getD_eq_getElem _ 0 (hlen ▸ hij.trans_lt hj), List.getD_eq_getElem _ 0 (hlen ▸ hj)]
  rcases hij.eq_or_lt with rfl | hlt
  · exact le_rfl
  · exact List.pairwise_iff_getElem.mp hsorted i j _ _ hlt

lemma quartile_one_le_three (xs : List ℤ) : quartile 1 xs ≤ quartile 3 xs := by
  rcases xs.length.eq_zero_or_pos with hnil | hpos
  · rw [List.eq_nil_of_length_eq_zero hnil]
    simp [quartile, Select.orderBy]
  · refine getD_orderBy_le xs ?_ ?_
    · rw [rank_eq, rank_eq]
      omega
    · rw [rank_eq]
      omega

/-- The upper quartile is no outlier, nor is what is below. -/
lemma not_isOutlier_of_le {x : ℤ} (h : x ≤ quartile 3 xs) : ¬IsOutlier xs x := by
  have := quartile_one_le_three xs
  rw [IsOutlier]
  omega

/-- **Three quarters are no outliers.** -/
lemma le_countP_not_isOutlier (xs : List ℤ) :
    rank 3 xs.length ≤ xs.countP fun x => ¬IsOutlier xs x := by
  have hlen := (Select.orderBy_perm id xs).length_eq
  have hrank : rank 3 xs.length ≤ xs.length := by
    rw [rank_eq]
    omega
  set first := (Select.orderBy id xs).take (rank 3 xs.length) with hfirst
  have hall : ∀ x ∈ first, decide (¬IsOutlier xs x) = true := by
    intro x hx
    obtain ⟨i, hi, rfl⟩ := List.mem_iff_getElem.mp hx
    rw [hfirst, List.length_take] at hi
    refine decide_eq_true (not_isOutlier_of_le ?_)
    have hle := getD_orderBy_le xs (i := i) (j := rank 3 xs.length - 1) (by omega) (by omega)
    rw [List.getD_eq_getElem _ 0 (by omega)] at hle
    rw [← quartile, ← List.getElem_take (h := by omega)] at hle
    exact hle
  calc rank 3 xs.length = first.length := by
        rw [hfirst, List.length_take]
        omega
    _ = first.countP fun x => ¬IsOutlier xs x := (List.countP_eq_length.mpr hall).symm
    _ ≤ (Select.orderBy id xs).countP fun x => ¬IsOutlier xs x :=
        (List.take_sublist _ _).countP_le
    _ = xs.countP fun x => ¬IsOutlier xs x := (Select.orderBy_perm id xs).countP_eq _

end Quartile
