import Mathlib

/-!
Rounding a number to the nearest one of 53 binary digits, a tie going to the even one: the
finite doubles.

* `roundHalfEven`: the nearest integer;
* `spacing`, `nearest`: how far apart the doubles are there, and the nearest one;
* `nearest_eq_self_iff`: the numbers that are not changed;
* `nearest_intCast_of_le`: among them are the integers up to `2 ^ 53`;
* `exists_nearest_intCast`: an integer becomes an integer.
-/

namespace NearestDouble

/-- The nearest integer. -/
def roundHalfEven (q : ℚ) : ℤ :=
  if Int.fract q < 1 / 2 ∨ Int.fract q = 1 / 2 ∧ Even ⌊q⌋ then ⌊q⌋ else ⌊q⌋ + 1

/-- The exponent of the last digit. -/
def lastExponent (q : ℚ) : ℤ := max (Int.log 2 |q| - 52) (-1074)

/-- The value of a one in the last digit. -/
def spacing (q : ℚ) : ℚ := 2 ^ lastExponent q

/-- The nearest double. -/
def nearest (q : ℚ) : ℚ := roundHalfEven (q / spacing q) * spacing q

section Nearest

variable {q : ℚ} {n : ℤ}

lemma roundHalfEven_intCast (n : ℤ) : roundHalfEven n = n := by
  rw [roundHalfEven, if_pos (by simp), Int.floor_intCast]

lemma spacing_ne_zero (q : ℚ) : spacing q ≠ 0 := zpow_ne_zero _ two_ne_zero

/-- **The multiples of the spacing** are not changed, and no other numbers. -/
theorem nearest_eq_self_iff : nearest q = q ↔ ∃ k : ℤ, q = k * spacing q := by
  constructor
  · intro h
    exact ⟨_, h.symm⟩
  · rintro ⟨k, hk⟩
    have hquotient : q / spacing q = k := (div_eq_iff (spacing_ne_zero q)).mpr hk
    rw [nearest, hquotient, roundHalfEven_intCast, ← hk]

/-- Where the doubles are no more than one apart, the integers are among them. -/
lemma nearest_intCast_of_lastExponent (h : lastExponent n ≤ 0) : nearest n = n := by
  obtain ⟨k, hk⟩ := Int.exists_eq_neg_ofNat h
  refine nearest_eq_self_iff.mpr ⟨n * 2 ^ k, ?_⟩
  rw [spacing, hk, zpow_neg, zpow_natCast]
  push_cast
  field_simp

lemma log_abs_lt_of_lt {k : ℕ} (h : |n| < 2 ^ k) (hk : 0 < k) : Int.log 2 |(n : ℚ)| < k := by
  by_cases hn : n = 0
  · rw [hn, Int.cast_zero, abs_zero, Int.log_zero_right]
    exact_mod_cast hk
  · have hpos : 0 < |(n : ℚ)| := abs_pos.mpr (Int.cast_ne_zero.mpr hn)
    refine (Int.lt_zpow_iff_log_lt one_lt_two hpos).mp ?_
    rw [zpow_natCast]
    exact_mod_cast h

/-- **An integer of 53 binary digits is a double**, and so is the next one. -/
theorem nearest_intCast_of_le (h : |n| ≤ 2 ^ 53) : nearest n = n := by
  rcases h.lt_or_eq with hlt | heq
  · refine nearest_intCast_of_lastExponent (max_le ?_ (by decide))
    have hlog := log_abs_lt_of_lt hlt (by decide)
    push_cast at hlog
    omega
  · have habs : |(n : ℚ)| = ((2 : ℕ) : ℚ) ^ (53 : ℤ) := by
      exact_mod_cast congrArg (Int.cast : ℤ → ℚ) heq
    have hspacing : spacing n = 2 := by
      rw [spacing, lastExponent, habs, Int.log_zpow one_lt_two]
      rfl
    refine nearest_eq_self_iff.mpr ⟨n / 2, ?_⟩
    have heven : (2 : ℤ) ∣ n := by
      have hpower : (2 : ℤ) ∣ 2 ^ 53 := by decide
      rwa [← heq, dvd_abs] at hpower
    rw [hspacing]
    exact_mod_cast (Int.ediv_mul_cancel heven).symm

/-- **An integer becomes an integer.** -/
theorem exists_nearest_intCast (n : ℤ) : ∃ m : ℤ, nearest n = m := by
  by_cases h : lastExponent n ≤ 0
  · exact ⟨n, nearest_intCast_of_lastExponent h⟩
  · obtain ⟨k, hk⟩ := Int.eq_ofNat_of_zero_le (not_le.mp h).le
    refine ⟨roundHalfEven (n / spacing n) * 2 ^ k, ?_⟩
    rw [nearest, spacing, hk]
    push_cast
    rfl

end Nearest

end NearestDouble
