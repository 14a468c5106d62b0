import Mathlib
import Slas.Type.NumbersText

/-!
`std::to_string` of an `int`, and what `std::stoi` makes of it.

* `decimal`: the digits of a number;
* `stdToString`: the digits, behind a sign if need be;
* `ofDigits_decimal`, `length_decimal_le_iff`: which number they denote, and how many
  they are.
-/

namespace Slas

/-- The decimal digits of a number. -/
def decimal (n : ℕ) : Str := (Nat.toDigits 10 n).map byte

/-- `std::to_string`. -/
def stdToString (n : ℤ) : Str :=
  if n < 0 then byte '-' :: decimal n.natAbs else decimal n.natAbs

lemma stdToString_of_nonneg {n : ℤ} (h : 0 ≤ n) : stdToString n = decimal n.natAbs :=
  if_neg (not_lt.mpr h)

lemma toNat_digitChar {d : ℕ} (h : d < 10) : (byte d.digitChar).toNat = 48 + d := by
  interval_cases d <;> rfl

/-- The last digit and those before it. -/
lemma decimal_eq (n : ℕ) : decimal n
    = if n < 10 then [byte n.digitChar] else decimal (n / 10) ++ [byte (n % 10).digitChar] := by
  rw [decimal, Nat.toDigits_eq_if (by decide)]
  split_ifs
  · rfl
  · rw [List.map_append, decimal]
    rfl

lemma isDigit_decimal (n : ℕ) : ∀ c ∈ decimal n, isDigit c = true := by
  have hdigit : ∀ d < 10, isDigit (byte d.digitChar) = true := by decide
  induction n using Nat.strong_induction_on with
  | _ n ih =>
      intro c hc
      rw [decimal_eq] at hc
      split_ifs at hc with hn
      · rw [List.mem_singleton.mp hc]
        exact hdigit n hn
      · rcases List.mem_append.mp hc with hc | hc
        · exact ih (n / 10) (by omega) c hc
        · rw [List.mem_singleton.mp hc]
          exact hdigit (n % 10) (by omega)

/-- **The digits denote the number.** -/
lemma ofDigits_decimal (n : ℕ) : ofDigits (decimal n) = n := by
  induction n using Nat.strong_induction_on with
  | _ n ih =>
      rw [decimal_eq]
      split_ifs with hn
      · rw [← List.nil_append [byte n.digitChar], ofDigits_concat, toNat_digitChar hn]
        simp [ofDigits]
      · have hquotient := ih (n / 10) (by omega)
        rw [ofDigits_concat, hquotient, toNat_digitChar (by omega)]
        omega

lemma length_decimal_pos (n : ℕ) : 0 < (decimal n).length := by
  rw [decimal, List.length_map]
  exact Nat.length_toDigits_pos

lemma length_decimal_le_iff {n k : ℕ} (hk : 0 < k) : (decimal n).length ≤ k ↔ n < 10 ^ k := by
  rw [decimal, List.length_map]
  exact Nat.length_toDigits_le_iff (by decide) hk

section Printed

variable {n : ℤ}

lemma ofDigits_stdToString (h : 0 ≤ n) : ofDigits (stdToString n) = n := by
  rw [stdToString_of_nonneg h, ofDigits_decimal, Int.natAbs_of_nonneg h]

/-- A number that is not negative is printed as digits. -/
lemma isDigits_stdToString (h : 0 ≤ n) {most : ℕ} (hmost : 0 < most) (hn : n < 10 ^ most) :
    IsDigits 1 most (stdToString n) := by
  obtain ⟨m, rfl⟩ := Int.eq_ofNat_of_zero_le h
  rw [stdToString_of_nonneg h, Int.natAbs_natCast]
  exact ⟨isDigit_decimal m, length_decimal_pos m,
    (length_decimal_le_iff hmost).mpr (by exact_mod_cast hn)⟩

lemma length_stdToString_le_iff (h : 0 ≤ n) {k : ℕ} (hk : 0 < k) :
    (stdToString n).length ≤ k ↔ n < 10 ^ k := by
  obtain ⟨m, rfl⟩ := Int.eq_ofNat_of_zero_le h
  rw [stdToString_of_nonneg h, Int.natAbs_natCast, length_decimal_le_iff hk]
  exact_mod_cast Iff.rfl

end Printed

end Slas
