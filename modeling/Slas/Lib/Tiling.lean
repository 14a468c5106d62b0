import Mathlib
import Slas.Lib.Select

/-!
Ranges that are gone through piece by piece.

* `Tiling`: pieces, each a count and an offset, that follow one another;
* `Tiling.append`, `Tiling.concat`: tilings put together;
* `Tiling.eq_add_sum`: what the counts add up to;
* `Tiling.isChain`, `Tiling.offset_head`: where the pieces begin;
* `Tiling.countP_covers`: an index of the range is in exactly one piece;
* `Tiling.flatMap_page`: the pieces of a list make up the part of the range.
-/

/-- Pieces from `lo` to `hi`, each beginning where the one before it ends. A piece may be
empty. -/
inductive Tiling : ℕ → List (ℕ × ℕ) → ℕ → Prop where
  | nil (lo : ℕ) : Tiling lo [] lo
  | cons {lo hi count : ℕ} {pieces : List (ℕ × ℕ)} (h : Tiling (lo + count) pieces hi) :
      Tiling lo ((count, lo) :: pieces) hi

namespace Tiling

variable {lo mid hi : ℕ} {pieces pieces' : List (ℕ × ℕ)}

/-- A piece covers an index. -/
def Covers (piece : ℕ × ℕ) (i : ℕ) : Prop := piece.2 ≤ i ∧ i < piece.2 + piece.1

instance (piece : ℕ × ℕ) (i : ℕ) : Decidable (Covers piece i) := inferInstanceAs (Decidable (_ ∧ _))

lemma append (h : Tiling lo pieces mid) (h' : Tiling mid pieces' hi) :
    Tiling lo (pieces ++ pieces') hi := by
  induction h with
  | nil lo => exact h'
  | cons h ih => exact .cons (ih h')

/-- One more piece. -/
lemma concat (h : Tiling lo pieces mid) (count : ℕ) :
    Tiling lo (pieces ++ [(count, mid)]) (mid + count) :=
  h.append (.cons (.nil _))

/-- The counts add up to the length of the range. -/
lemma eq_add_sum (h : Tiling lo pieces hi) : hi = lo + (pieces.map Prod.fst).sum := by
  induction h with
  | nil lo => simp
  | cons h ih =>
      rw [ih, List.map_cons, List.sum_cons]
      omega

lemma le (h : Tiling lo pieces hi) : lo ≤ hi := by
  have hsum := h.eq_add_sum
  omega

/-- The first piece begins where the range does. -/
lemma offset_head (h : Tiling lo pieces hi) : ∀ piece ∈ pieces.head?, piece.2 = lo := by
  cases h with
  | nil => simp
  | cons h => simp

/-- The others begin where the one before ends. -/
lemma isChain (h : Tiling lo pieces hi) :
    pieces.IsChain fun piece next => next.2 = piece.2 + piece.1 := by
  induction h with
  | nil lo => exact .nil
  | cons h ih => exact List.isChain_cons.mpr ⟨h.offset_head, ih⟩

/-- **An index is in one piece** if it is in the range, and in none otherwise. -/
lemma countP_covers (h : Tiling lo pieces hi) (i : ℕ) :
    pieces.countP (Covers · i) = if lo ≤ i ∧ i < hi then 1 else 0 := by
  induction h with
  | nil lo =>
      rw [List.countP_nil, if_neg (by omega)]
  | @cons lo hi count pieces h ih =>
      have hle := h.le
      have hcovers : decide (Covers (count, lo) i) = true ↔ lo ≤ i ∧ i < lo + count :=
        decide_eq_true_iff
      rw [List.countP_cons, ih]
      simp only [hcovers]
      split_ifs <;> omega

/-- **The pieces of a list** make up its part. -/
lemma flatMap_page {α : Type} (h : Tiling lo pieces hi) (xs : List α) :
    pieces.flatMap (fun piece => Select.page piece.1 piece.2 xs)
      = Select.page (hi - lo) lo xs := by
  induction h with
  | nil lo => simp [Select.page]
  | @cons lo hi count pieces h ih =>
      have hle := h.le
      have hlength : hi - lo = count + (hi - (lo + count)) := by omega
      rw [List.flatMap_cons, ih, hlength]
      simp only [Select.page]
      rw [List.take_add, List.drop_drop]

end Tiling
