import Mathlib

/-!
Cutting a list into bounded pieces, the arithmetic under every length-prefixed
transport.

* `pieces k xs`: the successive pieces of at most `k` elements, each with a
  flag that is set on the last one; `pieces_nil`, `pieces_short` and
  `pieces_long` are its three equations;
* `flatMap_pieces`: the payloads concatenate to the list that was cut;
* `length_of_mem_pieces`: every payload has between `1` and `k` elements;
* `length_pieces`, `of_mem_dropLast_pieces`, `getLast?_pieces`: how many pieces there
  are, and that all but the last are full.
-/

namespace Framing

variable {α : Type*}

/-- The pieces of at most `k` elements a list is cut into, in order. The flag
tells the last piece from the others; the empty list has no piece. -/
def pieces (k : ℕ) [NeZero k] (xs : List α) : List (Bool × List α) :=
  if xs = [] then []
  else if xs.length ≤ k then [(true, xs)]
  else (false, xs.take k) :: pieces k (xs.drop k)
termination_by xs.length
decreasing_by
  have hk := NeZero.pos k
  rw [List.length_drop]
  omega

variable {k : ℕ} [NeZero k]

@[simp] lemma pieces_nil : pieces k ([] : List α) = [] := by
  rw [pieces, if_pos rfl]

lemma pieces_short {xs : List α} (hne : xs ≠ []) (h : xs.length ≤ k) :
    pieces k xs = [(true, xs)] := by
  rw [pieces, if_neg hne, if_pos h]

lemma pieces_long {xs : List α} (h : k < xs.length) :
    pieces k xs = (false, xs.take k) :: pieces k (xs.drop k) := by
  have hne : xs ≠ [] := fun h0 => by simp [h0] at h
  rw [pieces, if_neg hne, if_neg (by omega)]

/-- A list and its pieces, by the recursion that cuts it: nothing is left, the
rest is the last piece, or a full piece is followed by the pieces of the rest. -/
@[elab_as_elim]
lemma pieces_induction {P : List α → Prop} (hnil : P [])
    (hshort : ∀ xs, xs ≠ [] → xs.length ≤ k → P xs)
    (hlong : ∀ xs, k < xs.length → P (xs.drop k) → P xs) (xs : List α) : P xs := by
  induction hn : xs.length using Nat.strong_induction_on generalizing xs with
  | _ n ih =>
      by_cases hne : xs = []
      · exact hne ▸ hnil
      · by_cases h : xs.length ≤ k
        · exact hshort xs hne h
        · have hk := NeZero.pos k
          exact hlong xs (by omega)
            (ih (xs.drop k).length (by rw [List.length_drop]; omega) _ rfl)

/-- The payloads concatenate to the list that was cut. -/
lemma flatMap_pieces (xs : List α) : (pieces k xs).flatMap Prod.snd = xs := by
  induction xs using pieces_induction (k := k) with
  | hnil => simp
  | hshort xs hne h => simp [pieces_short hne h]
  | hlong xs h ih => rw [pieces_long h, List.flatMap_cons, ih, List.take_append_drop]

/-- Every payload has between `1` and `k` elements. -/
lemma length_of_mem_pieces {xs : List α} {p : Bool × List α} (hp : p ∈ pieces k xs) :
    1 ≤ p.2.length ∧ p.2.length ≤ k := by
  have hk := NeZero.pos k
  induction xs using pieces_induction (k := k) with
  | hnil => simp at hp
  | hshort xs hne h =>
      rw [pieces_short hne h, List.mem_singleton] at hp
      have hpos := List.length_pos_iff.mpr hne
      subst hp
      exact ⟨hpos, h⟩
  | hlong xs h ih =>
      rw [pieces_long h, List.mem_cons] at hp
      rcases hp with rfl | hp
      · rw [List.length_take, Nat.min_eq_left h.le]
        exact ⟨hk, le_rfl⟩
      · exact ih hp

/-- There are as many pieces as it takes. -/
lemma length_pieces (xs : List α) : (pieces k xs).length = xs.length ⌈/⌉ k := by
  have hk := NeZero.pos k
  rw [Nat.ceilDiv_eq_add_pred_div]
  induction xs using pieces_induction (k := k) with
  | hnil =>
      rw [pieces_nil, List.length_nil, List.length_nil, Nat.zero_add]
      exact (Nat.div_eq_of_lt (by omega)).symm
  | hshort xs hne h =>
      have hpos := List.length_pos_iff.mpr hne
      rw [pieces_short hne h, List.length_singleton]
      exact (Nat.div_eq_of_lt_le (by omega) (by omega)).symm
  | hlong xs h ih =>
      have hstep : xs.length + k - 1 = xs.length - k + k - 1 + k := by omega
      rw [pieces_long h, List.length_cons, ih, List.length_drop, hstep, Nat.add_div_right _ hk]

/-- Behind a full piece comes another one. -/
lemma pieces_drop_ne_nil {xs : List α} (h : k < xs.length) : pieces k (xs.drop k) ≠ [] := by
  have hne : xs.drop k ≠ [] := by
    rw [Ne, List.drop_eq_nil_iff]
    omega
  rw [pieces, if_neg hne]
  split_ifs <;> exact List.cons_ne_nil _ _

/-- Every piece but the last is full, and its flag says that it is not the last. -/
lemma of_mem_dropLast_pieces {xs : List α} {p : Bool × List α} (hp : p ∈ (pieces k xs).dropLast) :
    p.1 = false ∧ p.2.length = k := by
  induction xs using pieces_induction (k := k) with
  | hnil => simp at hp
  | hshort xs hne h => simp [pieces_short hne h] at hp
  | hlong xs h ih =>
      rw [pieces_long h, List.dropLast_cons_of_ne_nil (pieces_drop_ne_nil h)] at hp
      rcases List.mem_cons.mp hp with rfl | hp
      · exact ⟨rfl, by rw [List.length_take]; omega⟩
      · exact ih hp

/-- The flag of the last piece. -/
lemma getLast?_pieces {xs : List α} {p : Bool × List α} (hp : p ∈ (pieces k xs).getLast?) :
    p.1 = true := by
  induction xs using pieces_induction (k := k) with
  | hnil => simp at hp
  | hshort xs hne h =>
      rw [pieces_short hne h] at hp
      obtain rfl := Option.some.inj hp
      rfl
  | hlong xs h ih =>
      rw [pieces_long h, List.getLast?_cons_of_ne_nil (pieces_drop_ne_nil h)] at hp
      exact ih hp

end Framing
