import Mathlib

/-!
Conditions of a `where` clause.

* `Comparison`: a column compared with a value;
* `Disjunction`: comparisons joined by `and`, and these joined by `or`;
* `lexicographic`: the rows on one side of a bound in the order of several columns,
  written out as SQL needs it, one conjunction for every column that may decide;
* `holds_lexicographic_ge`, `holds_lexicographic_le`: it is the lexicographic order
  of the columns.
-/

namespace Condition

/-- The comparisons. -/
inductive Relation where
  | lt
  | le
  | eq
  | ge
  | gt
  deriving DecidableEq

variable {C κ : Type} [LinearOrder κ]

/-- What a comparison says. -/
def Relation.holds : Relation → κ → κ → Bool
  | .lt, a, b => a < b
  | .le, a, b => a ≤ b
  | .eq, a, b => a = b
  | .ge, a, b => a ≥ b
  | .gt, a, b => a > b

/-- A column compared with a value. -/
structure Comparison (C κ : Type) where
  column : C
  relation : Relation
  value : κ
  deriving DecidableEq

/-- Comparisons joined by `and`, and these joined by `or`. -/
abbrev Disjunction (C κ : Type) := List (List (Comparison C κ))

/-- Whether a row satisfies a condition. -/
def holds (row : C → κ) (condition : Disjunction C κ) : Bool :=
  condition.any fun conjunction =>
    conjunction.all fun c => c.relation.holds (row c.column) c.value

/-- The rows past the bounds, which are given from the column that decides first to the
one that decides last. -/
def lexicographic (strict loose : Relation) : List (C × κ) → Disjunction C κ
  | [] => []
  | [(column, value)] => [[⟨column, loose, value⟩]]
  | (column, value) :: bound :: bounds =>
      [⟨column, strict, value⟩] ::
        (lexicographic strict loose (bound :: bounds)).map (⟨column, .eq, value⟩ :: ·)

variable {row : C → κ} {strict loose : Relation}

/-- A comparison in front of every conjunction. -/
lemma holds_map_cons (c : Comparison C κ) (condition : Disjunction C κ) :
    holds row (condition.map (c :: ·))
      = (c.relation.holds (row c.column) c.value && holds row condition) := by
  induction condition with
  | nil => simp [holds]
  | cons conjunction condition ih =>
      simp only [holds, List.map_cons, List.any_cons, List.all_cons] at ih ⊢
      rw [ih, Bool.and_or_distrib_left]

/-- The first column decides, or leaves it to the others. -/
lemma holds_lexicographic_cons {column : C} {value : κ} {bound : C × κ} {bounds : List (C × κ)} :
    holds row (lexicographic strict loose ((column, value) :: bound :: bounds)) = true ↔
      strict.holds (row column) value = true ∨
        row column = value ∧ holds row (lexicographic strict loose (bound :: bounds)) = true := by
  rw [lexicographic, holds, List.any_cons, ← holds, holds_map_cons]
  simp [Relation.holds]

/-- The first elements decide, or leave it to the others. -/
lemma cons_le_cons {a b : κ} {as bs : List κ} : a :: as ≤ b :: bs ↔ a < b ∨ a = b ∧ as ≤ bs := by
  rw [← not_lt, List.cons_lt_cons_iff, ← not_lt]
  rcases lt_trichotomy a b with h | rfl | h
  · simp [h, h.not_gt, h.ne']
  · simp
  · simp [h, h.not_gt, h.ne']

/-- **Not before the bounds.** -/
theorem holds_lexicographic_ge {bounds : List (C × κ)} (hne : bounds ≠ []) :
    holds row (lexicographic .gt .ge bounds) = true ↔
      bounds.map (·.2) ≤ bounds.map fun b => row b.1 := by
  induction bounds with
  | nil => exact absurd rfl hne
  | cons bound bounds ih =>
      cases bounds with
      | nil =>
          simp only [List.map_cons, List.map_nil, cons_le_cons, le_refl, and_true]
          simp [lexicographic, holds, Relation.holds, le_iff_lt_or_eq]
      | cons next bounds =>
          have hrest := ih (List.cons_ne_nil next bounds)
          rw [List.map_cons (a := bound), List.map_cons (a := bound), cons_le_cons,
            holds_lexicographic_cons, hrest]
          simp [Relation.holds, eq_comm]

/-- **Not behind the bounds.** -/
theorem holds_lexicographic_le {bounds : List (C × κ)} (hne : bounds ≠ []) :
    holds row (lexicographic .lt .le bounds) = true ↔
      (bounds.map fun b => row b.1) ≤ bounds.map (·.2) := by
  induction bounds with
  | nil => exact absurd rfl hne
  | cons bound bounds ih =>
      cases bounds with
      | nil =>
          simp only [List.map_cons, List.map_nil, cons_le_cons, le_refl, and_true]
          simp [lexicographic, holds, Relation.holds, le_iff_lt_or_eq]
      | cons next bounds =>
          have hrest := ih (List.cons_ne_nil next bounds)
          rw [List.map_cons (a := bound), List.map_cons (a := bound), cons_le_cons,
            holds_lexicographic_cons, hrest]
          simp [Relation.holds]

end Condition
