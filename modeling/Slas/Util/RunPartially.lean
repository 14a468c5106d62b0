import Mathlib
import Slas.Lib.Prog
import Slas.Lib.Tiling

/-!
`util::RunPartially`, `libslas/src/util/run_partially.cpp`: a long list of rows
is asked for in parts.

* `parts`: the number of rows and the offset of each part;
* `runPartially`: the function called with each of them, its captured variables
  as an accumulator;
* `tiling_parts`: the parts follow one another up to the number of rows;
* `flatMap_parts`: the parts of a list make up its first rows;
* `exec_runPartially`: rows that are used up part by part;
* `calls`: the calls of the function, and `goesThrough_calls`, that they go through the
  rows, each row in exactly one of them.
-/

namespace Slas

/-- The calls of `util::RunPartially`: the parts that are full, and what is left. -/
def parts (partCount summaryCount : ℕ) : List (ℕ × ℕ) :=
  (List.range (summaryCount / partCount)).map (fun i => (partCount, i * partCount)) ++
    if 0 < summaryCount % partCount then
      [(summaryCount % partCount, summaryCount - summaryCount % partCount)]
    else []

/-- `util::RunPartially`. -/
def runPartially {m : Type → Type*} [Monad m] {α : Type} (partCount summaryCount : ℕ)
    (f : α → ℕ → ℕ → m α) (a : α) : m α :=
  (parts partCount summaryCount).foldlM (fun a part => f a part.1 part.2) a

/-- The parts that are full. -/
lemma tiling_full_parts (partCount k : ℕ) :
    Tiling 0 ((List.range k).map fun i => (partCount, i * partCount)) (k * partCount) := by
  induction k with
  | zero =>
      rw [Nat.zero_mul]
      exact .nil 0
  | succ k ih =>
      rw [List.range_succ, List.map_append, Nat.succ_mul]
      exact ih.concat partCount

/-- The parts follow one another up to the number of rows. -/
lemma tiling_parts (partCount summaryCount : ℕ) :
    Tiling 0 (parts partCount summaryCount) summaryCount := by
  have hdiv := Nat.div_add_mod' summaryCount partCount
  have hsub : summaryCount - summaryCount % partCount = summaryCount / partCount * partCount := by
    omega
  have hfull := tiling_full_parts partCount (summaryCount / partCount)
  rw [parts, hsub]
  split_ifs with hleft
  · have hall := hfull.concat (summaryCount % partCount)
    rwa [hdiv] at hall
  · rw [show summaryCount / partCount * partCount = summaryCount by omega] at hfull
    rwa [List.append_nil]

/-- No row is left out. -/
lemma sum_parts (partCount summaryCount : ℕ) :
    ((parts partCount summaryCount).map (·.1)).sum = summaryCount := by
  have hsum := (tiling_parts partCount summaryCount).eq_add_sum
  rw [Nat.zero_add] at hsum
  exact hsum.symm

/-- No part is empty. -/
lemma pos_of_mem_parts {partCount summaryCount : ℕ} (hcount : 0 < partCount) {part : ℕ × ℕ}
    (h : part ∈ parts partCount summaryCount) : 0 < part.1 := by
  rcases List.mem_append.mp h with h | h
  · obtain ⟨i, -, rfl⟩ := List.mem_map.mp h
    exact hcount
  · split_ifs at h with hleft
    · rw [List.mem_singleton] at h
      exact h ▸ hleft
    · exact absurd h List.not_mem_nil

/-- The rule for rows that are used up: `I` speaks of the rows still to come, and
every part uses up as many of them as it is told. -/
lemma exec_runPartially {σ φ ε α β : Type} {f : α → ℕ → ℕ → Prog σ φ ε α}
    {I : List β → α → σ → Prop}
    (hstep : ∀ limit offset rest a s, limit ≤ rest.length → I rest a s →
      ∃ a' s', (f a limit offset).exec s = (.ok a', s') ∧ I (rest.drop limit) a' s')
    (partCount : ℕ) {xs : List β} {a : α} {s : σ} (h : I xs a s) :
    ∃ a' s', (runPartially partCount xs.length f a).exec s = (.ok a', s') ∧ I [] a' s' := by
  suffices hgen : ∀ (ps : List (ℕ × ℕ)) (rest : List β) (a : α) (s : σ),
      (ps.map (·.1)).sum = rest.length → I rest a s →
        ∃ a' s', (ps.foldlM (fun a part => f a part.1 part.2) a).exec s = (.ok a', s') ∧
          I [] a' s' from
    hgen _ xs a s (sum_parts partCount xs.length) h
  intro ps
  induction ps with
  | nil =>
      intro rest a s hsum hI
      obtain rfl : rest = [] := List.length_eq_zero_iff.mp hsum.symm
      exact ⟨a, s, rfl, hI⟩
  | cons part ps ih =>
      intro rest a s hsum hI
      rw [List.map_cons, List.sum_cons] at hsum
      obtain ⟨a₁, s₁, hrun, hI₁⟩ := hstep part.1 part.2 rest a s (by omega) hI
      obtain ⟨a₂, s₂, hrest, hI₂⟩ :=
        ih (rest.drop part.1) a₁ s₁ (by rw [List.length_drop]; omega) hI₁
      exact ⟨a₂, s₂, by rw [List.foldlM_cons, Prog.exec_bind_ok hrun, hrest], hI₂⟩

/-- The parts of a list make up its first rows. -/
lemma flatMap_parts {α : Type} (partCount summaryCount : ℕ) (xs : List α) :
    (parts partCount summaryCount).flatMap (fun part => Select.page part.1 part.2 xs)
      = xs.take summaryCount :=
  calc (parts partCount summaryCount).flatMap (fun part => Select.page part.1 part.2 xs)
      = Select.page (summaryCount - 0) 0 xs := (tiling_parts partCount summaryCount).flatMap_page xs
    _ = xs.take summaryCount := by rw [Select.page, List.drop_zero, Nat.sub_zero]

lemma le_of_mem_parts {partCount summaryCount : ℕ} (hcount : 0 < partCount) {part : ℕ × ℕ}
    (h : part ∈ parts partCount summaryCount) : part.1 ≤ partCount := by
  rcases List.mem_append.mp h with h | h
  · obtain ⟨i, -, rfl⟩ := List.mem_map.mp h
    exact le_rfl
  · split_ifs at h with hleft
    · rw [List.mem_singleton.mp h]
      exact (Nat.mod_lt _ hcount).le
    · exact absurd h List.not_mem_nil

/-- Parts asked for without their offset hold the rows of the first one only. -/
lemma mem_flatMap_parts_zero {α : Type} {partCount : ℕ} (hcount : 0 < partCount) (xs : List α)
    (a : α) : a ∈ (parts partCount xs.length).flatMap (fun part => Select.page part.1 0 xs) ↔
      a ∈ xs.take partCount := by
  simp only [List.mem_flatMap, Select.page, List.drop_zero]
  constructor
  · rintro ⟨part, hpart, ha⟩
    exact (List.take_sublist_take_left (le_of_mem_parts hcount hpart)).subset ha
  · intro ha
    by_cases hfull : partCount ≤ xs.length
    · have hpos : 0 < xs.length / partCount := Nat.div_pos hfull hcount
      refine ⟨(partCount, 0 * partCount), List.mem_append_left _ ?_, ha⟩
      exact List.mem_map.mpr ⟨0, List.mem_range.mpr hpos, rfl⟩
    · have hmod : xs.length % partCount = xs.length := Nat.mod_eq_of_lt (not_le.mp hfull)
      have hpos : 0 < xs.length := List.length_pos_of_mem (List.mem_of_mem_take ha)
      refine ⟨(xs.length, 0), List.mem_append_right _ ?_, ?_⟩
      · rw [if_pos (hmod.symm ▸ hpos), hmod, Nat.sub_self]
        exact List.mem_singleton_self _
      · rw [List.take_length]
        exact List.mem_of_mem_take ha

/-! ### The calls -/

/-- The calls that are made of the function, each with its count and its offset. -/
def calls (partCount summaryCount : ℕ) : List (ℕ × ℕ) :=
  (runPartially (m := Id) partCount summaryCount
    (fun calls count offset => pure (calls ++ [(count, offset)])) []).run

/-- Calls that go through `summaryCount` rows from the first to the last. -/
structure GoesThrough (partCount summaryCount : ℕ) (calls : List (ℕ × ℕ)) : Prop where
  counts : ∀ call ∈ calls, 1 ≤ call.1 ∧ call.1 ≤ partCount
  first : ∀ call ∈ calls.head?, call.2 = 0
  next : calls.IsChain fun call next => next.2 = call.2 + call.1
  total : (calls.map Prod.fst).sum = summaryCount
  covered : ∀ i < summaryCount, calls.countP (fun call => call.2 ≤ i ∧ i < call.2 + call.1) = 1

lemma calls_eq_parts (partCount summaryCount : ℕ) :
    calls partCount summaryCount = parts partCount summaryCount := by
  have hfold : ∀ (ps calls : List (ℕ × ℕ)),
      (ps.foldlM (m := Id) (fun calls part => pure (calls ++ [(part.1, part.2)])) calls).run
        = calls ++ ps := by
    intro ps
    induction ps with
    | nil => exact fun calls => (List.append_nil calls).symm
    | cons part ps ih =>
        intro calls
        refine (ih (calls ++ [part])).trans ?_
        rw [List.append_assoc, List.singleton_append]
  exact hfold (parts partCount summaryCount) []

/-- **The calls go through all rows**, whatever the size of a part. -/
theorem goesThrough_calls {partCount : ℕ} (hcount : 0 < partCount) (summaryCount : ℕ) :
    GoesThrough partCount summaryCount (calls partCount summaryCount) := by
  have htiling := tiling_parts partCount summaryCount
  rw [calls_eq_parts]
  refine ⟨fun call hcall => ?_, htiling.offset_head, htiling.isChain, sum_parts _ _, fun i hi => ?_⟩
  · exact ⟨pos_of_mem_parts hcount hcall, le_of_mem_parts hcount hcall⟩
  · exact (htiling.countP_covers i).trans (if_pos ⟨Nat.zero_le i, hi⟩)

/-- Two full parts and what is left. -/
theorem goesThrough_calls_left : GoesThrough 100 212 [(100, 0), (100, 100), (12, 200)] :=
  goesThrough_calls (by decide) 212

end Slas
