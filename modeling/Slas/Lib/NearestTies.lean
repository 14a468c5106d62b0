import Mathlib
import Slas.Lib.Nearest

/-!
The table of the nearest elements where several may be equally far.

A sort that is not stable may leave elements of one distance in any order, so what the
table holds is not determined.

* `Adds`: what the table may hold after an element has been put into it;
* `Keeps`: it holds as many elements as it can, and none that was seen is nearer than
  one it holds;
* `Keeps.adds`: `Adds` preserves it, whatever the sort makes of ties;
* `Keeps.map_key`: the distances are those of the nearest, which are determined.
-/

namespace Nearest

variable {α κ : Type} [LinearOrder κ] (key : α → κ) (size : ℕ)

/-- An element put into the table, unless it is there, by a sort in any order it may
leave. -/
def Adds [DecidableEq α] (table : List α) (x : α) (table' : List α) : Prop :=
  if x ∈ table then table' = table
  else ∃ sorted : List α, sorted.Perm (table ++ [x]) ∧
    (sorted.Pairwise fun a b => key a ≤ key b) ∧ table' = sorted.take size

/-- What a table holds after the elements of `xs`. -/
structure Keeps (xs table : List α) : Prop where
  nodup : table.Nodup
  subset : table ⊆ xs
  length_le : table.length ≤ size
  sorted : table.Pairwise fun a b => key a ≤ key b
  farther : ∀ a ∈ xs, a ∉ table → table.length = size ∧ ∀ b ∈ table, key b ≤ key a

variable {key size} {xs table table' : List α} {x : α}

lemma keeps_nil : Keeps key size [] [] where
  nodup := List.nodup_nil
  subset := List.Subset.refl _
  length_le := Nat.zero_le _
  sorted := List.Pairwise.nil
  farther := fun _ ha => absurd ha List.not_mem_nil

/-- What is behind the first elements of a sorted list is farther. -/
lemma le_of_mem_take_of_notMem {sorted : List α}
    (hsorted : sorted.Pairwise fun a b => key a ≤ key b) {a b : α} (hb : b ∈ sorted.take size)
    (ha : a ∈ sorted) (hnot : a ∉ sorted.take size) : key b ≤ key a := by
  rw [← List.take_append_drop size sorted] at hsorted ha
  exact (List.pairwise_append.mp hsorted).2.2 b hb a ((List.mem_append.mp ha).resolve_left hnot)

/-- The distances of the nearest depend on the elements only, not on their order. -/
lemma map_key_nearest_congr {ys : List α} (hperm : ys.Perm xs) :
    (nearest key size ys).map key = (nearest key size xs).map key := by
  rw [nearest, nearest, List.map_take, List.map_take]
  congr 1
  refine List.Perm.eq_of_pairwise (fun a b _ _ => le_antisymm)
    (List.pairwise_map.mpr (Select.orderBy_sorted key _))
    (List.pairwise_map.mpr (Select.orderBy_sorted key _)) (List.Perm.map key ?_)
  calc (Select.orderBy key ys).Perm ys := Select.orderBy_perm key ys
    List.Perm _ xs := hperm
    List.Perm _ (Select.orderBy key xs) := (Select.orderBy_perm key xs).symm

variable [DecidableEq α]

/-- An element that comes into a full table pushes another one out. -/
lemma exists_dropped {sorted : List α} (hperm : sorted.Perm (table ++ [x]))
    (hnodup : (table ++ [x]).Nodup) (hfull : size ≤ table.length) (hx : x ∈ sorted.take size) :
    ∃ d ∈ table, d ∉ sorted.take size := by
  by_contra hall
  push Not at hall
  have hsub : table ++ [x] ⊆ sorted.take size := fun e he => by
    rcases List.mem_append.mp he with he | he
    · exact hall e he
    · rwa [List.mem_singleton.mp he]
  have hcard := (hnodup.subperm hsub).length_le
  have hlength := hperm.length_eq
  rw [List.length_append, List.length_singleton, List.length_take] at hcard
  rw [List.length_append, List.length_singleton] at hlength
  omega

/-- **A table of the nearest stays one.** The element dropped is farther than all that
stay, and farther elements that come again are dropped again. -/
lemma Keeps.adds (h : Keeps key size xs table) (hadd : Adds key size table x table') :
    Keeps key size (xs ++ [x]) table' := by
  rw [Adds] at hadd
  split_ifs at hadd with hx
  · subst hadd
    refine { h with
      subset := fun a ha => List.mem_append_left _ (h.subset ha)
      farther := fun a ha hnot => h.farther a ?_ hnot }
    rcases List.mem_append.mp ha with ha | ha
    · exact ha
    · exact absurd (List.mem_singleton.mp ha ▸ hx) hnot
  · obtain ⟨sorted, hperm, hsorted, rfl⟩ := hadd
    have hmem : ∀ a, a ∈ sorted ↔ a ∈ table ∨ a = x := fun a => by
      rw [hperm.mem_iff, List.mem_append, List.mem_singleton]
    have hlength : sorted.length = table.length + 1 := by
      rw [hperm.length_eq, List.length_append, List.length_singleton]
    have hnew : (table ++ [x]).Nodup :=
      List.nodup_append.mpr ⟨h.nodup, List.nodup_singleton _, fun a ha b hb hab =>
        hx (List.mem_singleton.mp hb ▸ hab ▸ ha)⟩
    have hnodup : sorted.Nodup := hperm.nodup_iff.mpr hnew
    have hle := h.length_le
    refine ⟨hnodup.sublist (List.take_sublist _ _), fun a ha => ?_, ?_,
      hsorted.sublist (List.take_sublist _ _), fun a ha hnot => ?_⟩
    · rcases (hmem a).mp (List.mem_of_mem_take ha) with ha | rfl
      · exact List.mem_append_left _ (h.subset ha)
      · exact List.mem_append_right _ List.mem_cons_self
    · rw [List.length_take]
      omega
    · have hfull : table.length = size := by
        by_contra hne
        rw [List.take_of_length_le (by omega), hmem, not_or] at hnot
        rcases List.mem_append.mp ha with ha | ha
        · exact hne (h.farther a ha hnot.1).1
        · exact hnot.2 (List.mem_singleton.mp ha)
      refine ⟨by rw [List.length_take]; omega, fun b hb => ?_⟩
      by_cases hseen : a ∈ sorted
      · exact le_of_mem_take_of_notMem hsorted hb hseen hnot
      · -- `a` was not in the table before either
        rw [hmem, not_or] at hseen
        have ha : a ∈ xs := by simpa [hseen.2] using ha
        have hfar := (h.farther a ha hseen.1).2
        rcases (hmem b).mp (List.mem_of_mem_take hb) with hb | rfl
        · exact hfar b hb
        · -- `b` is new, so an element of the old table was dropped for it
          obtain ⟨d, hd, hdrop⟩ := exists_dropped hperm hnew hfull.ge hb
          calc key b ≤ key d := le_of_mem_take_of_notMem hsorted hb ((hmem d).mpr (.inl hd)) hdrop
            _ ≤ key a := hfar d hd

/-- **The distances kept** are the smallest of those seen. -/
theorem Keeps.map_key (h : Keeps key size xs table) :
    table.map key = (nearest key size xs.dedup).map key := by
  set rest := xs.dedup.filter (· ∉ table) with hrest
  have hmem : ∀ a, a ∈ rest ↔ a ∈ xs ∧ a ∉ table := fun a => by
    rw [hrest, List.mem_filter, List.mem_dedup, decide_eq_true_eq]
  have hperm : (table ++ rest).Perm xs.dedup := by
    have hnodup : (table ++ rest).Nodup :=
      List.nodup_append.mpr ⟨h.nodup, (List.nodup_dedup xs).filter _, fun a ha b hb hab =>
        ((hmem b).mp hb).2 (hab ▸ ha)⟩
    refine (List.perm_ext_iff_of_nodup hnodup (List.nodup_dedup xs)).mpr fun a => ?_
    rw [List.mem_append, hmem, List.mem_dedup]
    by_cases ha : a ∈ table
    · simp [ha, h.subset ha]
    · simp [ha]
  -- the distances of the table come before those of the rest
  have hsorted : (table.map key ++ (Select.orderBy key rest).map key).Pairwise (· ≤ ·) := by
    rw [← List.map_append, List.pairwise_map, List.pairwise_append]
    exact ⟨h.sorted, Select.orderBy_sorted key rest, fun b hb a ha =>
      have ha := (hmem a).mp (Select.mem_orderBy.mp ha)
      (h.farther a ha.1 ha.2).2 b hb⟩
  have hkeys : (Select.orderBy key xs.dedup).map key
      = table.map key ++ (Select.orderBy key rest).map key := by
    refine List.Perm.eq_of_pairwise (fun a b _ _ => le_antisymm)
      (List.pairwise_map.mpr (Select.orderBy_sorted key _)) hsorted ?_
    rw [← List.map_append]
    refine List.Perm.map key ?_
    calc (Select.orderBy key xs.dedup).Perm xs.dedup := Select.orderBy_perm key xs.dedup
      List.Perm _ (table ++ rest) := hperm.symm
      List.Perm _ (table ++ Select.orderBy key rest) :=
        (Select.orderBy_perm key rest).symm.append_left table
  rw [nearest, List.map_take, hkeys]
  by_cases hnil : rest = []
  · have hlength := h.length_le
    rw [hnil, Select.orderBy, List.mergeSort_nil, List.map_nil, List.append_nil,
      List.take_of_length_le (by rwa [List.length_map])]
  · obtain ⟨a, ha⟩ := List.exists_mem_of_ne_nil rest hnil
    have ha := (hmem a).mp ha
    rw [List.take_left' (by rw [List.length_map, (h.farther a ha.1 ha.2).1])]

/-- The table is as full as it can be. -/
lemma Keeps.length_eq (h : Keeps key size xs table) :
    table.length = min size xs.dedup.length := by
  have hlength := congrArg List.length h.map_key
  rwa [List.length_map, List.length_map, nearest, List.length_take,
    (Select.orderBy_perm key _).length_eq] at hlength

end Nearest
