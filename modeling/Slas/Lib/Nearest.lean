import Mathlib
import Slas.Lib.Select

/-!
A table of the nearest elements seen so far.

* `nearest`: the first elements by their key, which is a distance;
* `add`: an element put into a table of bounded size, which drops the farthest;
* `foldl_add_eq_nearest`: elements added in any order, and as often as one
  likes, leave the nearest of them in the table.

An element that was dropped may come again. It is farther than those that are in
the table, so it is dropped again.
-/

namespace Nearest

variable {α κ : Type} [LinearOrder κ] (key : α → κ) (size : ℕ)

/-- The nearest elements. -/
def nearest (xs : List α) : List α := (Select.orderBy key xs).take size

/-- An element put into the table, unless it is there. -/
def add [DecidableEq α] (table : List α) (x : α) : List α :=
  if x ∈ table then table else (Select.orderBy key (table ++ [x])).take size

variable {key size} {xs ys : List α} {x : α}

/-- Elements at different distances have one order. -/
lemma nearest_congr (hinj : Set.InjOn key {a | a ∈ xs}) (hperm : ys.Perm xs) :
    nearest key size xs = nearest key size ys := by
  have hsorted := Select.orderBy_sorted key ys
  rw [nearest, nearest, Select.orderBy_eq hinj ((Select.orderBy_perm key ys).trans hperm) hsorted]

lemma mem_of_mem_nearest {a : α} (h : a ∈ nearest key size xs) : a ∈ xs :=
  Select.mem_orderBy.mp (List.mem_of_mem_take h)

/-- The nearest are in order. -/
lemma nearest_sorted : (nearest key size xs).Pairwise fun a b => key a ≤ key b :=
  (Select.orderBy_sorted key xs).sublist (List.take_sublist _ _)

lemma orderBy_of_sorted (hinj : Set.InjOn key {a | a ∈ xs})
    (hsorted : xs.Pairwise fun a b => key a ≤ key b) : Select.orderBy key xs = xs :=
  Select.orderBy_eq hinj (List.Perm.refl xs) hsorted

/-- The nearest are those before all others. -/
lemma nearest_eq {near far : List α} (hinj : Set.InjOn key {a | a ∈ xs})
    (hperm : (near ++ far).Perm xs) (hnear : near.Pairwise fun a b => key a ≤ key b)
    (hfar : ∀ a ∈ near, ∀ b ∈ far, key a ≤ key b) (hsize : near.length = size) :
    nearest key size xs = near := by
  have hsorted : Select.orderBy key xs = near ++ Select.orderBy key far := by
    refine Select.orderBy_eq hinj (((Select.orderBy_perm key far).append_left near).trans hperm) ?_
    exact List.pairwise_append.mpr ⟨hnear, Select.orderBy_sorted key far, fun a ha b hb =>
      hfar a ha b (Select.mem_orderBy.mp hb)⟩
  rw [nearest, hsorted, List.take_left' hsize]

/-- One more element takes its place. -/
lemma orderBy_append_singleton (hinj : Set.InjOn key {a | a ∈ xs ++ [x]}) :
    Select.orderBy key (xs ++ [x])
      = (Select.orderBy key xs).orderedInsert (fun a b => key a ≤ key b) x := by
  refine Select.orderBy_eq hinj ?_ ?_
  · calc ((Select.orderBy key xs).orderedInsert (fun a b => key a ≤ key b) x).Perm
          (x :: Select.orderBy key xs) := List.perm_orderedInsert _ x _
      List.Perm _ (x :: xs) := (Select.orderBy_perm key xs).cons x
      List.Perm _ (xs ++ [x]) := (List.perm_append_singleton x xs).symm
  · have htotal : Std.Total fun a b : α => key a ≤ key b := ⟨fun a b => le_total _ _⟩
    have htrans : IsTrans α fun a b => key a ≤ key b := ⟨fun _ _ _ => le_trans⟩
    exact (Select.orderBy_sorted key xs).orderedInsert x _

/-- What is put behind the first elements does not come among them. -/
lemma take_orderedInsert_take (r : α → α → Prop) [DecidableRel r] (size : ℕ) (x : α)
    (xs : List α) :
    ((xs.take size).orderedInsert r x).take size = (xs.orderedInsert r x).take size := by
  induction xs generalizing size with
  | nil => rw [List.take_nil]
  | cons a xs ih =>
      cases size with
      | zero => rw [List.take_zero, List.take_zero]
      | succ size =>
          rw [List.take_succ_cons, List.orderedInsert_cons, List.orderedInsert_cons]
          split_ifs
          · cases size with
            | zero => rfl
            | succ size =>
                rw [List.take_succ_cons, List.take_succ_cons, List.take_succ_cons,
                  List.take_succ_cons, List.take_take, Nat.min_eq_left (Nat.le_succ size)]
          · rw [List.take_succ_cons, List.take_succ_cons, ih]

variable [DecidableEq α]

lemma mem_of_mem_add {table : List α} {a : α} (h : a ∈ add key size table x) :
    a ∈ table ∨ a = x := by
  rw [add] at h
  split_ifs at h with hx
  · exact .inl h
  · simpa using mem_of_mem_nearest h

lemma length_add_le {table : List α} (h : table.length ≤ size) :
    (add key size table x).length ≤ size := by
  rw [add]
  split_ifs
  · exact h
  · rw [List.length_take]
    exact Nat.min_le_left _ _

/-- **A new element**: the table holds the nearest of all. -/
lemma add_nearest_of_notMem (hinj : Set.InjOn key {a | a ∈ xs ++ [x]}) (hx : x ∉ xs) :
    add key size (nearest key size xs) x = nearest key size (xs ++ [x]) := by
  have htable : x ∉ nearest key size xs := fun h => hx (mem_of_mem_nearest h)
  have hinj' : Set.InjOn key {a | a ∈ nearest key size xs ++ [x]} := by
    refine hinj.mono fun a ha => ?_
    rcases List.mem_append.mp ha with ha | ha
    · exact List.mem_append_left _ (mem_of_mem_nearest ha)
    · exact List.mem_append_right _ ha
  have hinj'' : Set.InjOn key {a | a ∈ nearest key size xs} :=
    hinj'.mono fun a ha => List.mem_append_left _ ha
  rw [add, if_neg htable, orderBy_append_singleton hinj', orderBy_of_sorted hinj'' nearest_sorted,
    nearest, take_orderedInsert_take, nearest, orderBy_append_singleton hinj]

/-- **An element seen before**: the table stays as it is. -/
lemma add_nearest_of_mem (hinj : Set.InjOn key {a | a ∈ xs}) (hx : x ∈ xs) :
    add key size (nearest key size xs) x = nearest key size xs := by
  rw [add]
  split_ifs with htable
  · rfl
  -- it is behind the table, which is full
  have hsplit := List.take_append_drop size (Select.orderBy key xs)
  have hdrop : x ∈ (Select.orderBy key xs).drop size := by
    have hmem : x ∈ Select.orderBy key xs := Select.mem_orderBy.mpr hx
    rw [← hsplit] at hmem
    exact (List.mem_append.mp hmem).resolve_left htable
  have hsorted := Select.orderBy_sorted key xs
  rw [← hsplit, List.pairwise_append] at hsorted
  have hlast : (nearest key size xs ++ [x]).Pairwise fun a b => key a ≤ key b := by
    refine List.pairwise_append.mpr ⟨hsorted.1, List.pairwise_singleton _ _, fun a ha b hb => ?_⟩
    rw [List.mem_singleton.mp hb]
    exact hsorted.2.2 a ha x hdrop
  have hinj' : Set.InjOn key {a | a ∈ nearest key size xs ++ [x]} := by
    refine hinj.mono fun a ha => ?_
    rcases List.mem_append.mp ha with ha | ha
    · exact mem_of_mem_nearest ha
    · exact List.mem_singleton.mp ha ▸ hx
  have hfull : (nearest key size xs).length = size := by
    have hlen := List.length_pos_of_mem hdrop
    rw [List.length_drop] at hlen
    rw [nearest, List.length_take]
    omega
  rw [orderBy_of_sorted hinj' hlast, List.take_left' hfull]

/-- The nearest of some elements are the nearest of a part that has them all. -/
lemma nearest_of_subset (hinj : Set.InjOn key {a | a ∈ xs}) (hxs : xs.Nodup) (hys : ys.Nodup)
    (hsub : ys ⊆ xs) (hnearest : nearest key size xs ⊆ ys) :
    nearest key size ys = nearest key size xs := by
  have hsplit : nearest key size xs ++ (Select.orderBy key xs).drop size = Select.orderBy key xs :=
    List.take_append_drop _ _
  have hmem : ∀ a ∈ xs, a ∉ nearest key size xs → a ∈ (Select.orderBy key xs).drop size := by
    intro a ha hnot
    have ha' : a ∈ Select.orderBy key xs := Select.mem_orderBy.mpr ha
    rw [← hsplit] at ha'
    exact (List.mem_append.mp ha').resolve_left hnot
  have hsorted := Select.orderBy_sorted key xs
  rw [← hsplit, List.pairwise_append] at hsorted
  by_cases hall : (Select.orderBy key xs).drop size = []
  · have hperm : ys.Perm xs := by
      refine (List.perm_ext_iff_of_nodup hys hxs).mpr fun a => ⟨fun ha => hsub ha, fun ha => ?_⟩
      by_contra hnot
      exact List.not_mem_nil (hall ▸ hmem a ha fun h => hnot (hnearest h))
    exact (nearest_congr hinj hperm).symm
  · have hfull : (nearest key size xs).length = size := by
      have hlen := List.length_pos_iff.mpr hall
      rw [List.length_drop] at hlen
      rw [nearest, List.length_take]
      omega
    have hnodup : (nearest key size xs).Nodup :=
      ((Select.orderBy_perm key xs).nodup_iff.mpr hxs).sublist (List.take_sublist _ _)
    have hperm : (nearest key size xs ++ ys.filter (· ∉ nearest key size xs)).Perm ys := by
      have happend : (nearest key size xs ++ ys.filter (· ∉ nearest key size xs)).Nodup :=
        List.nodup_append.mpr ⟨hnodup, hys.filter _, fun a ha b hb hab =>
          of_decide_eq_true (List.mem_filter.mp hb).2 (hab ▸ ha)⟩
      refine (List.perm_ext_iff_of_nodup happend hys).mpr fun a => ?_
      rw [List.mem_append, List.mem_filter, decide_eq_true_eq]
      by_cases ha : a ∈ nearest key size xs
      · exact ⟨fun _ => hnearest ha, fun _ => .inl ha⟩
      · exact ⟨fun h => (h.resolve_left ha).1, fun h => .inr ⟨h, ha⟩⟩
    refine nearest_eq (hinj.mono fun a ha => hsub ha) hperm nearest_sorted
      (fun a ha b hb => ?_) hfull
    obtain ⟨hb, hnot⟩ := List.mem_filter.mp hb
    exact hsorted.2.2 a ha b (hmem b (hsub hb) (of_decide_eq_true hnot))

/-- **Elements added one after another** leave the nearest of them, however often
they come. -/
theorem foldl_add_eq_nearest (hinj : Set.InjOn key {a | a ∈ xs}) (hnodup : ys.Nodup)
    (hmem : ∀ a, a ∈ ys ↔ a ∈ xs) : xs.foldl (add key size) [] = nearest key size ys := by
  have hdedup : xs.foldl (add key size) [] = nearest key size xs.dedup := by
    clear hmem hnodup
    induction xs using List.reverseRecOn with
    | nil => rw [List.foldl_nil, List.dedup_nil, nearest, Select.orderBy, List.mergeSort_nil,
        List.take_nil]
    | append_singleton xs x ih =>
        have hxs : Set.InjOn key {a | a ∈ xs} := hinj.mono fun a ha => List.mem_append_left _ ha
        have hsub : Set.InjOn key {a | a ∈ (xs ++ [x]).dedup} :=
          hinj.mono fun a ha => List.mem_dedup.mp ha
        rw [List.foldl_append, List.foldl_cons, List.foldl_nil, ih hxs]
        by_cases hx : x ∈ xs
        · rw [add_nearest_of_mem (hxs.mono fun a ha => List.mem_dedup.mp ha)
            (List.mem_dedup.mpr hx)]
          refine (nearest_congr hsub ?_).symm
          refine (List.perm_ext_iff_of_nodup (List.nodup_dedup _) (List.nodup_dedup _)).mpr
            fun a => ?_
          simp only [List.mem_dedup, List.mem_append, List.mem_singleton]
          exact ⟨.inl, fun h => h.elim id fun h => h ▸ hx⟩
        · have hx' : x ∉ xs.dedup := fun h => hx (List.mem_dedup.mp h)
          rw [add_nearest_of_notMem ?_ hx']
          · refine (nearest_congr hsub ?_).symm
            refine (List.perm_ext_iff_of_nodup ?_ (List.nodup_dedup _)).mpr fun a => ?_
            · exact List.nodup_append.mpr ⟨List.nodup_dedup _, List.nodup_singleton _,
                fun a ha b hb hab => hx' (List.mem_singleton.mp hb ▸ hab ▸ ha)⟩
            · simp only [List.mem_dedup, List.mem_append]
          · refine hinj.mono fun a ha => ?_
            rcases List.mem_append.mp ha with ha | ha
            · exact List.mem_append_left _ (List.mem_dedup.mp ha)
            · exact List.mem_append_right _ ha
  rw [hdedup]
  refine nearest_congr (hinj.mono fun a ha => List.mem_dedup.mp ha) ?_
  exact (List.perm_ext_iff_of_nodup hnodup (List.nodup_dedup _)).mpr fun a => by
    rw [hmem, List.mem_dedup]

end Nearest
