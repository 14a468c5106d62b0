import Mathlib

/-!
The parts of a `select` that are more than a filter and a projection.

* `join`: `join … on`;
* `leftJoin`: `left join … on`, with `mem_leftJoin_none` and
  `mem_leftJoin_some`, the rows without and with a partner;
* `flatMap_filter_perm`: rows put into groups;
* `orderBy`: `order by`, stable;
* `page`: `limit … offset …`.
-/

namespace Select

variable {α β κ : Type}

/-- Every row of `xs` with each of its partners in `ys`. -/
def join (xs : List α) (ys : List β) (on : α → β → Bool) : List (α × β) :=
  xs.flatMap fun x => (ys.filter (on x)).map fun y => (x, y)

lemma mem_join {xs : List α} {ys : List β} {on : α → β → Bool} {x : α} {y : β} :
    (x, y) ∈ join xs ys on ↔ x ∈ xs ∧ y ∈ ys ∧ on x y = true := by
  simp only [join, List.mem_flatMap, List.mem_map, List.mem_filter, Prod.mk.injEq]
  constructor
  · rintro ⟨x', hx', y', ⟨hy', hon⟩, rfl, rfl⟩
    exact ⟨hx', hy', hon⟩
  · rintro ⟨hx, hy, hon⟩
    exact ⟨x, hx, y, ⟨hy, hon⟩, rfl, rfl⟩

/-- Every row of `xs` with each of its partners in `ys`, or alone if it has none. -/
def leftJoin (xs : List α) (ys : List β) (on : α → β → Bool) : List (α × Option β) :=
  xs.flatMap fun x =>
    if ys.filter (on x) = [] then [(x, none)] else (ys.filter (on x)).map fun y => (x, some y)

variable {xs : List α} {ys : List β} {on : α → β → Bool}

lemma mem_leftJoin_none {x : α} :
    (x, none) ∈ leftJoin xs ys on ↔ x ∈ xs ∧ ∀ y ∈ ys, on x y = false := by
  simp only [leftJoin, List.mem_flatMap]
  constructor
  · rintro ⟨x', hx', h⟩
    split_ifs at h with hnil
    · rw [List.mem_singleton, Prod.mk.injEq] at h
      obtain ⟨rfl, -⟩ := h
      exact ⟨hx', by simpa [List.filter_eq_nil_iff] using hnil⟩
    · simp at h
  · rintro ⟨hx, hno⟩
    exact ⟨x, hx, by rw [if_pos (by simpa [List.filter_eq_nil_iff] using hno)]; simp⟩

lemma mem_leftJoin_some {x : α} {y : β} :
    (x, some y) ∈ leftJoin xs ys on ↔ x ∈ xs ∧ y ∈ ys ∧ on x y = true := by
  simp only [leftJoin, List.mem_flatMap]
  constructor
  · rintro ⟨x', hx', h⟩
    split_ifs at h with hnil
    · simp at h
    · simp only [List.mem_map, List.mem_filter, Prod.mk.injEq, Option.some.injEq] at h
      obtain ⟨y', ⟨hy', hon⟩, rfl, rfl⟩ := h
      exact ⟨hx', hy', hon⟩
  · rintro ⟨hx, hy, hon⟩
    have hmem : y ∈ ys.filter (on x) := List.mem_filter.mpr ⟨hy, hon⟩
    refine ⟨x, hx, ?_⟩
    rw [if_neg (List.ne_nil_of_mem hmem)]
    exact List.mem_map.mpr ⟨y, hmem, rfl⟩

/-- The rows without a partner, in their order: an anti join. -/
lemma map_filter_isNone_leftJoin (xs : List α) (ys : List β) (on : α → β → Bool)
    (p : α → Bool) :
    ((leftJoin xs ys on).filter fun q => q.2.isNone && p q.1).map Prod.fst
      = xs.filter fun x => p x && ys.all fun y => !on x y := by
  induction xs with
  | nil => rfl
  | cons x xs ih =>
      have hcons : leftJoin (x :: xs) ys on = (if ys.filter (on x) = [] then [(x, none)]
          else (ys.filter (on x)).map fun y => (x, some y)) ++ leftJoin xs ys on := rfl
      have hall : (ys.all fun y => !on x y) = decide (ys.filter (on x) = []) := by
        rw [Bool.eq_iff_iff, decide_eq_true_eq, List.filter_eq_nil_iff]
        simp
      rw [hcons, List.filter_append, List.map_append, ih, List.filter_cons, hall]
      by_cases hnil : ys.filter (on x) = []
      · by_cases hp : p x <;> simp [hnil, hp]
      · simp [hnil, List.filter_map, Function.comp_def]

/-- The partners found, in the order of the join. -/
lemma filterMap_leftJoin :
    (leftJoin xs ys on).filterMap Prod.snd = xs.flatMap fun x => ys.filter (on x) := by
  simp only [leftJoin, List.filterMap_flatMap]
  congr 1
  funext x
  split_ifs with hnil
  · simp [hnil]
  · simp [List.filterMap_map]

/-- A condition on the rows of the left side. -/
lemma filter_leftJoin (p : α → Bool) :
    (leftJoin xs ys on).filter (fun q => p q.1) = leftJoin (xs.filter p) ys on := by
  induction xs with
  | nil => rfl
  | cons x xs ih =>
      have hcons : ∀ xs, leftJoin (x :: xs) ys on = (if ys.filter (on x) = [] then [(x, none)]
          else (ys.filter (on x)).map fun y => (x, some y)) ++ leftJoin xs ys on := fun _ => rfl
      have hall : ∀ q ∈ (if ys.filter (on x) = [] then [(x, none)]
          else (ys.filter (on x)).map fun y => (x, some y)), q.1 = x := by
        intro q hq
        split_ifs at hq
        · rw [List.mem_singleton.mp hq]
        · obtain ⟨y, -, rfl⟩ := List.mem_map.mp hq
          rfl
      rw [hcons, List.filter_append, ih, List.filter_cons]
      by_cases hp : p x = true
      · rw [if_pos hp, hcons, List.filter_eq_self.mpr fun q hq => by rw [hall q hq, hp]]
      · rw [if_neg hp, List.filter_eq_nil_iff.mpr fun q hq => by rw [hall q hq]; exact hp,
          List.nil_append]

/-- Rows of the right side may be computed before or after the join. -/
lemma leftJoin_map_right {γ : Type} {zs : List γ} {g : γ → β} {on' : α → γ → Bool}
    (hon : ∀ x z, on x (g z) = on' x z) :
    leftJoin xs (zs.map g) on = (leftJoin xs zs on').map fun q => (q.1, q.2.map g) := by
  induction xs with
  | nil => rfl
  | cons x xs ih =>
      have hfilter : (zs.map g).filter (on x) = (zs.filter (on' x)).map g := by
        rw [List.filter_map]
        exact congrArg _ (List.filter_congr fun z _ => hon x z)
      simp only [leftJoin, List.flatMap_cons, List.map_append] at ih ⊢
      rw [ih, hfilter]
      congr 1
      by_cases hnil : zs.filter (on' x) = []
      · simp [hnil]
      · rw [if_neg (by simpa using hnil), if_neg hnil, List.map_map, List.map_map]
        rfl

/-! ### Groups -/

/-- Rows grouped by a value, each group once: all rows. -/
lemma flatMap_filter_perm [DecidableEq κ] {f : α → κ} {ks : List κ} (hks : ks.Nodup) {xs : List α}
    (h : ∀ x ∈ xs, f x ∈ ks) : (ks.flatMap fun k => xs.filter fun x => f x = k).Perm xs := by
  induction ks generalizing xs with
  | nil =>
      have hnil : xs = [] := List.eq_nil_iff_forall_not_mem.mpr fun x hx =>
        List.not_mem_nil (h x hx)
      rw [hnil]
      exact List.Perm.refl _
  | cons k ks ih =>
      rw [List.nodup_cons] at hks
      have hothers : (ks.flatMap fun k => xs.filter fun x => f x = k)
          = ks.flatMap fun k' => (xs.filter fun x => ¬f x = k).filter fun x => f x = k' := by
        refine List.flatMap_congr fun k' hk' => ?_
        rw [List.filter_filter]
        refine List.filter_congr fun x _ => ?_
        rw [Bool.eq_iff_iff]
        simp only [decide_eq_true_eq, Bool.and_eq_true]
        exact ⟨fun hx => ⟨hx, fun hk => hks.1 (hk ▸ hx ▸ hk')⟩, fun hx => hx.1⟩
      have hrest : ∀ x ∈ xs.filter fun x => ¬f x = k, f x ∈ ks := by
        intro x hx
        obtain ⟨hx, hne⟩ := List.mem_filter.mp hx
        exact (List.mem_cons.mp (h x hx)).resolve_left (of_decide_eq_true hne)
      rw [List.flatMap_cons, hothers]
      refine ((ih hks.2 hrest).append_left _).trans ?_
      have hsplit := List.filter_append_perm (fun x => decide (f x = k)) xs
      simpa using hsplit

/-! ### Joins on a key -/

section Key

variable [DecidableEq κ] {f : α → κ} {g : β → κ}

/-- The partners of the rows of one key, of those that pass: all pairs. -/
lemma countP_partners (xs : List α) (ys : List β) (p : β → Bool) (k : κ) :
    ((xs.flatMap fun x => ys.filter fun y => f x = g y).filter p).countP (fun y => g y = k)
      = xs.countP (fun x => f x = k) * ys.countP fun y => p y && g y = k := by
  induction xs with
  | nil => simp
  | cons x xs ih =>
      rw [List.flatMap_cons, List.filter_append, List.countP_append, ih, List.filter_filter,
        List.countP_filter]
      by_cases hx : f x = k
      · rw [List.countP_cons_of_pos (by simpa using hx), Nat.add_mul, Nat.one_mul, Nat.add_comm]
        congr 1
        refine List.countP_congr fun y _ => ?_
        simp only [hx, Bool.and_eq_true, decide_eq_true_eq]
        constructor
        · rintro ⟨hy, hp, -⟩
          exact ⟨hp, hy⟩
        · rintro ⟨hp, hy⟩
          exact ⟨hy, hp, hy.symm⟩
      · rw [List.countP_cons_of_neg (by simpa using hx), Nat.add_eq_right, List.countP_eq_zero]
        simp only [Bool.and_eq_true, decide_eq_true_eq]
        rintro y - ⟨hy, -, hxy⟩
        exact hx (hxy.trans hy)

/-- The first partner of the rows of one key, if there is such a row. -/
lemma find?_partners {xs : List α} {k : κ} (hk : ∃ x ∈ xs, f x = k) (ys : List β) (p : β → Bool) :
    ((xs.flatMap fun x => ys.filter fun y => f x = g y).filter p).find? (fun y => g y = k)
      = ys.find? fun y => p y && g y = k := by
  induction xs with
  | nil => simp at hk
  | cons x xs ih =>
      have hpart : ((ys.filter fun y => f x = g y).filter p).find? (fun y => g y = k)
          = ys.find? fun y => (p y && decide (f x = g y)) && decide (g y = k) := by
        rw [List.filter_filter, List.find?_filter]
        simp
      rw [List.flatMap_cons, List.filter_append, List.find?_append, hpart]
      by_cases hx : f x = k
      · have hsame : (ys.find? fun y => (p y && decide (f x = g y)) && decide (g y = k))
            = ys.find? fun y => p y && decide (g y = k) := by
          congr 1
          funext y
          by_cases hy : g y = k <;> simp [hx, hy]
        rw [hsame]
        cases hfind : ys.find? fun y => p y && decide (g y = k) with
        | some y => rfl
        | none =>
            -- the other rows find no more than this one
            rw [Option.none_or, List.find?_eq_none]
            intro y hy
            obtain ⟨hy, hp⟩ := List.mem_filter.mp hy
            obtain ⟨x', -, hy⟩ := List.mem_flatMap.mp hy
            have := List.find?_eq_none.mp hfind y (List.mem_filter.mp hy).1
            simpa [hp] using this
      · have hnone : (ys.find? fun y => (p y && decide (f x = g y)) && decide (g y = k))
          = none := by
          rw [List.find?_eq_none]
          simp only [Bool.and_eq_true, decide_eq_true_eq]
          rintro y - ⟨⟨-, hxy⟩, hy⟩
          exact hx (hxy.trans hy)
        rw [hnone, Option.none_or]
        obtain ⟨x', hx', hk'⟩ := hk
        rcases List.mem_cons.mp hx' with rfl | hx'
        · exact absurd hk' hx
        · exact ih ⟨x', hx', hk'⟩

end Key

variable [LinearOrder κ]

/-- Rows by increasing key; rows of one key keep their order. -/
def orderBy (key : α → κ) (xs : List α) : List α := xs.mergeSort fun a b => key a ≤ key b

lemma orderBy_perm (key : α → κ) (xs : List α) : (orderBy key xs).Perm xs := List.mergeSort_perm _ _

@[simp] lemma mem_orderBy {key : α → κ} {x : α} : x ∈ orderBy key xs ↔ x ∈ xs :=
  (orderBy_perm key xs).mem_iff

lemma orderBy_sorted (key : α → κ) (xs : List α) :
    (orderBy key xs).Pairwise fun a b => key a ≤ key b := by
  have h : (xs.mergeSort fun a b => decide (key a ≤ key b)).Pairwise
      fun a b => decide (key a ≤ key b) = true :=
    List.pairwise_mergeSort
      (fun a b c hab hbc => by
        simp only [decide_eq_true_eq] at *
        exact hab.trans hbc)
      (fun a b => by
        simp only [Bool.or_eq_true, decide_eq_true_eq]
        exact le_total _ _) xs
  exact h.imp fun hab => by simpa using hab

/-- Rows of one key keep their order. -/
lemma filter_orderBy_key (key : α → κ) (xs : List α) (k : κ) :
    (orderBy key xs).filter (fun x => key x = k) = xs.filter fun x => key x = k := by
  have hsorted : (xs.filter fun x => key x = k).Pairwise
      fun a b => decide (key a ≤ key b) = true := by
    refine List.pairwise_of_forall_mem_list fun a ha b hb => decide_eq_true ?_
    rw [of_decide_eq_true (List.mem_filter.mp ha).2, of_decide_eq_true (List.mem_filter.mp hb).2]
  have hsub : (xs.filter fun x => key x = k).Sublist (orderBy key xs) :=
    List.sublist_mergeSort
      (fun a b c hab hbc => by
        simp only [decide_eq_true_eq] at *
        exact hab.trans hbc)
      (fun a b => by
        simp only [Bool.or_eq_true, decide_eq_true_eq]
        exact le_total _ _) hsorted List.filter_sublist
  have hfilter := hsub.filter fun x => decide (key x = k)
  rw [List.filter_filter] at hfilter
  simp only [Bool.and_self] at hfilter
  exact (hfilter.eq_of_length ((orderBy_perm key xs).filter _).length_eq.symm).symm

/-- The first row of a key stays the first. -/
lemma find?_orderBy_key (key : α → κ) (xs : List α) (k : κ) :
    (orderBy key xs).find? (fun x => key x = k) = xs.find? fun x => key x = k := by
  rw [← List.head?_filter, ← List.head?_filter, filter_orderBy_key]

/-- Where no two rows have one key, only one order is that of the keys. -/
lemma orderBy_eq {key : α → κ} {xs ys : List α} (hinj : Set.InjOn key {x | x ∈ xs})
    (hperm : ys.Perm xs) (hsorted : ys.Pairwise fun a b => key a ≤ key b) :
      orderBy key xs = ys := by
  refine List.Perm.eq_of_pairwise (fun a b ha hb hab hba => ?_) (orderBy_sorted key xs) hsorted
    ((orderBy_perm key xs).trans hperm.symm)
  exact hinj (mem_orderBy.mp ha) (hperm.subset hb) (le_antisymm hab hba)

/-- Rows may be computed before or after they are put in order. -/
lemma orderBy_map (key : β → κ) (f : α → β) (xs : List α) :
    orderBy key (xs.map f) = (orderBy (fun x => key (f x)) xs).map f :=
  (List.map_mergeSort (f := f) fun _ _ _ _ => rfl).symm

/-- `limit` rows after the first `offset`. -/
def page (limit offset : ℕ) (xs : List α) : List α := (xs.drop offset).take limit

end Select
