import Mathlib

/-!
A walk along two ordered lists that looks entries up by key.

The keys are visited one by one; the entry at hand is taken if it has the key,
and then the next entry is at hand.

* `fill`: what the walk finds for each key;
* `first`: what there is to find;
* `fill_eq_zero_or_first`: the walk finds that or nothing;
* `GetsThrough`, `fill_eq_map_first_iff`: the walk finds it for every key exactly if it never
  gets stuck, on an entry whose key is not asked for or was just served;
* `fill_congr`: lists that are `Alike` are walked alike.
-/

namespace MergeFill

variable {κ α β : Type} [LinearOrder κ] [Zero β] (key : α → κ) (val : α → β)

/-- The value found for each key, `0` for a key the walk finds nothing for. -/
def fill : List κ → List α → List β
  | [], _ => []
  | _ :: ids, [] => 0 :: fill ids []
  | id :: ids, x :: xs => if key x = id then val x :: fill ids xs else 0 :: fill ids (x :: xs)

/-- The value of the first entry with the key, `0` if there is none. -/
def first (xs : List α) (id : κ) : β := ((xs.find? fun x => key x = id).map val).getD 0

/-- The walk goes past an entry: its key is asked for and no other entry has it. -/
def Passable (ids : List κ) (xs : List α) (k : κ) : Prop :=
  k ∈ ids ∧ xs.countP (fun x => key x = k) = 1

variable {key val}

lemma first_cons_self {id : κ} {x : α} {xs : List α} (h : key x = id) :
    first key val (x :: xs) id = val x := by simp [first, h]

lemma first_cons_of_ne {id : κ} {x : α} {xs : List α} (h : key x ≠ id) :
    first key val (x :: xs) id = first key val xs id := by simp [first, h]

lemma first_eq_zero {id : κ} {xs : List α} (h : ∀ x ∈ xs, key x ≠ id) :
    first key val xs id = 0 := by
  have hnone : (xs.find? fun x => key x = id) = none := List.find?_eq_none.mpr (by simpa using h)
  rw [first, hnone]
  rfl

/-- What is at hand when a key is asked for. -/
lemma head_cases (id : κ) {xs : List α} (hxs : xs.Pairwise fun a b => key a ≤ key b) :
    (∃ x rest, xs = x :: rest ∧ key x < id) ∨
      (∃ x rest, xs = x :: rest ∧ key x = id ∧ ∀ y ∈ xs, id ≤ key y) ∨ ∀ x ∈ xs, id < key x := by
  cases xs with
  | nil => exact .inr (.inr fun _ h => absurd h List.not_mem_nil)
  | cons x xs =>
      have hle : ∀ y ∈ x :: xs, key x ≤ key y :=
        List.forall_mem_cons.mpr ⟨le_rfl, (List.pairwise_cons.mp hxs).1⟩
      rcases lt_trichotomy (key x) id with hx | rfl | hx
      · exact .inl ⟨x, xs, rfl, hx⟩
      · exact .inr (.inl ⟨x, xs, rfl, rfl, hle⟩)
      · exact .inr (.inr fun y hy => hx.trans_le (hle y hy))

lemma fill_cons_of_gt {id : κ} {ids : List κ} {xs : List α} (h : ∀ x ∈ xs, id < key x) :
    fill key val (id :: ids) xs = 0 :: fill key val ids xs := by
  cases xs with
  | nil => rfl
  | cons x xs => rw [fill, if_neg (h x List.mem_cons_self).ne']

/-- Before a key the walk is stuck on an entry below it. -/
lemma fill_eq_zeros_of_lt {ids : List κ} {x : α} {xs : List α} (h : ∀ id ∈ ids, key x < id) :
    fill key val ids (x :: xs) = ids.map fun _ => 0 := by
  induction ids with
  | nil => rfl
  | cons id ids ih =>
      rw [List.forall_mem_cons] at h
      rw [fill, if_neg h.1.ne, ih h.2, List.map_cons]

/-- An entry below all keys is not passable, so that the walk is stuck before
each of them. -/
lemma stuck_of_lt {id : κ} {ids : List κ} {x : α} {xs : List α}
    (hids : (id :: ids).Pairwise (· < ·))
    (hx : key x < id) {ids' : List κ} (hsub : ids' ⊆ id :: ids)
    {id' : κ} (hid' : id' ∈ id :: ids) :
    ¬∀ y ∈ x :: xs, key y < id' → Passable key ids' (x :: xs) (key y) := by
  have hbelow : ∀ k ∈ id :: ids, key x < k := by
    rintro k hk
    rcases List.mem_cons.mp hk with rfl | hk
    · exact hx
    · exact hx.trans ((List.pairwise_cons.mp hids).1 k hk)
  intro h
  obtain ⟨hmem, -⟩ := h x List.mem_cons_self (hbelow id' hid')
  exact lt_irrefl _ (hbelow _ (hsub hmem))

/-- The entry at hand is taken: the walk goes on as if its key had never been
asked for. -/
lemma forall_passable_taken {ids : List κ} {x : α} {xs : List α}
    (hids : (key x :: ids).Pairwise (· < ·)) (hxs : (x :: xs).Pairwise fun a b => key a ≤ key b)
    {id : κ} (hid : id ∈ ids) :
    (∀ y ∈ x :: xs, key y < id → Passable key (key x :: ids) (x :: xs) (key y)) ↔
      ∀ y ∈ xs, key y < id → Passable key ids xs (key y) := by
  have hlt : ∀ id' ∈ ids, key x < id' := (List.pairwise_cons.mp hids).1
  have hnot : key x ∉ ids := fun h => lt_irrefl _ (hlt _ h)
  constructor
  · intro h y hy hyid
    obtain ⟨hmem, hcount⟩ := h y (List.mem_cons_of_mem x hy) hyid
    -- another entry with the key of `x` would not have been passable
    have hne : key x ≠ key y := by
      intro heq
      have htwo : 0 < xs.countP fun z => key z = key y :=
        List.countP_pos_iff.mpr ⟨y, hy, decide_eq_true rfl⟩
      rw [List.countP_cons_of_pos (by simpa using heq)] at hcount
      omega
    rw [List.countP_cons_of_neg (by simpa using hne)] at hcount
    exact ⟨(List.mem_cons.mp hmem).resolve_left hne.symm, hcount⟩
  · intro h y hy hyid
    have hnone : ∀ z ∈ xs, key z ≠ key x := fun z hz heq =>
      hnot (heq ▸ (h z hz (heq ▸ hlt id hid)).1)
    rcases List.mem_cons.mp hy with rfl | hy
    · refine ⟨List.mem_cons_self, ?_⟩
      rw [List.countP_cons_of_pos (by simp), Nat.add_eq_right, List.countP_eq_zero]
      simpa using hnone
    · obtain ⟨hmem, hcount⟩ := h y hy hyid
      refine ⟨List.mem_cons_of_mem _ hmem, ?_⟩
      rwa [List.countP_cons_of_neg (by simpa using (hnone y hy).symm)]

/-- The walk gets past whatever comes before a key that has something to find. -/
def GetsThrough (key : α → κ) (val : α → β) (ids : List κ) (xs : List α) : Prop :=
  ∀ id ∈ ids, first key val xs id ≠ 0 → ∀ x ∈ xs, key x < id → Passable key ids xs (key x)

section GetsThrough

variable {id : κ} {ids : List κ} {x : α} {xs : List α}

/-- The entry at hand is never taken. -/
lemma getsThrough_cons_of_lt (hids : (id :: ids).Pairwise (· < ·)) (hx : key x < id) :
    GetsThrough key val (id :: ids) (x :: xs) ↔
      ∀ id' ∈ id :: ids, first key val (x :: xs) id' = 0 := by
  refine forall₂_congr fun id' hid' => ⟨fun h => ?_, fun hzero hne => absurd hzero hne⟩
  by_contra hne
  exact stuck_of_lt hids hx (List.Subset.refl _) hid' (h hne)

/-- The entry at hand is taken. -/
lemma getsThrough_cons_of_eq (hids : (key x :: ids).Pairwise (· < ·))
    (hxs : (x :: xs).Pairwise fun a b => key a ≤ key b) :
    GetsThrough key val (key x :: ids) (x :: xs) ↔ GetsThrough key val ids xs := by
  have hhead : ∀ y ∈ x :: xs, key y < key x → Passable key (key x :: ids) (x :: xs) (key y) := by
    intro y hy hlt
    rcases List.mem_cons.mp hy with rfl | hy
    · exact absurd hlt (lt_irrefl _)
    · exact absurd hlt ((List.pairwise_cons.mp hxs).1 y hy).not_gt
  rw [GetsThrough, List.forall_mem_cons, and_iff_right fun _ => hhead]
  refine forall₂_congr fun id hid => ?_
  rw [first_cons_of_ne ((List.pairwise_cons.mp hids).1 id hid).ne,
    forall_passable_taken hids hxs hid]

/-- No entry has the key. -/
lemma getsThrough_cons_of_gt (hx : ∀ x ∈ xs, id < key x) :
    GetsThrough key val (id :: ids) xs ↔ GetsThrough key val ids xs := by
  have hno : ∀ x ∈ xs, key x ≠ id := fun x hmem => (hx x hmem).ne'
  have hpass : ∀ x ∈ xs, (Passable key (id :: ids) xs (key x) ↔ Passable key ids xs (key x)) := by
    intro x hmem
    rw [Passable, Passable, List.mem_cons, or_iff_right (hno x hmem)]
  rw [GetsThrough, List.forall_mem_cons, and_iff_right fun hne => absurd (first_eq_zero hno) hne]
  exact forall₂_congr fun id' _ => imp_congr_right fun _ =>
    forall₂_congr fun x hmem => imp_congr_right fun _ => hpass x hmem

end GetsThrough

/-- **The walk finds everything exactly if it never gets stuck** before a key
that has something to find. -/
lemma fill_eq_map_first_iff {ids : List κ} {xs : List α} (hids : ids.Pairwise (· < ·))
    (hxs : xs.Pairwise fun a b => key a ≤ key b) :
    fill key val ids xs = ids.map (first key val xs) ↔
      ∀ id ∈ ids, first key val xs id ≠ 0 →
        ∀ x ∈ xs, key x < id → Passable key ids xs (key x) := by
  show _ ↔ GetsThrough key val ids xs
  induction ids generalizing xs with
  | nil => simp [fill, GetsThrough]
  | cons id ids ih =>
      obtain ⟨hlt, hids'⟩ := List.pairwise_cons.mp hids
      rcases head_cases id hxs with ⟨x, xs', rfl, hx⟩ | ⟨x, xs', rfl, rfl, -⟩ | hx
      · have hbelow : ∀ id' ∈ id :: ids, key x < id' :=
          List.forall_mem_cons.mpr ⟨hx, fun id' hid' => hx.trans (hlt id' hid')⟩
        rw [fill_eq_zeros_of_lt hbelow, getsThrough_cons_of_lt hids hx, List.map_inj_left]
        exact forall₂_congr fun _ _ => eq_comm
      · have hmap : ids.map (first key val (x :: xs')) = ids.map (first key val xs') :=
          List.map_congr_left fun id' hid' => first_cons_of_ne (hlt id' hid').ne
        rw [fill, if_pos rfl, List.map_cons, first_cons_self rfl, hmap, List.cons.injEq,
          and_iff_right rfl, getsThrough_cons_of_eq hids hxs]
        exact ih hids' (List.pairwise_cons.mp hxs).2
      · rw [fill_cons_of_gt hx, List.map_cons, first_eq_zero fun x hmem => (hx x hmem).ne',
          List.cons.injEq, and_iff_right rfl, getsThrough_cons_of_gt hx]
        exact ih hids' hxs

/-- The walk finds what there is to find for a key, or nothing. -/
lemma fill_eq_zero_or_first {ids : List κ} {xs : List α} (hids : ids.Pairwise (· < ·)) :
    List.Forall₂ (fun v id => v = 0 ∨ v = first key val xs id) (fill key val ids xs) ids := by
  induction ids generalizing xs with
  | nil => exact List.Forall₂.nil
  | cons id ids ih =>
      obtain ⟨hlt, hids⟩ := List.pairwise_cons.mp hids
      cases xs with
      | nil => exact List.Forall₂.cons (.inl rfl) (ih hids)
      | cons x xs =>
          rw [fill]
          split_ifs with hx
          · refine List.Forall₂.cons (.inr (first_cons_self hx).symm) ?_
            have hrest : List.Forall₂ (fun v id => v = 0 ∨ v = first key val xs id)
                (fill key val ids xs) ids := ih hids
            rw [List.forall₂_iff_get] at hrest ⊢
            refine ⟨hrest.1, fun i h₁ h₂ => ?_⟩
            rw [first_cons_of_ne (hx ▸ (hlt _ (List.getElem_mem h₂)).ne)]
            exact hrest.2 i h₁ h₂
          · exact List.Forall₂.cons (.inl rfl) (ih hids)

/-! ### Other entries -/

/-- Nothing is found where there is nothing. -/
lemma fill_eq_zeros {ids : List κ} {xs : List α} (h : ∀ id ∈ ids, ∀ x ∈ xs, key x ≠ id) :
    fill key val ids xs = ids.map fun _ => 0 := by
  induction ids with
  | nil => rfl
  | cons id ids ih =>
      rw [List.forall_mem_cons] at h
      cases xs with
      | nil => rw [fill, ih h.2, List.map_cons]
      | cons x xs => rw [fill, if_neg (h.1 x List.mem_cons_self), ih h.2, List.map_cons]

/-- Two lists have the same entries of a key, or it matters to no later key: each
begins with the same entry of the key, and nothing is there for what comes after. -/
def Alike (key : α → κ) (ids : List κ) (xs ys : List α) (k : κ) : Prop :=
  (xs.filter fun x => key x = k) = (ys.filter fun x => key x = k) ∨
    (k ∈ ids → (xs.find? fun x => key x = k) = ys.find? fun x => key x = k) ∧
      ∀ id ∈ ids, k < id → (∀ x ∈ xs, key x ≠ id) ∧ ∀ y ∈ ys, key y ≠ id

lemma Alike.symm {ids : List κ} {xs ys : List α} {k : κ} (h : Alike key ids xs ys k) :
    Alike key ids ys xs k :=
  h.imp Eq.symm fun h => ⟨fun hk => (h.1 hk).symm, fun id hid hlt => (h.2 id hid hlt).symm⟩

/-- An entry that one list has and the other does not is the last that matters. -/
lemma Alike.none_above {ids : List κ} {xs ys : List α} {k : κ} (h : Alike key ids xs ys k)
    (hx : ∃ x ∈ xs, key x = k) (hy : ∀ y ∈ ys, key y ≠ k) :
    k ∉ ids ∧ ∀ id ∈ ids, k < id → (∀ x ∈ xs, key x ≠ id) ∧ ∀ y ∈ ys, key y ≠ id := by
  obtain ⟨x, hx, rfl⟩ := hx
  rcases h with h | h
  · have hmem : x ∈ ys.filter fun y => key y = key x :=
      h ▸ List.mem_filter.mpr ⟨hx, decide_eq_true rfl⟩
    exact absurd (of_decide_eq_true (List.mem_filter.mp hmem).2) (hy x (List.mem_filter.mp hmem).1)
  · refine ⟨fun hk => ?_, h.2⟩
    have hnone : (ys.find? fun y => key y = key x) = none :=
      List.find?_eq_none.mpr fun y hy' => by simpa using hy y hy'
    have hfirst := h.1 hk
    rw [hnone] at hfirst
    exact absurd (decide_eq_true rfl) (List.find?_eq_none.mp hfirst x hx)

/-- The lists go on alike after an entry that both have at hand. -/
lemma Alike.tail {ids : List κ} {x y : α} {xs ys : List α} {k : κ}
    (h : Alike key (key x :: ids) (x :: xs) (y :: ys) k) (hlt : ∀ id ∈ ids, key x < id)
    (hkey : key y = key x) : Alike key ids xs ys k := by
  by_cases hk : k = key x
  · subst hk
    rcases h with h | h
    · rw [List.filter_cons_of_pos (by simp), List.filter_cons_of_pos (by simpa using hkey)] at h
      exact .inl (List.cons.inj h).2
    · refine .inr ⟨fun hmem => absurd (hlt _ hmem) (lt_irrefl _), fun id hid hlt' => ?_⟩
      obtain ⟨hx, hy⟩ := h.2 id (List.mem_cons_of_mem _ hid) hlt'
      exact ⟨fun z hz => hx z (List.mem_cons_of_mem _ hz), fun z hz =>
        hy z (List.mem_cons_of_mem _ hz)⟩
  · have hx : ¬decide (key x = k) = true := by simpa using Ne.symm hk
    have hy : ¬decide (key y = k) = true := by simpa [hkey] using Ne.symm hk
    rw [Alike, List.filter_cons_of_neg (p := fun z => decide (key z = k)) hx,
      List.filter_cons_of_neg (p := fun z => decide (key z = k)) hy,
      List.find?_cons_of_neg (p := fun z => decide (key z = k)) hx,
      List.find?_cons_of_neg (p := fun z => decide (key z = k)) hy] at h
    refine h.imp_right fun h =>
      ⟨fun hmem => h.1 (List.mem_cons_of_mem _ hmem), fun id hid hlt' => ?_⟩
    obtain ⟨hxs, hys⟩ := h.2 id (List.mem_cons_of_mem _ hid) hlt'
    exact ⟨fun z hz => hxs z (List.mem_cons_of_mem _ hz), fun z hz =>
      hys z (List.mem_cons_of_mem _ hz)⟩

/-- An entry below the first key that the other list does not have. -/
lemma fill_eq_of_low {id : κ} {ids : List κ} {x : α} {xs ys : List α}
    (hids : (id :: ids).Pairwise (· < ·)) (hx : key x < id) (hys : ∀ y ∈ ys, id ≤ key y)
    (h : Alike key (id :: ids) (x :: xs) ys (key x)) :
    fill key val (id :: ids) (x :: xs) = fill key val (id :: ids) ys := by
  have hstuck : ∀ id' ∈ id :: ids, key x < id' := List.forall_mem_cons.mpr
    ⟨hx, fun id' hid' => hx.trans ((List.pairwise_cons.mp hids).1 id' hid')⟩
  obtain ⟨-, hnone⟩ := h.none_above ⟨x, List.mem_cons_self, rfl⟩ fun y hy =>
    (hx.trans_le (hys y hy)).ne'
  rw [fill_eq_zeros_of_lt hstuck, fill_eq_zeros fun id hid => (hnone id hid (hstuck id hid)).2]

/-- **Alike lists are walked alike.** -/
lemma fill_congr {ids : List κ} {xs ys : List α} (hids : ids.Pairwise (· < ·))
    (hxs : xs.Pairwise fun a b => key a ≤ key b) (hys : ys.Pairwise fun a b => key a ≤ key b)
    (h : ∀ k, Alike key ids xs ys k) : fill key val ids xs = fill key val ids ys := by
  induction ids generalizing xs ys with
  | nil => rfl
  | cons id ids ih =>
      obtain ⟨hlt, hids'⟩ := List.pairwise_cons.mp hids
      have hmissing : ∀ {xs ys : List α}, Alike key (id :: ids) xs ys id → (∃ x ∈ xs, key x = id) →
          ¬∀ y ∈ ys, id < key y := fun halike hx hy =>
        (halike.none_above hx fun y hy' => (hy y hy').ne').1 List.mem_cons_self
      rcases head_cases id hxs with ⟨x, xs', rfl, hx⟩ | ⟨x, xs', rfl, hx, hle⟩ | hx
      · rcases head_cases id hys with ⟨y, ys', rfl, hy⟩ | ⟨y, ys', rfl, -, hle'⟩ | hy
        · -- both walks are stuck
          rw [fill_eq_zeros_of_lt (List.forall_mem_cons.mpr ⟨hx, fun i hi => hx.trans (hlt i hi)⟩),
            fill_eq_zeros_of_lt (List.forall_mem_cons.mpr ⟨hy, fun i hi => hy.trans (hlt i hi)⟩)]
        · exact fill_eq_of_low hids hx hle' (h (key x))
        · exact fill_eq_of_low hids hx (fun y hy' => (hy y hy').le) (h (key x))
      · subst hx
        rcases head_cases (key x) hys with ⟨y, ys', rfl, hy⟩ | ⟨y, ys', rfl, hy, -⟩ | hy
        · exact (fill_eq_of_low hids hy hle (h (key y)).symm).symm
        · -- both have the entry at hand
          have hval : x = y := by
            rcases h (key x) with hall | ⟨hfirst, -⟩
            · rw [List.filter_cons_of_pos
                (by simp), List.filter_cons_of_pos (by simpa using hy)] at hall
              exact (List.cons.inj hall).1
            · have hfirst := hfirst List.mem_cons_self
              rw [List.find?_cons_of_pos
                (by simp), List.find?_cons_of_pos (by simpa using hy)] at hfirst
              exact Option.some.inj hfirst
          rw [fill, fill, if_pos rfl, if_pos hy, hval]
          congr 1
          exact ih hids' (List.pairwise_cons.mp hxs).2 (List.pairwise_cons.mp hys).2
            fun k => (h k).tail hlt hy
        · exact absurd hy (hmissing (h (key x)) ⟨x, List.mem_cons_self, rfl⟩)
      · rcases head_cases id hys with ⟨y, ys', rfl, hy⟩ | ⟨y, ys', rfl, hy, -⟩ | hy
        · exact (fill_eq_of_low hids hy (fun x hx' => (hx x hx').le) (h (key y)).symm).symm
        · exact absurd hx (hmissing (h id).symm ⟨y, List.mem_cons_self, hy⟩)
        · rw [fill_cons_of_gt hx, fill_cons_of_gt hy]
          congr 1
          refine ih hids' hxs hys fun k => (h k).imp_right fun h => ?_
          exact ⟨fun hk => h.1 (List.mem_cons_of_mem _ hk),
            fun id' hid' => h.2 id' (List.mem_cons_of_mem _ hid')⟩

/-- A function that tells `0` from everything else tells whether the walk found
everything. -/
lemma map_fill_eq_iff {γ : Type} {f : β → γ} (hf : ∀ v, f v = f 0 → v = 0) {ids : List κ}
    {xs : List α} (hids : ids.Pairwise (· < ·)) :
    (fill key val ids xs).map f = (ids.map (first key val xs)).map f ↔
      fill key val ids xs = ids.map (first key val xs) := by
  constructor
  · intro h
    have hor : List.Forall₂ (fun v id => v = 0 ∨ v = first key val xs id)
        (fill key val ids xs) ids :=
      fill_eq_zero_or_first hids
    generalize fill key val ids xs = vs at h hor ⊢
    induction hor with
    | nil => rfl
    | @cons v id vs ids hv _ ih =>
        simp only [List.map_cons, List.cons.injEq] at h ⊢
        refine ⟨?_, ih (List.pairwise_cons.mp hids).2 h.2⟩
        rcases hv with rfl | hv
        · exact (hf _ h.1.symm).symm
        · exact hv
  · exact congrArg _

end MergeFill
