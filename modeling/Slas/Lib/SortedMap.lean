import Mathlib

/-!
Maps from keys to values that are walked in the order of the keys.

* `SortedMap`: the entries, by strictly increasing key;
* `insert`: sets the value of a key, as `mem_insert` and `entries_insert_perm`
  say;
* `map`: applies a function to the values, which `insert` and `find?` commute
  with.
-/

/-- Entries by strictly increasing key. -/
structure SortedMap (κ β : Type) [LinearOrder κ] where
  entries : List (κ × β)
  sorted : entries.Pairwise fun p q => p.1 < q.1

namespace SortedMap

variable {κ β γ : Type} [LinearOrder κ]

@[ext] lemma ext_entries {m m' : SortedMap κ β} (h : m.entries = m'.entries) : m = m' := by
  cases m; cases m'; simp_all

def empty : SortedMap κ β := ⟨[], List.Pairwise.nil⟩

/-- The values in the order of the keys. -/
def values (m : SortedMap κ β) : List β := m.entries.map (·.2)

def find? (m : SortedMap κ β) (k : κ) : Option β := (m.entries.find? fun p => p.1 = k).map (·.2)

/-- The entry of a key put in its place. -/
def insertEntry (k : κ) (v : β) : List (κ × β) → List (κ × β)
  | [] => [(k, v)]
  | p :: ps =>
      if k < p.1 then (k, v) :: p :: ps
      else if k = p.1 then (k, v) :: ps
      else p :: insertEntry k v ps

lemma of_mem_insertEntry {k : κ} {v : β} {ps : List (κ × β)} {q : κ × β}
    (hq : q ∈ insertEntry k v ps) : q = (k, v) ∨ q ∈ ps := by
  induction ps with
  | nil => exact .inl (List.mem_singleton.mp hq)
  | cons p ps ih =>
      rw [insertEntry] at hq
      split_ifs at hq
      · exact List.mem_cons.mp hq
      · exact (List.mem_cons.mp hq).imp_right (List.mem_cons_of_mem _)
      · rcases List.mem_cons.mp hq with rfl | hq
        · exact .inr List.mem_cons_self
        · exact (ih hq).imp_right (List.mem_cons_of_mem _)

lemma sorted_insertEntry {k : κ} {v : β} {ps : List (κ × β)}
    (h : ps.Pairwise fun p q => p.1 < q.1) :
    (insertEntry k v ps).Pairwise fun p q => p.1 < q.1 := by
  induction ps with
  | nil => exact List.pairwise_singleton _ _
  | cons p ps ih =>
      obtain ⟨hp, hps⟩ := List.pairwise_cons.mp h
      rw [insertEntry]
      split_ifs with hlt heq
      · refine List.pairwise_cons.mpr ⟨fun q hq => ?_, h⟩
        rcases List.mem_cons.mp hq with rfl | hq
        · exact hlt
        · exact hlt.trans (hp q hq)
      · exact List.pairwise_cons.mpr ⟨fun q hq => heq ▸ hp q hq, hps⟩
      · refine List.pairwise_cons.mpr ⟨fun q hq => ?_, ih hps⟩
        rcases of_mem_insertEntry hq with rfl | hq
        · exact lt_of_le_of_ne (not_lt.mp hlt) (Ne.symm heq)
        · exact hp q hq

/-- `m[k] = v`. -/
def insert (m : SortedMap κ β) (k : κ) (v : β) : SortedMap κ β :=
  ⟨insertEntry k v m.entries, sorted_insertEntry m.sorted⟩

variable {m : SortedMap κ β} {k : κ} {v w : β}

/-- Two entries with one key are the same entry. -/
lemma entry_ext {p q : κ × β} (hp : p ∈ m.entries) (hq : q ∈ m.entries)
    (h : p.1 = q.1) : p = q := by
  have hnodup : (m.entries.map (·.1)).Nodup :=
    List.pairwise_map.mpr (m.sorted.imp fun hpq => ne_of_lt hpq)
  exact List.inj_on_of_nodup_map hnodup hp hq h

lemma find?_eq_some : m.find? k = some v ↔ (k, v) ∈ m.entries := by
  simp only [find?, Option.map_eq_some_iff]
  constructor
  · rintro ⟨p, hp, rfl⟩
    have hk := List.find?_some hp
    rw [decide_eq_true_eq] at hk
    subst hk
    exact List.mem_of_find?_eq_some hp
  · intro hv
    cases hfind : m.entries.find? fun p => p.1 = k with
    | none => exact absurd (List.find?_eq_none.mp hfind _ hv) (by simp)
    | some p =>
        have hk := List.find?_some hfind
        rw [decide_eq_true_eq] at hk
        have := entry_ext (List.mem_of_find?_eq_some hfind) hv hk
        exact ⟨p, rfl, by rw [this]⟩

lemma find?_eq_none : m.find? k = none ↔ ∀ p ∈ m.entries, p.1 ≠ k := by
  simp [find?, List.find?_eq_none]

/-- What the other keys have. -/
def others (m : SortedMap κ β) (k : κ) : List (κ × β) := m.entries.filter fun p => p.1 ≠ k

lemma entries_insert_perm (m : SortedMap κ β) (k : κ) (v : β) :
    (m.insert k v).entries.Perm ((k, v) :: m.others k) := by
  rcases m with ⟨ps, hps⟩
  show (insertEntry k v ps).Perm ((k, v) :: ps.filter fun p => p.1 ≠ k)
  induction ps with
  | nil => exact List.Perm.refl _
  | cons p ps ih =>
      obtain ⟨hp, hps'⟩ := List.pairwise_cons.mp hps
      rw [insertEntry]
      split_ifs with hlt heq
      · have hall : ∀ q ∈ p :: ps, decide (q.1 ≠ k) = true := by
          intro q hq
          refine decide_eq_true (ne_of_gt ?_)
          rcases List.mem_cons.mp hq with rfl | hq
          · exact hlt
          · exact hlt.trans (hp q hq)
        rw [List.filter_eq_self.mpr hall]
      · have hall : ∀ q ∈ ps, decide (q.1 ≠ k) = true := fun q hq =>
          decide_eq_true (heq ▸ (hp q hq).ne')
        rw [List.filter_cons_of_neg (by simp [heq]), List.filter_eq_self.mpr hall]
      · rw [List.filter_cons_of_pos (by simpa using Ne.symm heq)]
        exact ((ih hps').cons p).trans (List.Perm.swap _ _ _)

/-- The entry of a key and the others. -/
lemma entries_perm (h : m.find? k = some v) : m.entries.Perm ((k, v) :: m.others k) := by
  have hmem := find?_eq_some.mp h
  have hsplit := (List.filter_append_perm (fun p : κ × β => decide (p.1 = k)) m.entries).symm
  have hone : m.entries.filter (fun p => p.1 = k) = [(k, v)] := by
    have hnodup : m.entries.Nodup := List.Pairwise.imp (fun hpq => ne_of_apply_ne Prod.fst hpq.ne)
      m.sorted
    refine List.perm_singleton.mp ((List.perm_ext_iff_of_nodup (hnodup.filter _)
      (List.nodup_singleton _)).mpr fun q => ?_)
    rw [List.mem_filter, List.mem_singleton, decide_eq_true_eq]
    constructor
    · rintro ⟨hq, hk⟩
      exact entry_ext hq hmem hk
    · rintro rfl
      exact ⟨hmem, rfl⟩
  rw [hone] at hsplit
  refine hsplit.trans ?_
  simp [others]

lemma others_eq (h : m.find? k = none) : m.others k = m.entries :=
  List.filter_eq_self.mpr fun p hp => decide_eq_true (find?_eq_none.mp h p hp)

lemma mem_insert {q : κ × β} :
    q ∈ (m.insert k v).entries ↔ q = (k, v) ∨ (q ∈ m.entries ∧ q.1 ≠ k) := by
  rw [(entries_insert_perm m k v).mem_iff, List.mem_cons, others, List.mem_filter,
    decide_eq_true_eq]

/-- A function applied to the values. -/
def map (f : β → γ) (m : SortedMap κ β) : SortedMap κ γ :=
  ⟨m.entries.map fun p => (p.1, f p.2), List.pairwise_map.mpr m.sorted⟩

lemma find?_map (f : β → γ) (m : SortedMap κ β) (k : κ) :
    (m.map f).find? k = (m.find? k).map f := by
  rw [find?, map, List.find?_map, find?, Option.map_map, Option.map_map]
  rfl

lemma map_insert (f : β → γ) (m : SortedMap κ β) (k : κ) (v : β) :
    (m.insert k v).map f = (m.map f).insert k (f v) := by
  rcases m with ⟨ps, hps⟩
  refine ext_entries ?_
  show (insertEntry k v ps).map (fun p => (p.1, f p.2)) = insertEntry k (f v)
      (ps.map fun p => (p.1, f p.2))
  clear hps
  induction ps with
  | nil => rfl
  | cons p ps ih =>
      rw [insertEntry, List.map_cons, insertEntry]
      split_ifs
      · rfl
      · rfl
      · rw [List.map_cons, ih]

lemma values_map (f : β → γ) (m : SortedMap κ β) : (m.map f).values = m.values.map f := by
  rw [values, map, List.map_map, values, List.map_map]
  rfl

end SortedMap
