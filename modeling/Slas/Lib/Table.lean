import Mathlib

/-!
Tables of a relational store: rows under an integer primary key that the store
hands out itself.

* `Table`: rows by increasing positive id; `insert` gives the new row the id
  after the largest one, `delete` and `update` leave the ids alone;
* `UniqueTable`: a table no two rows of which have the same key; `insertOrIgnore`
  and `idOf` are the interning of keys.
-/

/-- `integer primary key`. `-1` stands for a row that is not there. -/
abbrev RowId := ℤ

structure Row (α : Type) where
  id : RowId
  val : α
  deriving DecidableEq

/-- Rows by increasing id. -/
structure Table (α : Type) where
  rows : List (Row α)
  increasing : rows.Pairwise fun r r' => r.id < r'.id
  positive : ∀ r ∈ rows, 0 < r.id

namespace Table

variable {α : Type}

@[ext] lemma ext_rows {t t' : Table α} (h : t.rows = t'.rows) : t = t' := by
  cases t; cases t'; simp_all

def empty : Table α := ⟨[], List.Pairwise.nil, by simp⟩

/-- The id of the next row: one after the largest, `1` for the first. -/
def nextId (t : Table α) : RowId := (t.rows.getLast?.map (·.id)).getD 0 + 1

lemma nextId_of_append {t : Table α} {init : List (Row α)} {last : Row α}
    (h : t.rows = init ++ [last]) : t.nextId = last.id + 1 := by
  simp [nextId, h]

lemma lt_nextId {t : Table α} {r : Row α} (hr : r ∈ t.rows) : r.id < t.nextId := by
  rcases List.eq_nil_or_concat' t.rows with hnil | ⟨init, last, hsnoc⟩
  · rw [hnil] at hr
    exact absurd hr List.not_mem_nil
  · rw [nextId_of_append hsnoc]
    have hinc := hsnoc ▸ t.increasing
    rw [hsnoc] at hr
    rcases List.mem_append.mp hr with hinit | hlast
    · exact Int.lt_add_one_of_le
        ((List.pairwise_append.mp hinc).2.2 r hinit last List.mem_cons_self).le
    · rw [List.mem_singleton.mp hlast]
      exact lt_add_one last.id

lemma nextId_pos (t : Table α) : 0 < t.nextId := by
  rcases List.eq_nil_or_concat' t.rows with hnil | ⟨init, last, hsnoc⟩
  · simp [nextId, hnil]
  · have hlast := t.positive last (by simp [hsnoc])
    rw [nextId_of_append hsnoc]
    exact Int.lt_add_one_of_le hlast.le

lemma nodup_ids (t : Table α) : (t.rows.map (·.id)).Nodup :=
  List.pairwise_map.mpr (t.increasing.imp fun hab => ne_of_lt hab)

/-- Two rows with one id are the same row. -/
lemma row_ext {t : Table α} {r r' : Row α} (hr : r ∈ t.rows) (hr' : r' ∈ t.rows)
    (h : r.id = r'.id) : r = r' := by
  exact List.inj_on_of_nodup_map t.nodup_ids hr hr' h

/-- `insert into`. -/
def insert (t : Table α) (v : α) : Table α where
  rows := t.rows ++ [⟨t.nextId, v⟩]
  increasing := by
    refine List.pairwise_append.mpr ⟨t.increasing, List.pairwise_singleton _ _, ?_⟩
    rintro r hr r' hr'
    rw [List.mem_singleton] at hr'
    subst hr'
    exact lt_nextId hr
  positive := by
    intro r hr
    rcases List.mem_append.mp hr with hr | hr
    · exact t.positive r hr
    · rw [List.mem_singleton] at hr
      subst hr
      exact t.nextId_pos

@[simp] lemma insert_rows (t : Table α) (v : α) : (t.insert v).rows = t.rows ++ [⟨t.nextId, v⟩] :=
  rfl

@[simp] lemma empty_rows : (empty : Table α).rows = [] := rfl

/-- The values in the order of their rows. -/
def vals (t : Table α) : List α := t.rows.map (·.val)

@[simp] lemma insert_vals (t : Table α) (v : α) : (t.insert v).vals = t.vals ++ [v] := by
  simp [vals]

lemma foldl_insert_vals (t : Table α) (vs : List α) :
    (vs.foldl insert t).vals = t.vals ++ vs := by
  induction vs generalizing t with
  | nil => simp
  | cons v vs ih => rw [List.foldl_cons, ih, insert_vals, List.append_assoc]; rfl

@[simp] lemma nextId_insert (t : Table α) (v : α) : (t.insert v).nextId = t.nextId + 1 :=
  nextId_of_append (insert_rows t v)

@[simp] lemma empty_vals : (empty : Table α).vals = [] := rfl

lemma mem_vals {t : Table α} {v : α} : v ∈ t.vals ↔ ∃ id, ⟨id, v⟩ ∈ t.rows := by
  simp only [vals, List.mem_map]
  constructor
  · rintro ⟨⟨id, _⟩, hr, rfl⟩
    exact ⟨id, hr⟩
  · rintro ⟨id, hr⟩
    exact ⟨⟨id, v⟩, hr, rfl⟩

/-- `select … where ID=…`. -/
def get? (t : Table α) (id : RowId) : Option α :=
  (t.rows.find? fun r => r.id = id).map (·.val)

/-- `delete from … where not keep`. -/
def delete (t : Table α) (keep : Row α → Bool) : Table α where
  rows := t.rows.filter keep
  increasing := t.increasing.filter _
  positive := fun r hr => t.positive r (List.mem_filter.mp hr).1

@[simp] lemma delete_rows (t : Table α) (keep : Row α → Bool) :
    (t.delete keep).rows = t.rows.filter keep := rfl

/-- `update`. -/
def update (t : Table α) (f : Row α → α) : Table α where
  rows := t.rows.map fun r => ⟨r.id, f r⟩
  increasing := List.pairwise_map.mpr t.increasing
  positive := by
    intro r hr
    obtain ⟨r₀, hr₀, rfl⟩ := List.mem_map.mp hr
    exact t.positive r₀ hr₀

@[simp] lemma update_rows (t : Table α) (f : Row α → α) :
    (t.update f).rows = t.rows.map fun r => ⟨r.id, f r⟩ := rfl

lemma get?_eq_some {t : Table α} {id : RowId} {v : α} :
    t.get? id = some v ↔ ⟨id, v⟩ ∈ t.rows := by
  simp only [get?, Option.map_eq_some_iff]
  constructor
  · rintro ⟨r, hr, rfl⟩
    have hid := List.find?_some hr
    rw [decide_eq_true_eq] at hid
    subst hid
    exact List.mem_of_find?_eq_some hr
  · intro hr
    cases hfind : t.rows.find? fun r => r.id = id with
    | none => exact absurd (List.find?_eq_none.mp hfind _ hr) (by simp)
    | some r =>
        have hid := List.find?_some hfind
        rw [decide_eq_true_eq] at hid
        have := row_ext (List.mem_of_find?_eq_some hfind) hr hid
        exact ⟨r, rfl, by rw [this]⟩

/-- A row is updated in its place. -/
lemma get?_update (t : Table α) (f : Row α → α) (id : RowId) :
    (t.update f).get? id = (t.get? id).map fun v => f ⟨id, v⟩ := by
  ext v
  rw [Option.map_eq_some_iff, get?_eq_some, update_rows, List.mem_map]
  constructor
  · rintro ⟨r, hr, heq⟩
    injection heq with hid hval
    subst hid
    exact ⟨r.val, get?_eq_some.mpr hr, hval⟩
  · rintro ⟨w, hw, rfl⟩
    exact ⟨⟨id, w⟩, get?_eq_some.mp hw, rfl⟩

/-- A row that is still there held the same value before. -/
lemma get?_of_subset {t t' : Table α} (hsub : t.rows ⊆ t'.rows) {id : RowId}
    (hid : id ∈ t.rows.map (·.id)) {v : α} (h : t'.get? id = some v) : t.get? id = some v := by
  obtain ⟨r, hr, rfl⟩ := List.mem_map.mp hid
  have := row_ext (hsub hr) (get?_eq_some.mp h) rfl
  exact get?_eq_some.mpr (this ▸ hr)

/-- A row that is there stays what it is when rows are added. -/
lemma get?_eq_of_subset {t t' : Table α} (hsub : t.rows ⊆ t'.rows) {id : RowId}
    (hid : id ∈ t.rows.map (·.id)) : t'.get? id = t.get? id := by
  obtain ⟨r, hr, rfl⟩ := List.mem_map.mp hid
  rw [get?_eq_some.mpr hr, get?_eq_some.mpr (hsub hr)]

/-- The ids count the rows inserted. -/
lemma foldl_insert_rows (vs : List α) :
    (vs.foldl insert (empty : Table α)).rows = vs.mapIdx fun i v => ⟨i + 1, v⟩ := by
  induction vs using List.reverseRecOn with
  | nil => rfl
  | append_singleton vs v ih =>
      have hnext : (vs.foldl insert (empty : Table α)).nextId = vs.length + 1 := by
        rcases List.eq_nil_or_concat' vs with rfl | ⟨init, last, rfl⟩
        · rfl
        · rw [List.mapIdx_concat] at ih
          rw [nextId_of_append ih, List.length_append, List.length_singleton, Nat.cast_succ]
      rw [List.foldl_append, List.foldl_cons, List.foldl_nil, insert_rows, ih, hnext,
        List.mapIdx_concat]

/-- A row that has been inserted is found under its number. -/
lemma get?_foldl_insert (vs : List α) (i : ℕ) :
    (vs.foldl insert (empty : Table α)).get? (i + 1) = vs[i]? := by
  ext v
  rw [get?_eq_some, foldl_insert_rows, List.mem_mapIdx, List.getElem?_eq_some_iff]
  constructor
  · rintro ⟨j, hj, heq⟩
    obtain ⟨hid, hval⟩ := Row.mk.inj heq
    obtain rfl : j = i := Nat.cast_injective (add_right_cancel hid)
    exact ⟨hj, hval⟩
  · rintro ⟨hi, rfl⟩
    exact ⟨i, hi, rfl⟩

/-- The row of an id, as a list. -/
lemma filter_id (t : Table α) (id : RowId) :
    (t.rows.filter fun r => id = r.id) = ((t.get? id).map (Row.mk id)).toList := by
  have hnodup : (t.rows.filter fun r => id = r.id).Nodup :=
    (List.Nodup.of_map _ t.nodup_ids).filter _
  cases h : t.get? id with
  | none =>
      refine List.filter_eq_nil_iff.mpr fun r hr hid => ?_
      rw [of_decide_eq_true hid, get?_eq_some.mpr hr] at h
      cases h
  | some v =>
      refine List.perm_singleton.mp ((List.perm_ext_iff_of_nodup hnodup
        (List.nodup_singleton _)).mpr fun r => ?_)
      rw [List.mem_filter, List.mem_singleton, decide_eq_true_eq]
      constructor
      · rintro ⟨hr, rfl⟩
        rw [← Option.some.inj ((get?_eq_some.mpr hr).symm.trans h)]
      · rintro rfl
        exact ⟨get?_eq_some.mp h, rfl⟩

lemma mem_ids_of_get? {t : Table α} {id : RowId} {v : α} (h : t.get? id = some v) :
    id ∈ t.rows.map (·.id) := List.mem_map.mpr ⟨_, get?_eq_some.mp h, rfl⟩

/-- No row has the id that stands for a missing one. -/
lemma get?_neg_one (t : Table α) : t.get? (-1) = none := by
  cases h : t.get? (-1) with
  | none => rfl
  | some v => exact absurd (t.positive _ (get?_eq_some.mp h)) (by simp)

end Table

/-! ### Tables with a unique key -/

/-- A table no two rows of which have the same key. -/
structure UniqueTable {α κ : Type} (key : α → κ) extends Table α where
  unique : rows.Pairwise fun r r' => key r.val ≠ key r'.val

namespace UniqueTable

variable {α κ : Type} {key : α → κ}

def empty : UniqueTable key := ⟨Table.empty, List.Pairwise.nil⟩

@[simp] lemma empty_rows : (empty : UniqueTable key).rows = [] := rfl

lemma ext_rows {t t' : UniqueTable key} (h : t.rows = t'.rows) : t = t' := by
  cases t
  cases t'
  congr
  exact Table.ext_rows h

/-- No key comes twice. -/
lemma nodup_keys (t : UniqueTable key) : (t.vals.map key).Nodup := by
  rw [Table.vals, List.map_map]
  exact List.pairwise_map.mpr t.unique

lemma nodup_vals (t : UniqueTable (@id α)) : t.vals.Nodup := by
  simpa using t.nodup_keys

/-- Two rows with one key are the same row. -/
lemma row_ext_key {t : UniqueTable key} {r r' : Row α} (hr : r ∈ t.rows) (hr' : r' ∈ t.rows)
    (h : key r.val = key r'.val) : r = r' := by
  have hnodup : (t.rows.map fun r => key r.val).Nodup := List.pairwise_map.mpr t.unique
  exact List.inj_on_of_nodup_map hnodup hr hr' h

variable [DecidableEq κ]

/-- `select ID from … where` the key is `k`. -/
def idOf? (t : UniqueTable key) (k : κ) : Option RowId :=
  (t.rows.find? fun r => key r.val = k).map (·.id)

lemma idOf?_eq_some {t : UniqueTable key} {k : κ} {id : RowId} :
    t.idOf? k = some id ↔ ∃ v, ⟨id, v⟩ ∈ t.rows ∧ key v = k := by
  simp only [idOf?, Option.map_eq_some_iff]
  constructor
  · rintro ⟨r, hr, rfl⟩
    have hk := List.find?_some hr
    rw [decide_eq_true_eq] at hk
    exact ⟨r.val, List.mem_of_find?_eq_some hr, hk⟩
  · rintro ⟨v, hr, rfl⟩
    cases hfind : t.rows.find? fun r => key r.val = key v with
    | none => exact absurd (List.find?_eq_none.mp hfind _ hr) (by simp)
    | some r =>
        have hk := List.find?_some hfind
        rw [decide_eq_true_eq] at hk
        have := row_ext_key (List.mem_of_find?_eq_some hfind) hr hk
        exact ⟨r, rfl, by rw [this]⟩

lemma idOf?_eq_none {t : UniqueTable key} {k : κ} :
    t.idOf? k = none ↔ ∀ r ∈ t.rows, key r.val ≠ k := by
  simp [idOf?, List.find?_eq_none]

/-- `insert or ignore into`. -/
def insertOrIgnore (t : UniqueTable key) (v : α) : UniqueTable key :=
  if h : t.idOf? (key v) = none then
    { toTable := t.toTable.insert v
      unique := by
        refine List.pairwise_append.mpr ⟨t.unique, List.pairwise_singleton _ _, ?_⟩
        rintro r hr r' hr'
        rw [List.mem_singleton] at hr'
        subst hr'
        exact idOf?_eq_none.mp h r hr }
  else t

lemma insertOrIgnore_of_none {t : UniqueTable key} {v : α} (h : t.idOf? (key v) = none) :
    (t.insertOrIgnore v).toTable = t.toTable.insert v := by
  rw [insertOrIgnore, dif_pos h]

lemma insertOrIgnore_of_some {t : UniqueTable key} {v : α} {id : RowId}
    (h : t.idOf? (key v) = some id) : t.insertOrIgnore v = t := by
  rw [insertOrIgnore, dif_neg (by simp [h])]

/-- No row is lost. -/
lemma mem_insertOrIgnore {t : UniqueTable key} (v : α) {r : Row α} (hr : r ∈ t.rows) :
    r ∈ (t.insertOrIgnore v).rows := by
  cases h : t.idOf? (key v) with
  | none => simp [insertOrIgnore_of_none h, hr]
  | some id => rwa [insertOrIgnore_of_some h]

/-- The key is there afterwards. -/
lemma exists_mem_insertOrIgnore (t : UniqueTable key) (v : α) :
    ∃ r ∈ (t.insertOrIgnore v).rows, key r.val = key v := by
  cases h : t.idOf? (key v) with
  | none => exact ⟨⟨t.nextId, v⟩, by simp [insertOrIgnore_of_none h], rfl⟩
  | some id =>
      obtain ⟨w, hw, hkey⟩ := idOf?_eq_some.mp h
      exact ⟨⟨id, w⟩, by rwa [insertOrIgnore_of_some h], hkey⟩

/-- Every row was there or holds the value inserted. -/
lemma of_mem_insertOrIgnore {t : UniqueTable key} {v : α} {r : Row α}
    (hr : r ∈ (t.insertOrIgnore v).rows) : r ∈ t.rows ∨ r.val = v := by
  cases h : t.idOf? (key v) with
  | none =>
      rw [insertOrIgnore_of_none h, Table.insert_rows, List.mem_append, List.mem_singleton] at hr
      exact hr.imp_right fun hr => by rw [hr]
  | some id =>
      rw [insertOrIgnore_of_some h] at hr
      exact .inl hr

/-- The key has an id afterwards. -/
lemma exists_idOf?_insertOrIgnore (t : UniqueTable key) (v : α) :
    ∃ id, (t.insertOrIgnore v).idOf? (key v) = some id := by
  obtain ⟨r, hr, hkey⟩ := t.exists_mem_insertOrIgnore v
  exact ⟨r.id, idOf?_eq_some.mpr ⟨r.val, hr, hkey⟩⟩

/-- A key keeps its id. -/
lemma idOf?_insertOrIgnore {t : UniqueTable key} (v : α) {k : κ} {id : RowId}
    (h : t.idOf? k = some id) : (t.insertOrIgnore v).idOf? k = some id := by
  obtain ⟨w, hw, hkey⟩ := idOf?_eq_some.mp h
  exact idOf?_eq_some.mpr ⟨w, mem_insertOrIgnore v hw, hkey⟩

/-- The same of several values inserted one after another. -/
lemma mem_foldl_insertOrIgnore {t : UniqueTable key} {vs : List α} {r : Row α} (hr : r ∈ t.rows) :
    r ∈ (vs.foldl insertOrIgnore t).rows := by
  induction vs generalizing t with
  | nil => exact hr
  | cons v vs ih => exact ih (mem_insertOrIgnore v hr)

lemma exists_mem_foldl_insertOrIgnore (t : UniqueTable key) {vs : List α} {v : α} (hv : v ∈ vs) :
    ∃ r ∈ (vs.foldl insertOrIgnore t).rows, key r.val = key v := by
  induction vs generalizing t with
  | nil => exact absurd hv List.not_mem_nil
  | cons w vs ih =>
      rcases List.mem_cons.mp hv with rfl | hv
      · obtain ⟨r, hr, hkey⟩ := exists_mem_insertOrIgnore t v
        exact ⟨r, mem_foldl_insertOrIgnore (t := t.insertOrIgnore v) hr, hkey⟩
      · exact ih (t.insertOrIgnore w) hv

lemma of_mem_foldl_insertOrIgnore {t : UniqueTable key} {vs : List α} {r : Row α}
    (hr : r ∈ (vs.foldl insertOrIgnore t).rows) : r ∈ t.rows ∨ r.val ∈ vs := by
  induction vs generalizing t with
  | nil => exact .inl hr
  | cons v vs ih =>
      rcases ih hr with hr | hr
      · exact (of_mem_insertOrIgnore hr).imp_right fun hv => List.mem_cons.mpr (.inl hv)
      · exact .inr (List.mem_cons_of_mem v hr)

/-- `insert or replace into` with the id `(select ID … where` the key is that of
`v)`: the row with that key, if there is one, is replaced under its id. -/
def insertOrReplace (t : UniqueTable key) (v : α) : UniqueTable key :=
  if t.idOf? (key v) = none then t.insertOrIgnore v
  else
    { toTable := t.toTable.update fun r => if key r.val = key v then v else r.val
      unique := by
        refine List.pairwise_map.mpr (t.unique.imp fun {a b} hab => ?_)
        show key (if key a.val = key v then v else a.val)
          ≠ key (if key b.val = key v then v else b.val)
        split_ifs with ha hb hb
        · exact absurd (ha.trans hb.symm) hab
        · exact fun h => hb h.symm
        · exact ha
        · exact hab }

/-- `insert into`: the statement fails if the key is there already. -/
def insertNew (t : UniqueTable key) (v : α) : Option (UniqueTable key) :=
  if t.idOf? (key v) = none then some (t.insertOrIgnore v) else none

/-- `update` of columns that are not in the key. -/
def update (t : UniqueTable key) (f : Row α → α) (hf : ∀ r, key (f r) = key r.val) :
    UniqueTable key where
  toTable := t.toTable.update f
  unique := List.pairwise_map.mpr (t.unique.imp fun {a b} hab => by
    show key (f a) ≠ key (f b)
    rwa [hf, hf])

/-- `insert into … select`: the statement fails if a key is there already. -/
def insertAll (t : UniqueTable key) (vs : List α) : Option (UniqueTable key) :=
  vs.foldlM (fun t v => if t.idOf? (key v) = none then some (t.insertOrIgnore v) else none) t

/-- Distinct keys that are not there are all inserted. -/
lemma insertAll_eq_some {t : UniqueTable key} {vs : List α}
    (hnew : ∀ v ∈ vs, t.idOf? (key v) = none) (hnodup : (vs.map key).Nodup) :
    t.insertAll vs = some (vs.foldl insertOrIgnore t) := by
  induction vs generalizing t with
  | nil => rfl
  | cons v vs ih =>
      rw [List.map_cons, List.nodup_cons] at hnodup
      have hv := hnew v List.mem_cons_self
      have hrest : ∀ w ∈ vs, (t.insertOrIgnore v).idOf? (key w) = none := by
        intro w hw
        refine idOf?_eq_none.mpr fun r hr hkey => ?_
        rcases of_mem_insertOrIgnore hr with hr | hr
        · exact idOf?_eq_none.mp (hnew w (List.mem_cons_of_mem _ hw)) r hr hkey
        · rw [hr] at hkey
          exact hnodup.1 (hkey ▸ List.mem_map_of_mem hw)
      have := ih hrest hnodup.2
      rw [insertAll, List.foldlM_cons, if_pos hv]
      exact this

/-- What has been inserted, if nothing was refused. -/
lemma eq_foldl_of_insertAll {t t' : UniqueTable key} {vs : List α} (h : t.insertAll vs = some t') :
    t' = vs.foldl insertOrIgnore t := by
  induction vs generalizing t with
  | nil => exact (Option.some.inj h).symm
  | cons v vs ih =>
      rw [insertAll, List.foldlM_cons] at h
      split_ifs at h with hv
      · exact ih h
      · cases h

/-- Nothing is refused exactly if the keys are distinct and not there. -/
lemma foldlM_insertNew_eq_some_iff {t : UniqueTable key} {vs : List α} :
    (vs.foldlM insertNew t).isSome ↔
      (vs.map key).Nodup ∧ ∀ v ∈ vs, t.idOf? (key v) = none := by
  induction vs generalizing t with
  | nil => simp
  | cons v vs ih =>
      rw [List.foldlM_cons, List.map_cons, List.nodup_cons, insertNew]
      by_cases hv : t.idOf? (key v) = none
      · have hkeys : ∀ w, (t.insertOrIgnore v).idOf? (key w) = none ↔
            t.idOf? (key w) = none ∧ key w ≠ key v := by
          intro w
          simp only [idOf?_eq_none, insertOrIgnore_of_none hv, Table.insert_rows, List.mem_append,
            List.mem_singleton]
          constructor
          · intro h
            exact ⟨fun r hr => h r (.inl hr), fun heq => h _ (.inr rfl) heq.symm⟩
          · rintro ⟨h, hne⟩ r (hr | rfl)
            · exact h r hr
            · exact hne.symm
        have hbind : (some (t.insertOrIgnore v) >>= fun t => vs.foldlM insertNew t)
            = vs.foldlM insertNew (t.insertOrIgnore v) := rfl
        rw [if_pos hv, hbind, ih]
        simp only [hkeys, List.forall_mem_cons, List.mem_map, not_exists, not_and]
        constructor
        · rintro ⟨hnodup, hnew⟩
          exact ⟨⟨fun w hw => (hnew w hw).2, hnodup⟩, hv, fun w hw => (hnew w hw).1⟩
        · rintro ⟨⟨hne, hnodup⟩, -, hnew⟩
          exact ⟨hnodup, fun w hw => ⟨hnew w hw, hne w hw⟩⟩
      · have hbind : ((none : Option (UniqueTable key)) >>= fun t => vs.foldlM insertNew t)
            = none := rfl
        rw [if_neg hv, hbind]
        simp only [Option.isSome_none, Bool.false_eq_true, false_iff, not_and]
        exact fun _ h => hv (h v List.mem_cons_self)

lemma insertOrReplace_of_none {t : UniqueTable key} {v : α} (h : t.idOf? (key v) = none) :
    t.insertOrReplace v = t.insertOrIgnore v := by
  rw [insertOrReplace, if_pos h]

lemma insertOrReplace_of_some {t : UniqueTable key} {v : α} {id : RowId}
    (h : t.idOf? (key v) = some id) : (t.insertOrReplace v).rows
      = t.rows.map fun r => ⟨r.id, if key r.val = key v then v else r.val⟩ := by
  rw [insertOrReplace, if_neg (by simp [h])]
  rfl

/-- Every row with the key is deleted, and the new one is inserted under the id it had,
or under the next one. -/
lemma perm_insertOrReplace (t : UniqueTable key) (v : α) : (t.insertOrReplace v).rows.Perm
    (⟨(t.idOf? (key v)).getD t.nextId, v⟩ :: t.rows.filter fun r => key r.val ≠ key v) := by
  cases h : t.idOf? (key v) with
  | none =>
      have hfilter : (t.rows.filter fun r => key r.val ≠ key v) = t.rows :=
        List.filter_eq_self.mpr fun r hr => decide_eq_true (idOf?_eq_none.mp h r hr)
      rw [insertOrReplace_of_none h, insertOrIgnore_of_none h, hfilter, Table.insert_rows]
      exact List.perm_append_singleton _ _
  | some id =>
      obtain ⟨w, hw, hkey⟩ := idOf?_eq_some.mp h
      obtain ⟨before, after, hrows⟩ := List.append_of_mem hw
      have hunique := t.unique
      rw [hrows, List.pairwise_append, List.pairwise_cons] at hunique
      obtain ⟨-, ⟨hafter, -⟩, hbefore⟩ := hunique
      have hne : ∀ r ∈ before ++ after, key r.val ≠ key v := by
        intro r hr
        rw [← hkey]
        rcases List.mem_append.mp hr with hr | hr
        · exact hbefore r hr _ List.mem_cons_self
        · exact (hafter r hr).symm
      have hmap : ∀ rs ⊆ before ++ after,
          rs.map (fun r => (⟨r.id, if key r.val = key v then v else r.val⟩ : Row α)) = rs := by
        intro rs hrs
        conv_rhs => rw [← List.map_id rs]
        refine List.map_congr_left fun r hr => ?_
        rw [if_neg (hne r (hrs hr))]
        rfl
      have hfilter : ∀ rs ⊆ before ++ after, (rs.filter fun r => key r.val ≠ key v) = rs :=
        fun rs hrs => List.filter_eq_self.mpr fun r hr => decide_eq_true (hne r (hrs hr))
      rw [insertOrReplace_of_some h, hrows, List.map_append, List.map_cons, List.filter_append,
        List.filter_cons_of_neg (by simp [hkey]), hmap before (List.subset_append_left _ _),
        hmap after (List.subset_append_right _ _), hfilter before (List.subset_append_left _ _),
        hfilter after (List.subset_append_right _ _), if_pos hkey]
      exact List.perm_middle

/-- Every row holds the new value, or was there with another key. -/
lemma of_mem_insertOrReplace {t : UniqueTable key} {v : α} {r : Row α}
    (hr : r ∈ (t.insertOrReplace v).rows) : r.val = v ∨ r ∈ t.rows ∧ key r.val ≠ key v := by
  rcases List.mem_cons.mp ((t.perm_insertOrReplace v).mem_iff.mp hr) with rfl | hr
  · exact .inl rfl
  · obtain ⟨hr, hne⟩ := List.mem_filter.mp hr
    exact .inr ⟨hr, of_decide_eq_true hne⟩

/-- The row of a key keeps its id, and a new one gets the next. -/
lemma idOf?_insertOrReplace (t : UniqueTable key) (v : α) :
    (t.insertOrReplace v).idOf? (key v) = some ((t.idOf? (key v)).getD t.nextId) := by
  cases h : t.idOf? (key v) with
  | none =>
      rw [insertOrReplace_of_none h]
      exact idOf?_eq_some.mpr ⟨v, by simp [insertOrIgnore_of_none h], rfl⟩
  | some id =>
      obtain ⟨w, hw, hkey⟩ := idOf?_eq_some.mp h
      refine idOf?_eq_some.mpr ⟨v, ?_, rfl⟩
      rw [insertOrReplace_of_some h]
      exact List.mem_map.mpr ⟨⟨id, w⟩, hw, by rw [if_pos hkey]; rfl⟩

/-- Other keys keep their rows. -/
lemma idOf?_insertOrReplace_of_ne {t : UniqueTable key} {v : α} {k : κ} {id : RowId}
    (hk : k ≠ key v) (h : t.idOf? k = some id) : (t.insertOrReplace v).idOf? k = some id := by
  obtain ⟨w, hw, rfl⟩ := idOf?_eq_some.mp h
  refine idOf?_eq_some.mpr ⟨w, ?_, rfl⟩
  cases hv : t.idOf? (key v) with
  | none =>
      rw [insertOrReplace_of_none hv]
      exact mem_insertOrIgnore v hw
  | some i =>
      rw [insertOrReplace_of_some hv]
      exact List.mem_map.mpr ⟨⟨id, w⟩, hw, by rw [if_neg hk]⟩

/-- One row has the key afterwards. -/
lemma filter_insertOrReplace_self (t : UniqueTable key) (v : α) :
    (t.insertOrReplace v).rows.filter (fun r => key r.val = key v)
      = [⟨(t.idOf? (key v)).getD t.nextId, v⟩] := by
  have hperm := (t.perm_insertOrReplace v).filter fun r => decide (key r.val = key v)
  have hothers : ((t.rows.filter fun r => key r.val ≠ key v).filter
      fun r => decide (key r.val = key v)) = [] := by
    rw [List.filter_filter]
    exact List.filter_eq_nil_iff.mpr fun r _ => by simp
  rw [List.filter_cons_of_pos (by simp), hothers] at hperm
  exact List.perm_singleton.mp hperm

/-- The rows with other keys are left as they were. -/
lemma filter_insertOrReplace_ne (t : UniqueTable key) (v : α) :
    (t.insertOrReplace v).rows.filter (fun r => key r.val ≠ key v)
      = t.rows.filter fun r => key r.val ≠ key v := by
  cases h : t.idOf? (key v) with
  | none =>
      rw [insertOrReplace_of_none h, insertOrIgnore_of_none h, Table.insert_rows,
        List.filter_append,
        List.filter_cons_of_neg (by simp), List.filter_nil, List.append_nil]
  | some id =>
      rw [insertOrReplace_of_some h]
      generalize t.rows = rows
      induction rows with
      | nil => rfl
      | cons r rows ih =>
          rw [List.map_cons]
          by_cases hr : key r.val = key v
          · rw [List.filter_cons_of_neg (by simp [hr]), List.filter_cons_of_neg (by simp [hr]), ih]
          · rw [List.filter_cons_of_pos (by simp [hr]), List.filter_cons_of_pos (by simp [hr]), ih,
              if_neg hr]

/-- `delete from … where not keep`. -/
def delete (t : UniqueTable key) (keep : Row α → Bool) : UniqueTable key where
  toTable := t.toTable.delete keep
  unique := t.unique.filter _

omit [DecidableEq κ] in
@[simp] lemma delete_rows (t : UniqueTable key) (keep : Row α → Bool) :
    (t.delete keep).rows = t.rows.filter keep := rfl

lemma get?_insertOrIgnore {t : UniqueTable key} (v : α) {id : RowId} {w : α}
    (h : t.get? id = some w) : (t.insertOrIgnore v).get? id = some w :=
  Table.get?_eq_some.mpr (mem_insertOrIgnore v (Table.get?_eq_some.mp h))

/-- Rows that are not among those inserted are left as they were. -/
lemma filter_foldl_insertOrIgnore {t : UniqueTable key} {vs : List α} {p : α → Bool}
    (hp : ∀ v ∈ vs, p v = false) :
    (vs.foldl insertOrIgnore t).rows.filter (fun r => p r.val) = t.rows.filter fun r =>
      p r.val := by
  induction vs generalizing t with
  | nil => rfl
  | cons v vs ih =>
      rw [List.foldl_cons, ih fun w hw => hp w (List.mem_cons_of_mem _ hw)]
      cases h : t.idOf? (key v) with
      | none => simp [insertOrIgnore_of_none h, hp v List.mem_cons_self]
      | some id => rw [insertOrIgnore_of_some h]

section Names

variable [DecidableEq α]

lemma idOf?_eq_none_iff {t : UniqueTable (@id α)} {v : α} : t.idOf? v = none ↔ v ∉ t.vals := by
  rw [idOf?_eq_none, Table.vals, List.mem_map]
  constructor
  · rintro h ⟨r, hr, hv⟩
    exact h r hr hv
  · exact fun h r hr hv => h ⟨r, hr, hv⟩

lemma insertNew_of_mem {t : UniqueTable (@id α)} {v : α} (h : v ∈ t.vals) : t.insertNew v = none :=
  if_neg fun hnone => idOf?_eq_none_iff.mp hnone h

lemma insertNew_of_not_mem {t : UniqueTable (@id α)} {v : α} (h : v ∉ t.vals) :
    t.insertNew v = some (t.insertOrIgnore v) := if_pos (idOf?_eq_none_iff.mpr h)

lemma mem_vals_insertOrIgnore {t : UniqueTable (@id α)} {v w : α} :
    w ∈ (t.insertOrIgnore v).vals ↔ w ∈ t.vals ∨ w = v := by
  rw [Table.mem_vals, Table.mem_vals]
  constructor
  · rintro ⟨i, hi⟩
    exact (of_mem_insertOrIgnore hi).imp_left fun h => ⟨i, h⟩
  · rintro (⟨i, hi⟩ | rfl)
    · exact ⟨i, mem_insertOrIgnore v hi⟩
    · obtain ⟨r, hr, hkey⟩ := t.exists_mem_insertOrIgnore w
      exact ⟨r.id, (show r.val = w from hkey) ▸ hr⟩

lemma mem_vals_foldl_insertOrIgnore {t : UniqueTable (@id α)} {vs : List α} {w : α} :
    w ∈ (vs.foldl insertOrIgnore t).vals ↔ w ∈ t.vals ∨ w ∈ vs := by
  induction vs generalizing t with
  | nil => simp
  | cons v vs ih => rw [List.foldl_cons, ih, mem_vals_insertOrIgnore, List.mem_cons, or_assoc]

/-- Values that are not there yet go to the end. -/
lemma vals_foldl_insertOrIgnore {t : UniqueTable (@id α)} {vs : List α}
    (hnew : ∀ v ∈ vs, v ∉ t.vals)
    (hnodup : vs.Nodup) : (vs.foldl insertOrIgnore t).vals = t.vals ++ vs := by
  induction vs generalizing t with
  | nil => exact (List.append_nil _).symm
  | cons v vs ih =>
      rw [List.nodup_cons] at hnodup
      rw [List.forall_mem_cons] at hnew
      have hvals : (t.insertOrIgnore v).vals = t.vals ++ [v] := by
        rw [insertOrIgnore_of_none (idOf?_eq_none_iff.mpr hnew.1), Table.insert_vals]
      have hrest : ∀ w ∈ vs, w ∉ (t.insertOrIgnore v).vals := by
        intro w hw h
        rcases mem_vals_insertOrIgnore.mp h with h | rfl
        · exact hnew.2 w hw h
        · exact hnodup.1 hw
      rw [List.foldl_cons, ih hrest hnodup.2, hvals, List.append_assoc]
      rfl

/-- A row that is its own key is replaced by itself. -/
lemma insertOrReplace_eq_insertOrIgnore (t : UniqueTable (@id α)) (v : α) :
    t.insertOrReplace v = t.insertOrIgnore v := by
  cases h : t.idOf? (id v) with
  | none => exact insertOrReplace_of_none h
  | some i =>
      have hrows : (t.insertOrReplace v).rows = t.rows := by
        rw [insertOrReplace_of_some h]
        conv_rhs => rw [← List.map_id t.rows]
        refine List.map_congr_left fun r _ => ?_
        show (⟨r.id, if r.val = v then v else r.val⟩ : Row α) = r
        split_ifs with hr
        · rw [← hr]
        · rfl
      rw [insertOrIgnore_of_some h]
      rcases hu : t.insertOrReplace v with ⟨⟨rows, _, _⟩, _⟩
      rw [hu] at hrows
      subst hrows
      rfl

/-- A name that has been interned is found under its id. -/
lemma get?_idOf?_insertOrIgnore (t : UniqueTable (@id α)) (v : α) :
    (t.insertOrIgnore v).get? (((t.insertOrIgnore v).idOf? v).getD (-1)) = some v := by
  obtain ⟨r, hr, hkey⟩ := t.exists_mem_insertOrIgnore v
  have hid : (t.insertOrIgnore v).idOf? v = some r.id := idOf?_eq_some.mpr ⟨r.val, hr, hkey⟩
  rw [hid, Option.getD_some]
  exact Table.get?_eq_some.mpr ((show r.val = v from hkey) ▸ hr)

end Names

end UniqueTable
