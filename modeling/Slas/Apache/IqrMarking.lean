import Mathlib
import Slas.Lib.Quartile
import Slas.Apache.SessionMarking

/-!
Marking a learning set by its requests counts:
`DatabaseFunctions::MarkLearningSetWithIqrMethod` of
`server/src/apache/database/database_functions.cpp`.

* `markLearningSetWithIqrMethod`: the function; `tie` is the order in which the sort
  leaves equal counts;
* `exec_markLearningSetWithIqrMethod`: what it does undisturbed;
* `MarksOutliers`: from any state with the same learning set, it returns, exactly the
  outliers become anomalies, and a second call changes nothing;
* `marksOutliers_iff`: it marks the outliers exactly if what is read of the learning set
  is not empty and has the outliers of the whole.

The number of learning sessions becomes an `unsigned` limit, so that fewer of them are
read from `2 ^ 32` on.
-/

namespace Slas.Apache

open Database
open Quartile (quartile IsOutlier)

/-- `std::vector::at`. -/
def elementAt {α : Type} (xs : List α) (i : ℤ) : DatabaseM α :=
  if i < 0 then throw .outOfRange
  else
    match xs[i.toNat]? with
    | some x => pure x
    | none => throw .outOfRange

/-- `DatabaseFunctions::ClearAnomalyMarksInLearningSet`. -/
def clearAnomalyMarksInLearningSet (agentNameId virtualhostNameId : RowId) : DatabaseM Unit :=
  writeApache fun t => { t with
    sessions := t.sessions.update fun r =>
      if r.id ∈ learningIds agentNameId virtualhostNameId t then
        { r.val with classification := .normal }
      else r.val }

/-- The order of the sort: the counts, then what it does with equal ones. -/
def queriesKey (tie : RowId ↪ ℤ) (q : RowId × ℤ) : ℤ ×ₗ ℤ := toLex (q.2, tie q.1)

/-- `DatabaseFunctions::MarkLearningSetWithIqrMethod`. -/
def markLearningSetWithIqrMethod (tie : RowId ↪ ℤ) (unset : Row SessionEntry)
    (agentNameId virtualhostNameId : RowId) : DatabaseM Unit := do
  let count ← getLearningSessionsCount agentNameId virtualhostNameId
  let learningSetIds ←
    getLearningSessionsIds agentNameId virtualhostNameId (count % 2 ^ 32) 0
  let idQueries ← learningSetIds.foldlM (fun idQueries id => do
    let session ← getOneSessionStatistic unset id
    pure (idQueries ++ [(session.id, session.val.requestsCount)])) []
  let idQueries := Select.orderBy (queriesKey tie) idQueries
  let q1Element := ⌈(idQueries.length * 1 : ℚ) / 4⌉ - 1
  let q3Element := ⌈(idQueries.length * 3 : ℚ) / 4⌉ - 1
  let q3 ← elementAt idQueries q3Element
  let q1 ← elementAt idQueries q1Element
  let iqr := q3.2 - q1.2
  let m : ℚ := q3.2 + 3 / 2 * iqr
  clearAnomalyMarksInLearningSet agentNameId virtualhostNameId
  idQueries.forM fun element =>
    if (element.2 : ℚ) > m then updateSessionStatisticClassification element.1 .anomaly
    else pure ()

/-! ### What is read -/

/-- The requests count of a stored session. -/
def requestsCountOf (t : Tables) (id : RowId) : ℤ :=
  ((t.sessions.get? id).map (·.requestsCount)).getD 0

/-- The ids that are read: their number is narrowed to 32 bits. -/
def readIds (ids : List RowId) : List RowId := ids.take (ids.length % 2 ^ 32)

lemma readIds_of_lt {ids : List RowId} (h : ids.length < 2 ^ 32) : readIds ids = ids := by
  rw [readIds, Nat.mod_eq_of_lt h, List.take_length]

/-- The ids with their counts. -/
def idQueriesOf (ids : List RowId) (t : Tables) : List (RowId × ℤ) :=
  ids.map fun id => (id, requestsCountOf t id)

/-- The sessions of the learning set are stored. -/
def LearnsStored (agentId virtualhostId : RowId) (t : Tables) : Prop :=
  ∀ id ∈ learningIds agentId virtualhostId t, (t.sessions.get? id).isSome

lemma exec_readQueries (unset : Row SessionEntry) (ids : List RowId) {c : Connection Store}
    (hstored : ∀ id ∈ ids, (c.data.apache.sessions.get? id).isSome) (queries : List (RowId × ℤ)) :
    (ids.foldlM (fun (idQueries : List (RowId × ℤ)) id => do
        let session ← getOneSessionStatistic unset id
        pure (idQueries ++ [(session.id, session.val.requestsCount)])) queries).exec c
      = (.ok (queries ++ idQueriesOf ids c.data.apache), c) := by
  have hfold : (ids.foldl (fun queries id => queries ++
      [((sessionRow unset c.data.apache id).id,
        (sessionRow unset c.data.apache id).val.requestsCount)]) queries)
      = queries ++ idQueriesOf ids c.data.apache := by
    induction ids generalizing queries with
    | nil => exact (List.append_nil _).symm
    | cons id ids ih =>
        rw [List.forall_mem_cons] at hstored
        obtain ⟨v, hv⟩ := Option.isSome_iff_exists.mp hstored.1
        rw [List.foldl_cons, ih hstored.2, List.append_assoc]
        simp [idQueriesOf, sessionRow, requestsCountOf, hv]
  rw [← hfold]
  refine Prog.exec_foldlM_of_reads (fun queries id => ?_) ids queries
  rw [getOneSessionStatistic, Prog.exec_bind_ok (exec_query c _)]
  rfl

/-! ### The sorted counts -/

section Sorted

variable {tie : RowId ↪ ℤ} {qs : List (RowId × ℤ)}

/-- The counts in their order, whatever becomes of equal ones. -/
lemma map_snd_orderBy (tie : RowId ↪ ℤ) (qs : List (RowId × ℤ)) :
    (Select.orderBy (queriesKey tie) qs).map Prod.snd = Select.orderBy id (qs.map Prod.snd) := by
  refine (Quartile.orderBy_id_eq ((Select.orderBy_perm _ _).map _) ?_).symm
  refine List.pairwise_map.mpr ((Select.orderBy_sorted (queriesKey tie) qs).imp fun h => ?_)
  exact Prod.Lex.monotone_fst _ _ h

/-- The element at the position of a quartile. -/
lemma elementAt_quartile (tie : RowId ↪ ℤ) {k : ℕ} (hk : 0 < k) (hk4 : k ≤ 4) (hne : qs ≠ []) :
    ∃ q, elementAt (Select.orderBy (queriesKey tie) qs)
        (⌈((Select.orderBy (queriesKey tie) qs).length * k : ℚ) / 4⌉ - 1) = pure q ∧
      q.2 = quartile k (qs.map Prod.snd) := by
  have hlen := (Select.orderBy_perm (queriesKey tie) qs).length_eq
  have hpos := List.length_pos_of_ne_nil hne
  have hrank := Quartile.rank_eq k qs.length
  have hle : k * qs.length ≤ 4 * qs.length := Nat.mul_le_mul_right _ hk4
  have hmul : qs.length ≤ k * qs.length := Nat.le_mul_of_pos_left _ hk
  have hceil : ⌈((Select.orderBy (queriesKey tie) qs).length * k : ℚ) / 4⌉
      = (Quartile.rank k qs.length : ℤ) := by
    rw [hlen, mul_comm, Quartile.rank, Int.natCast_ceil_eq_ceil (by positivity)]
  obtain ⟨q, hq⟩ : ∃ q, (Select.orderBy (queriesKey tie) qs)[Quartile.rank k qs.length - 1]?
      = some q :=
    ⟨_, List.getElem?_eq_getElem (by omega)⟩
  refine ⟨q, ?_, ?_⟩
  · rw [hceil, elementAt, if_neg (by omega),
      show ((Quartile.rank k qs.length : ℤ) - 1).toNat = Quartile.rank k qs.length - 1 by omega, hq]
  · rw [quartile, List.length_map, ← map_snd_orderBy tie, List.getD_eq_getElem?_getD,
      List.getElem?_map, hq]
    rfl

/-- The comparison with the threshold. -/
lemma gt_threshold_iff (q3 q1 x : ℤ) : (x : ℚ) > q3 + 3 / 2 * (q3 - q1 : ℤ) ↔
    2 * x > 2 * q3 + 3 * (q3 - q1) := by
  constructor
  · intro h
    have h2 : (2 * q3 + 3 * (q3 - q1) : ℚ) < 2 * x := by
      push_cast at h
      linarith
    exact_mod_cast h2
  · intro h
    have h2 : (2 * q3 + 3 * (q3 - q1) : ℚ) < 2 * x := by exact_mod_cast h
    push_cast
    linarith

end Sorted

/-! ### What is written -/

lemma applyMarks_append (ms ms' : List (RowId × Classification)) (s : Store) :
    applyMarks (ms ++ ms') s = applyMarks ms' (applyMarks ms s) := by
  induction ms generalizing s with
  | nil => rw [applyMarks_nil, List.nil_append]
  | cons m ms ih => rw [List.cons_append, applyMarks_cons, applyMarks_cons, ih]

lemma exec_clearAnomalyMarksInLearningSet (agentId virtualhostId : RowId) (c : Connection Store) :
    (clearAnomalyMarksInLearningSet agentId virtualhostId).exec c = (.ok (), { c with
      data := applyMarks ((learningIds agentId virtualhostId c.data.apache).map (·, .normal))
        c.data }) := by
  rw [clearAnomalyMarksInLearningSet, exec_writeApache]
  have hrows : (c.data.apache.sessions.update fun r =>
      if r.id ∈ learningIds agentId virtualhostId c.data.apache then
        { r.val with classification := .normal }
      else r.val).rows
      = (applyMarks ((learningIds agentId virtualhostId c.data.apache).map (·, .normal))
          c.data).apache.sessions.rows := by
    refine List.map_congr_left fun r _ => ?_
    simp only [markedAs, foldl_mark]
    split_ifs <;> rfl
  exact congrArg (fun sessions => (Except.ok (), { c with
    data := { c.data with apache := { c.data.apache with sessions } } })) (Table.ext_rows hrows)

/-- The loop marks those over the threshold. -/
lemma exec_markAnomalies (p : RowId × ℤ → Prop) [DecidablePred p] (qs : List (RowId × ℤ))
    (c : Connection Store) :
    (qs.forM fun q => if p q then updateSessionStatisticClassification q.1 .anomaly
        else pure () : DatabaseM Unit).exec c
      = (.ok (), { c with
          data := applyMarks (((qs.filter p).map Prod.fst).map (·, .anomaly)) c.data }) := by
  induction qs generalizing c with
  | nil =>
      rw [List.filter_nil, List.map_nil, List.map_nil, applyMarks_nil]
      rfl
  | cons q qs ih =>
      by_cases hq : p q
      · have hfirst : (if p q then updateSessionStatisticClassification q.1 .anomaly
            else pure ()).exec c = (.ok (), { c with
              data := { c.data with
                apache := setClassification q.1 .anomaly c.data.apache } }) := by
          rw [if_pos hq]
          exact exec_writeApache _ c
        refine (Prog.exec_bind_ok hfirst).trans ((ih _).trans ?_)
        rw [List.filter_cons_of_pos (by simpa using hq), List.map_cons, List.map_cons,
          applyMarks_cons]
      · have hfirst : (if p q then updateSessionStatisticClassification q.1 .anomaly
            else pure ()).exec c = (.ok (), c) := by
          rw [if_neg hq]
          rfl
        refine (Prog.exec_bind_ok hfirst).trans ((ih c).trans ?_)
        rw [List.filter_cons_of_neg (by simpa using hq)]

/-- The ids of the outliers, in the order of their counts. -/
def outlierIds (tie : RowId ↪ ℤ) (qs : List (RowId × ℤ)) : List RowId :=
  ((Select.orderBy (queriesKey tie) qs).filter fun q => IsOutlier (qs.map Prod.snd) q.2).map
    Prod.fst

lemma mem_outlierIds {tie : RowId ↪ ℤ} {ids : List RowId} {t : Tables} {id : RowId} :
    id ∈ outlierIds tie (idQueriesOf ids t) ↔
      id ∈ ids ∧ IsOutlier (ids.map (requestsCountOf t)) (requestsCountOf t id) := by
  have hcounts : (idQueriesOf ids t).map Prod.snd = ids.map (requestsCountOf t) := by
    rw [idQueriesOf, List.map_map]
    rfl
  simp only [outlierIds, hcounts, List.mem_map, List.mem_filter, Select.mem_orderBy,
    decide_eq_true_eq]
  constructor
  · rintro ⟨q, ⟨hq, houtlier⟩, rfl⟩
    obtain ⟨id, hid, rfl⟩ := List.mem_map.mp hq
    exact ⟨hid, houtlier⟩
  · rintro ⟨hid, houtlier⟩
    exact ⟨(id, requestsCountOf t id), ⟨List.mem_map_of_mem hid, houtlier⟩, rfl⟩

section Run

variable {tie : RowId ↪ ℤ} {unset : Row SessionEntry} {agentId virtualhostId : RowId}
  {c : Connection Store}

/-- The ids read are among those of the learning set. -/
lemma mem_of_mem_readIds {ids : List RowId} {id : RowId} (h : id ∈ readIds ids) : id ∈ ids :=
  List.mem_of_mem_take h

/-- **What the function does** if it reads any id: the learning set becomes normal, and
then the outliers among the ids read become anomalies. -/
lemma exec_markLearningSetWithIqrMethod (tie : RowId ↪ ℤ) (unset : Row SessionEntry)
    (hstored : LearnsStored agentId virtualhostId c.data.apache)
    (hread : readIds (learningIds agentId virtualhostId c.data.apache) ≠ []) :
    (markLearningSetWithIqrMethod tie unset agentId virtualhostId).exec c = (.ok (), { c with
      data := applyMarks (marks (learningIds agentId virtualhostId c.data.apache)
        (outlierIds tie (idQueriesOf
          (readIds (learningIds agentId virtualhostId c.data.apache)) c.data.apache)))
            c.data }) := by
  set ids := learningIds agentId virtualhostId c.data.apache with hids
  set qs := idQueriesOf (readIds ids) c.data.apache with hqs
  have hne : qs ≠ [] := by simpa [hqs, idQueriesOf] using hread
  have hqueries := exec_readQueries unset (readIds ids) (c := c)
    (fun id hid => hstored id (mem_of_mem_readIds hid)) []
  rw [List.nil_append] at hqueries
  obtain ⟨q1, hq1, hquartile1⟩ := elementAt_quartile tie (k := 1) (by omega) (by omega) hne
  obtain ⟨q3, hq3, hquartile3⟩ := elementAt_quartile tie (k := 3) (by omega) (by omega) hne
  rw [Nat.cast_one] at hq1
  rw [Nat.cast_ofNat] at hq3
  rw [markLearningSetWithIqrMethod, getLearningSessionsCount, Prog.exec_bind_ok (exec_query c _),
    getLearningSessionsIds, Prog.exec_bind_ok (exec_query c _)]
  refine (Prog.exec_bind_ok hqueries).trans ?_
  simp only [← hqs, hq1, hq3, pure_bind]
  refine (Prog.exec_bind_ok (exec_clearAnomalyMarksInLearningSet agentId virtualhostId c)).trans ?_
  refine (exec_markAnomalies (fun q => (q.2 : ℚ) > q3.2 + 3 / 2 * (q3.2 - q1.2 : ℤ)) _ _).trans ?_
  have houtliers : ((Select.orderBy (queriesKey tie) qs).filter fun q =>
      (q.2 : ℚ) > q3.2 + 3 / 2 * (q3.2 - q1.2 : ℤ)).map Prod.fst = outlierIds tie qs := by
    refine congrArg (List.map Prod.fst) (List.filter_congr fun q _ => ?_)
    rw [decide_eq_decide, gt_threshold_iff, hquartile1, hquartile3]
    rfl
  rw [houtliers, marks, applyMarks_append]

/-- If it reads no id, it throws before it has written anything. -/
lemma exec_markLearningSetWithIqrMethod_nil
    (hread : readIds (learningIds agentId virtualhostId c.data.apache) = []) :
    (markLearningSetWithIqrMethod tie unset agentId virtualhostId).exec c
      = (.error .outOfRange, c) := by
  have hqueries := exec_readQueries unset
    (readIds (learningIds agentId virtualhostId c.data.apache)) (c := c) (by simp [hread]) []
  rw [markLearningSetWithIqrMethod, getLearningSessionsCount, Prog.exec_bind_ok (exec_query c _),
    getLearningSessionsIds, Prog.exec_bind_ok (exec_query c _)]
  refine (Prog.exec_bind_ok hqueries).trans ?_
  have hq3 : elementAt (Select.orderBy (queriesKey tie) [])
      (⌈((Select.orderBy (queriesKey tie) []).length * 3 : ℚ) / 4⌉ - 1) = throw .outOfRange := by
    simp [elementAt, Select.orderBy]
  simp only [hread, idQueriesOf, List.map_nil, List.append_nil, hq3]
  rfl

end Run

/-! ### What is promised -/

/-- The same learning set, with its ids in any order and its sessions classified in
any way. -/
structure SameLearningSet (agentId virtualhostId : RowId) (t t' : Tables) : Prop where
  ids : (learningIds agentId virtualhostId t').Perm (learningIds agentId virtualhostId t)
  counts : ∀ id ∈ learningIds agentId virtualhostId t,
    (t'.sessions.get? id).map (·.requestsCount) = (t.sessions.get? id).map (·.requestsCount)

/-- The outliers of the learning set `ids` are anomalies, its other sessions are normal,
and nothing else has changed. At least three quarters of the set are normal. -/
structure IqrMarked (count : RowId → ℤ) (ids : List RowId) (s s' : Store) : Prop where
  sessions : s'.apache.sessions.rows = s.apache.sessions.rows.map fun r =>
    ⟨r.id, { r.val with
      classification :=
        if r.id ∈ ids then
          if IsOutlier (ids.map count) (count r.id) then .anomaly else .normal
        else r.val.classification }⟩
  others : s' = { s with apache := { s.apache with sessions := s'.apache.sessions } }
  normal : ⌈(3 * ids.length : ℚ) / 4⌉ ≤ ids.countP fun id =>
    (s'.apache.sessions.get? id).map (·.classification) = some .normal

/-- From every state with this learning set the function returns and marks the outliers
of the set, and a second call changes nothing. -/
def MarksOutliers (unset : Row SessionEntry) (agentId virtualhostId : RowId)
    (t : Tables) : Prop :=
  ∀ (tie : RowId ↪ ℤ) (c : Connection Store),
    SameLearningSet agentId virtualhostId t c.data.apache →
    ∃ c', (markLearningSetWithIqrMethod tie unset agentId virtualhostId).exec c = (.ok (), c') ∧
      IqrMarked (requestsCountOf t) (learningIds agentId virtualhostId t) c.data c'.data ∧
      ∀ tie', (markLearningSetWithIqrMethod tie' unset agentId virtualhostId).exec c' = (.ok (), c')

/-- In whatever order the ids are, those that are read are not none and have the
outliers of all of them. -/
def Representative (count : RowId → ℤ) (ids : List RowId) : Prop :=
  ∀ ids', ids'.Perm ids → readIds ids' ≠ [] ∧ ∀ id ∈ ids,
    (id ∈ readIds ids' ∧ IsOutlier ((readIds ids').map count) (count id)) ↔
      IsOutlier (ids.map count) (count id)

/-- Below `2 ^ 32` ids it is enough that there is one. -/
lemma representative_of_lt {count : RowId → ℤ} {ids : List RowId} (h : ids.length < 2 ^ 32) :
    Representative count ids ↔ ids ≠ [] := by
  constructor
  · intro hread hnil
    exact (hread ids (.refl ids)).1 (by rw [hnil]; rfl)
  · intro hne ids' hperm
    rw [readIds_of_lt (hperm.length_eq ▸ h)]
    refine ⟨fun hnil => hne (List.nil_perm.mp (hnil ▸ hperm)), fun id hid => ?_⟩
    rw [Quartile.isOutlier_perm (hperm.map count)]
    exact and_iff_right (hperm.mem_iff.mpr hid)

/-! ### When it is kept -/

section Marked

variable {agentId virtualhostId : RowId} {t : Tables} {s : Store}
  {ms : List (RowId × Classification)}

lemma get?_applyMarks (ms : List (RowId × Classification)) (s : Store) (id : RowId) :
    (applyMarks ms s).apache.sessions.get? id = (s.apache.sessions.get? id).map fun v =>
      { v with classification := markedAs ms ⟨id, v⟩ } := Table.get?_update _ _ _

/-- No count changes. -/
lemma requestsCountOf_applyMarks (ms : List (RowId × Classification)) (s : Store) (id : RowId) :
    requestsCountOf (applyMarks ms s).apache id = requestsCountOf s.apache id := by
  rw [requestsCountOf, requestsCountOf, get?_applyMarks, Option.map_map]
  rfl

lemma SameLearningSet.count_eq (h : SameLearningSet agentId virtualhostId t s.apache) {id : RowId}
    (hid : id ∈ learningIds agentId virtualhostId t) :
    requestsCountOf s.apache id = requestsCountOf t id := by
  rw [requestsCountOf, requestsCountOf, h.counts id hid]

lemma SameLearningSet.stored (h : SameLearningSet agentId virtualhostId t s.apache)
    (hstored : LearnsStored agentId virtualhostId t) :
    LearnsStored agentId virtualhostId s.apache := by
  intro id hid
  have hid := h.ids.subset hid
  rw [← Option.isSome_map (f := SessionEntry.requestsCount), h.counts id hid, Option.isSome_map]
  exact hstored id hid

lemma anomaly_or_normal_eq_iff {p q : Prop} [Decidable p] [Decidable q] :
    (if p then Classification.anomaly else .normal) = (if q then .anomaly else .normal) ↔
      (p ↔ q) := by
  by_cases hp : p <;> by_cases hq : q <;> simp [hp, hq]

/-- At least three quarters of a set are normal if no session but its outliers is
marked an anomaly. -/
lemma le_countP_normal {ids : List RowId} (count : RowId → ℤ)
    (h : ∀ id ∈ ids, ¬IsOutlier (ids.map count) (count id) →
      (s.apache.sessions.get? id).map (·.classification) = some .normal) :
    ⌈(3 * ids.length : ℚ) / 4⌉ ≤ ids.countP fun id =>
      (s.apache.sessions.get? id).map (·.classification) = some .normal := by
  have hquarters := Quartile.le_countP_not_isOutlier (ids.map count)
  rw [List.length_map, List.countP_map] at hquarters
  have hceil : ⌈(3 * ids.length : ℚ) / 4⌉ = (Quartile.rank 3 ids.length : ℤ) := by
    rw [Quartile.rank, Int.natCast_ceil_eq_ceil (by positivity)]
    rfl
  rw [hceil]
  refine Int.ofNat_le.mpr (hquarters.trans (List.countP_mono_left fun id hid hno => ?_))
  exact decide_eq_true (h id hid (of_decide_eq_true hno))

/-- The marks are those of the set exactly if the ids read have its outliers. -/
lemma iqrMarked_iff (hstored : LearnsStored agentId virtualhostId t)
    (hsame : SameLearningSet agentId virtualhostId t s.apache) (tie : RowId ↪ ℤ) :
    IqrMarked (requestsCountOf t) (learningIds agentId virtualhostId t) s
        (applyMarks (marks (learningIds agentId virtualhostId s.apache) (outlierIds tie
          (idQueriesOf (readIds (learningIds agentId virtualhostId s.apache)) s.apache))) s) ↔
      ∀ id ∈ learningIds agentId virtualhostId t,
        (id ∈ readIds (learningIds agentId virtualhostId s.apache) ∧
          IsOutlier ((readIds (learningIds agentId virtualhostId s.apache)).map (requestsCountOf t))
            (requestsCountOf t id)) ↔
        IsOutlier ((learningIds agentId virtualhostId t).map (requestsCountOf t))
          (requestsCountOf t id) := by
  set ids := learningIds agentId virtualhostId t with hids
  set ids' := learningIds agentId virtualhostId s.apache with hids'
  set anomalies := outlierIds tie (idQueriesOf (readIds ids') s.apache) with hanomalies
  have hcount : (readIds ids').map (requestsCountOf s.apache)
      = (readIds ids').map (requestsCountOf t) :=
    List.map_congr_left fun id hid => hsame.count_eq (hsame.ids.subset (mem_of_mem_readIds hid))
  have hmem : ∀ id ∈ ids, id ∈ anomalies ↔ id ∈ readIds ids' ∧
      IsOutlier ((readIds ids').map (requestsCountOf t)) (requestsCountOf t id) := by
    intro id hid
    rw [hanomalies, mem_outlierIds, hcount, hsame.count_eq hid]
  have hmarked : ∀ r : Row SessionEntry, r.id ∈ ids → markedAs (marks ids' anomalies) r
      = if r.id ∈ anomalies then .anomaly else .normal := by
    intro r hr
    rw [markedAs_marks, if_pos (hsame.ids.mem_iff.mpr hr)]
  constructor
  · intro h id hid
    obtain ⟨v, hv⟩ := Option.isSome_iff_exists.mp
      (hsame.stored hstored id (hsame.ids.mem_iff.mpr hid))
    have hrow := List.map_inj_left.mp h.sessions ⟨id, v⟩ (Table.get?_eq_some.mp hv)
    have hclassification := congrArg (fun r : Row SessionEntry => r.val.classification) hrow
    simp only [hmarked ⟨id, v⟩ hid, if_pos hid] at hclassification
    exact (hmem id hid).symm.trans (anomaly_or_normal_eq_iff.mp hclassification)
  · intro h
    have hverdict : ∀ id ∈ ids, id ∈ anomalies ↔ IsOutlier (ids.map (requestsCountOf t))
        (requestsCountOf t id) := fun id hid => (hmem id hid).trans (h id hid)
    refine ⟨List.map_congr_left fun r _ => ?_, rfl, ?_⟩
    · by_cases hr : r.id ∈ ids
      · simp only [hmarked r hr, if_pos hr, hverdict r.id hr]
      · have hno : r.id ∉ anomalies := fun hanomaly =>
          hr (hsame.ids.subset (mem_of_mem_readIds (mem_outlierIds.mp hanomaly).1))
        have hno' : r.id ∉ ids' := fun hid => hr (hsame.ids.subset hid)
        simp only [markedAs_marks, if_neg hno, if_neg hr, if_neg hno']
    · refine le_countP_normal (requestsCountOf t) fun id hid hno => ?_
      obtain ⟨v, hv⟩ :=
        Option.isSome_iff_exists.mp (hsame.stored hstored id (hsame.ids.mem_iff.mpr hid))
      have hanomaly : id ∉ anomalies := (hverdict id hid).not.mpr hno
      rw [get?_applyMarks, hv, Option.map_map, Option.map_some]
      exact congrArg some ((hmarked ⟨id, v⟩ hid).trans (if_neg hanomaly))

/-- Marking again changes nothing. -/
lemma applyMarks_marks_again {all anomalies anomalies' : List RowId}
    (hanomalies : ∀ id, id ∈ anomalies' ↔ id ∈ anomalies) (s : Store) :
    applyMarks (marks all anomalies') (applyMarks (marks all anomalies) s)
      = applyMarks (marks all anomalies) s := by
  have hsame := (marksNothing_iff (marks all anomalies') (applyMarks (marks all anomalies) s)).mp
    fun r hr => by
      obtain ⟨r₀, -, rfl⟩ := List.mem_map.mp hr
      simp only [markedAs_marks, hanomalies]
      split_ifs <;> rfl
  exact congrArg (fun sessions => { s with apache := { s.apache with sessions } }) hsame

/-- A learning set in another order. -/
def relearn (agentId virtualhostId : RowId) (ids : List RowId) (t : Tables) : Tables :=
  { t with
    learningSessions := (ids.map fun id => ⟨agentId, virtualhostId, id⟩).foldl
      UniqueTable.insertOrIgnore .empty }

lemma learningIds_relearn {ids : List RowId} (hnodup : ids.Nodup) :
    learningIds agentId virtualhostId (relearn agentId virtualhostId ids t) = ids := by
  have hvals : (relearn agentId virtualhostId ids t).learningSessions.vals
      = ids.map fun id => ⟨agentId, virtualhostId, id⟩ := by
    refine UniqueTable.vals_foldl_insertOrIgnore (t := .empty) (fun _ _ => List.not_mem_nil) ?_
    exact hnodup.map fun id id' h => congrArg LearningSession.sessionId h
  calc learningIds agentId virtualhostId (relearn agentId virtualhostId ids t)
      = ((relearn agentId virtualhostId ids t).learningSessions.vals.filter fun v =>
          v.agentNameId = agentId && v.virtualhostNameId = virtualhostId).map (·.sessionId) := by
        rw [Table.vals, List.filter_map, List.map_map]
        rfl
    _ = ids := by
        rw [hvals, List.filter_eq_self.mpr (by simp), List.map_map]
        exact List.map_id' ids

end Marked

/-- **When the outliers of a learning set are marked**: what is read of it is not empty
and has the outliers of the whole, in whatever order its ids are. -/
theorem marksOutliers_iff (unset : Row SessionEntry) {agentId virtualhostId : RowId} {t : Tables}
    (hstored : LearnsStored agentId virtualhostId t) :
    MarksOutliers unset agentId virtualhostId t ↔
      Representative (requestsCountOf t) (learningIds agentId virtualhostId t) := by
  constructor
  · intro h ids hperm
    have hlearned : learningIds agentId virtualhostId (relearn agentId virtualhostId ids t) = ids :=
      learningIds_relearn (hperm.nodup_iff.mpr (nodup_learningIds agentId virtualhostId t))
    set c : Connection Store :=
      ⟨{ Store.empty with apache := relearn agentId virtualhostId ids t }, none⟩ with hc
    have hsame : SameLearningSet agentId virtualhostId t c.data.apache :=
      ⟨by rw [hc, hlearned]; exact hperm, fun _ _ => rfl⟩
    obtain ⟨c', hrun, hmarked, -⟩ := h (.refl ℤ) c hsame
    have hread : readIds (learningIds agentId virtualhostId c.data.apache) ≠ [] := by
      intro hnil
      rw [exec_markLearningSetWithIqrMethod_nil hnil] at hrun
      cases congrArg Prod.fst hrun
    have hrun' := exec_markLearningSetWithIqrMethod (.refl ℤ) unset
      (hsame.stored hstored) hread
    obtain ⟨-, rfl⟩ := Prod.mk.inj (hrun.symm.trans hrun')
    have hagree := (iqrMarked_iff hstored hsame (.refl ℤ)).mp hmarked
    rw [hc, hlearned] at hread hagree
    exact ⟨hread, hagree⟩
  · intro h tie c hsame
    obtain ⟨hread, hagree⟩ := h _ hsame.ids
    have hrun := exec_markLearningSetWithIqrMethod tie unset
      (hsame.stored hstored) hread
    refine ⟨_, hrun, (iqrMarked_iff hstored hsame tie).mpr hagree, fun tie' => ?_⟩
    set ids := learningIds agentId virtualhostId c.data.apache
    set s' := applyMarks (marks ids (outlierIds tie (idQueriesOf (readIds ids) c.data.apache)))
      c.data
    have hqueries : idQueriesOf (readIds ids) s'.apache = idQueriesOf (readIds ids) c.data.apache :=
      List.map_congr_left fun id _ => by rw [requestsCountOf_applyMarks]
    have hstored' : LearnsStored agentId virtualhostId s'.apache := by
      intro id hid
      rw [get?_applyMarks, Option.isSome_map]
      exact hsame.stored hstored id hid
    have hagain := exec_markLearningSetWithIqrMethod tie' unset
      (c := { c with data := s' }) hstored' hread
    refine hagain.trans (congrArg (fun s => (Except.ok (), { c with data := s })) ?_)
    refine applyMarks_marks_again (fun id => ?_) c.data
    show id ∈ outlierIds tie' (idQueriesOf (readIds ids) s'.apache) ↔ _
    rw [hqueries, mem_outlierIds, mem_outlierIds]

theorem marksOutliers_iff_crowd : MarksOutliers newcomer 1 1 (crowd 3).apache :=
  (marksOutliers_iff newcomer (by simp only [LearnsStored]; decide)).mpr
    ((representative_of_lt (by decide)).mpr (by decide))

/-- An empty learning set: the position of its upper quartile is none. -/
theorem not_marksOutliers_empty : ¬MarksOutliers newcomer 1 1 Tables.empty := by
  intro h
  obtain ⟨c', hrun, -⟩ := h (.refl ℤ) ⟨Store.empty, none⟩ ⟨.refl _, fun _ _ => rfl⟩
  rw [exec_markLearningSetWithIqrMethod_nil rfl] at hrun
  cases congrArg Prod.fst hrun

end Slas.Apache
