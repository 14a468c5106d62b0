import Mathlib
import Slas.Apache.Knn

/-!
What a session is classified by.

* `learningSet`: the learning sessions that have been classified;
* `majority`, `nearestThree`: the vote there should be;
* `getSessionClassification_neighboursTable`: the vote there is, among the first
  hundred learning sessions only;
* `whole_learning_set_iff`: the classification written is the majority among the
  three nearest of the whole learning set exactly if the learning sessions after
  the first hundred do not change that majority.
-/

namespace Slas.Apache

open Database

/-- The sessions of some ids that have been classified. -/
def classified (ids : List RowId) (t : Tables) : List (Row SessionEntry) :=
  (ids.filterMap fun id => (t.sessions.get? id).map fun v => (⟨id, v⟩ : Row SessionEntry)).filter
    (·.val.classification ≠ .unknown)

/-- The learning sessions of an agent and a virtualhost that have been classified. -/
def learningSet (agentId virtualhostId : RowId) (t : Tables) : List (Row SessionEntry) :=
  classified (learningIds agentId virtualhostId t) t

/-- Those among the first hundred rows of the learning set. -/
def firstHundred (agentId virtualhostId : RowId) (t : Tables) : List (Row SessionEntry) :=
  classified ((learningIds agentId virtualhostId t).take 100) t

/-- The three nearest to a session, fewer if there are no three. -/
def nearestThree (session : SessionEntry) (rs : List (Row SessionEntry)) :
    List (Row SessionEntry) :=
  Nearest.nearest (fun r => squaredDistance r.val session) 3 rs

/-- An anomaly if strictly more than half are, and unknown if there are none. -/
def majority (rs : List (Row SessionEntry)) : Classification :=
  if rs = [] then .unknown
  else if rs.length < 2 * rs.countP (·.val.classification = .anomaly) then .anomaly
  else .normal

/-! ### The table of neighbours -/

/-- A learning session as a neighbour. -/
def neighbourOf (session : SessionEntry) (r : Row SessionEntry) : Neighbour :=
  ⟨squaredDistance r.val session, r.val.classification, r.id⟩

/-- `Add` is that of a bounded table, as long as an id stands for one neighbour. -/
lemma nearestNeighbours_add {table : NearestNeighboursTable} {r : Row SessionEntry}
    (hlength : table.nearestNeighbours.length ≤ 3)
    (hid : ∀ n ∈ table.nearestNeighbours, n.sessionId = r.id →
      n = neighbourOf table.originalSession r) :
    table.add r = ⟨table.originalSession, Nearest.add Neighbour.distance 3
      table.nearestNeighbours (neighbourOf table.originalSession r)⟩ := by
  have hany : (table.nearestNeighbours.any fun n => n.sessionId = r.id) = true ↔
      neighbourOf table.originalSession r ∈ table.nearestNeighbours := by
    rw [List.any_eq_true]
    constructor
    · rintro ⟨n, hn, hnid⟩
      exact hid n hn (of_decide_eq_true hnid) ▸ hn
    · exact fun hmem => ⟨_, hmem, decide_eq_true rfl⟩
  rw [NearestNeighboursTable.add, Nearest.add]
  by_cases hmem : neighbourOf table.originalSession r ∈ table.nearestNeighbours
  · rw [if_pos (hany.mpr hmem), if_pos hmem]
  · rw [if_neg fun h => hmem (hany.mp h), if_neg hmem]
    set sorted := Select.orderBy Neighbour.distance
      (table.nearestNeighbours ++ [neighbourOf table.originalSession r]) with hsorted
    have hlen : sorted.length = table.nearestNeighbours.length + 1 := by
      rw [hsorted, (Select.orderBy_perm _ _).length_eq, List.length_append, List.length_singleton]
    show NearestNeighboursTable.mk table.originalSession
      (if 3 < sorted.length then sorted.dropLast else sorted) = _
    congr 1
    split_ifs with hfull
    · rw [List.dropLast_eq_take]
      congr 1
      omega
    · rw [List.take_of_length_le (not_lt.mp hfull)]

/-- The table after some learning sessions. -/
lemma foldl_add (session : SessionEntry) {rs : List (Row SessionEntry)}
    (hid : ∀ r ∈ rs, ∀ r' ∈ rs, r.id = r'.id → r = r') :
    rs.foldl NearestNeighboursTable.add (.setSession session)
      = ⟨session, (rs.map (neighbourOf session)).foldl (Nearest.add Neighbour.distance 3) []⟩ := by
  suffices hinv : rs.foldl NearestNeighboursTable.add (.setSession session)
      = ⟨session, (rs.map (neighbourOf session)).foldl (Nearest.add Neighbour.distance 3) []⟩ ∧
      ((rs.map (neighbourOf session)).foldl (Nearest.add Neighbour.distance 3) []).length ≤ 3 ∧
      ∀ n ∈ (rs.map (neighbourOf session)).foldl (Nearest.add Neighbour.distance 3) [],
        ∃ r ∈ rs, n = neighbourOf session r from hinv.1
  induction rs using List.reverseRecOn with
  | nil => exact ⟨rfl, Nat.zero_le _, fun n hn => absurd hn List.not_mem_nil⟩
  | append_singleton rs r ih =>
      obtain ⟨hfold, hlength, hmem⟩ := ih fun a ha b hb =>
        hid a (List.mem_append_left _ ha) b (List.mem_append_left _ hb)
      simp only [List.foldl_append, List.map_append, List.map_cons, List.map_nil, List.foldl_cons,
        List.foldl_nil]
      refine ⟨?_, Nearest.length_add_le hlength, fun n hn => ?_⟩
      · rw [hfold]
        refine nearestNeighbours_add hlength fun n hn hnid => ?_
        obtain ⟨r', hr', rfl⟩ := hmem n hn
        rw [hid r' (List.mem_append_left _ hr') r (by simp) hnid]
      · rcases Nearest.mem_of_mem_add hn with hn | rfl
        · obtain ⟨r', hr', rfl⟩ := hmem n hn
          exact ⟨r', List.mem_append_left _ hr', rfl⟩
        · exact ⟨r, by simp, rfl⟩

/-! ### The vote -/

/-- The votes `GetSessionClassification` counts. -/
lemma foldl_votes (ns : List Neighbour) (i : ℤ) :
    ns.foldl (fun i n => i - 1 + 2 * if n.classification = .anomaly then 1 else 0) i
      = i + 2 * ns.countP (·.classification = .anomaly) - ns.length := by
  induction ns generalizing i with
  | nil => simp
  | cons n ns ih =>
      rw [List.foldl_cons, ih, List.countP_cons, List.length_cons]
      by_cases hanomaly : n.classification = .anomaly
      · simp only [hanomaly, if_true, decide_true]
        push_cast
        ring
      · simp only [hanomaly, if_false, decide_false, Bool.false_eq_true]
        push_cast
        ring

/-- `GetSessionClassification` is the majority vote. -/
lemma getSessionClassification_eq_majority (session : SessionEntry) (rs : List (Row SessionEntry)) :
    getSessionClassification ⟨session, rs.map (neighbourOf session)⟩ = majority rs := by
  have hcount : (rs.map (neighbourOf session)).countP (·.classification = .anomaly)
      = rs.countP (·.val.classification = .anomaly) := by
    rw [List.countP_map]
    rfl
  simp only [getSessionClassification, majority, foldl_votes, hcount, List.length_map,
    List.length_pos_iff]
  by_cases hnil : rs = []
  · rw [if_pos hnil, if_neg (not_not.mpr hnil)]
  · rw [if_neg hnil, if_pos hnil]
    congr 1
    exact propext (by omega)

/-! ### The learning sessions compared -/

lemma mem_classified {ids : List RowId} {t : Tables} {r : Row SessionEntry} :
    r ∈ classified ids t ↔
      r.id ∈ ids ∧ t.sessions.get? r.id = some r.val ∧ r.val.classification ≠ .unknown := by
  simp only [classified, List.mem_filter, List.mem_filterMap, Option.map_eq_some_iff,
    decide_eq_true_eq]
  constructor
  · rintro ⟨⟨id, hid, v, hv, rfl⟩, hclassified⟩
    exact ⟨hid, hv, hclassified⟩
  · rintro ⟨hid, hv, hclassified⟩
    exact ⟨⟨r.id, hid, r.val, hv, rfl⟩, hclassified⟩

lemma nodup_classified {ids : List RowId} (hids : ids.Nodup) (t : Tables) :
    (classified ids t).Nodup := by
  refine (hids.filterMap fun id id' r hr hr' => ?_).filter _
  simp only [Option.mem_def, Option.map_eq_some_iff] at hr hr'
  obtain ⟨v, -, rfl⟩ := hr
  obtain ⟨v', -, heq⟩ := hr'
  exact (Row.mk.inj heq).1.symm

/-- Learning sessions that have a row are compared if they have been classified. -/
lemma foldl_compareSession (unset : Row SessionEntry) {t : Tables} {ids : List RowId}
    (hrows : ∀ id ∈ ids, (t.sessions.get? id).isSome) (table : NearestNeighboursTable) :
    ids.foldl (compareSession unset t) table
      = (classified ids t).foldl NearestNeighboursTable.add table := by
  induction ids generalizing table with
  | nil => rfl
  | cons id ids ih =>
      obtain ⟨v, hv⟩ := Option.isSome_iff_exists.mp (hrows id List.mem_cons_self)
      rw [List.foldl_cons, ih fun id' hid' => hrows id' (List.mem_cons_of_mem id hid'),
        classified, classified, List.filterMap_cons]
      simp only [compareSession, sessionRow, hv, Option.map_some, Option.getD_some,
        List.filter_cons, ne_eq]
      by_cases hunknown : v.classification = .unknown
      · simp [hunknown]
      · simp [hunknown]

/-- Different learning sessions are at different distances. -/
def DistinctDistances (session : SessionEntry) (rs : List (Row SessionEntry)) : Prop :=
  (rs.map fun r => squaredDistance r.val session).Nodup

/-- **The vote there is**: among the three nearest of the first hundred rows of
the learning set. -/
lemma getSessionClassification_neighboursTable (unset : Row SessionEntry)
    {agentId virtualhostId : RowId} {t : Tables} {session : SessionEntry}
    (hrows : ∀ id ∈ learningIds agentId virtualhostId t, (t.sessions.get? id).isSome)
    (hdistinct : DistinctDistances session (learningSet agentId virtualhostId t)) :
    getSessionClassification (neighboursTable unset agentId virtualhostId t session)
      = majority (nearestThree session (firstHundred agentId virtualhostId t)) := by
  set ids := learningIds agentId virtualhostId t with hids
  set compared := classified (comparedIds ids) t with hcompared
  have hsub : ∀ id ∈ comparedIds ids, id ∈ ids := fun id hid =>
    List.mem_of_mem_take ((mem_flatMap_parts_zero (by decide) ids id).mp hid)
  have hmem : ∀ r, r ∈ firstHundred agentId virtualhostId t ↔ r ∈ compared := fun r => by
    rw [firstHundred, mem_classified, hcompared, mem_classified, comparedIds,
      mem_flatMap_parts_zero (by decide)]
  have hdistance : ∀ r ∈ compared, ∀ r' ∈ compared,
      squaredDistance r.val session = squaredDistance r'.val session → r = r' := by
    have hset : ∀ r ∈ compared, r ∈ learningSet agentId virtualhostId t := fun r hr => by
      obtain ⟨hid, hr⟩ := mem_classified.mp hr
      exact mem_classified.mpr ⟨hsub _ hid, hr⟩
    exact fun r hr r' hr' => List.inj_on_of_nodup_map hdistinct (hset r hr) (hset r' hr')
  have hadded : (compared.map (neighbourOf session)).foldl (Nearest.add Neighbour.distance 3) []
      = Nearest.nearest Neighbour.distance 3
          ((firstHundred agentId virtualhostId t).map (neighbourOf session)) := by
    refine Nearest.foldl_add_eq_nearest ?_ ?_ fun n => ?_
    · rintro n hn n' hn' heq
      obtain ⟨r, hr, rfl⟩ := List.mem_map.mp hn
      obtain ⟨r', hr', rfl⟩ := List.mem_map.mp hn'
      rw [hdistance r hr r' hr' heq]
    · have hnodup := nodup_classified
        ((nodup_learningIds agentId virtualhostId t).take (i := 100)) t
      refine List.Nodup.map_on (fun r hr r' hr' heq => ?_) hnodup
      exact hdistance r ((hmem r).mp hr) r' ((hmem r').mp hr') (Neighbour.mk.inj heq).1
    · simp only [List.mem_map, hmem]
  have hid : ∀ r ∈ compared, ∀ r' ∈ compared, r.id = r'.id → r = r' := by
    rintro ⟨id, v⟩ hr ⟨id', v'⟩ hr' heq
    obtain rfl : id = id' := heq
    have hv : v = v' :=
      Option.some.inj ((mem_classified.mp hr).2.1.symm.trans (mem_classified.mp hr').2.1)
    rw [hv]
  rw [neighboursTable, foldl_compareSession unset fun id h => hrows id (hsub id h),
    foldl_add session hid, hadded, ← getSessionClassification_eq_majority session, nearestThree,
    Nearest.nearest, Nearest.nearest, Select.orderBy_map, List.map_take]
  rfl

/-! ### What the rounds leave alone -/

variable (unset : Row SessionEntry) {agentId virtualhostId : RowId}

/-- The classification of a session is the one its round writes. -/
lemma classification_foldl_classify {agentName virtualhostName : Text} {limit : ℕ} {t : Tables}
    {pre post : List (Row SessionEntry)} {s : Row SessionEntry}
    (hpart : sessionsPart agentName virtualhostName limit t = pre ++ s :: post) :
    (((pre ++ s :: post).foldl (classify unset agentId virtualhostId) t).sessions.get? s.id).map
        (·.classification)
      = some (getSessionClassification (neighboursTable unset agentId virtualhostId
          (pre.foldl (classify unset agentId virtualhostId) t) s.val)) := by
  have hsub : (pre ++ s :: post).Sublist t.sessions.rows :=
    hpart ▸ (List.take_sublist _ _).trans List.filter_sublist
  have hnodup : ((pre ++ s :: post).map (·.id)).Nodup := t.sessions.nodup_ids.sublist (hsub.map _)
  rw [List.map_append, List.map_cons, List.nodup_append] at hnodup
  have hpost : s.id ∉ post.map (·.id) := (List.nodup_cons.mp hnodup.2.1).1
  have hrow : t.sessions.get? s.id = some s.val := Table.get?_eq_some.mpr (hsub.subset (by simp))
  rw [List.foldl_append, List.foldl_cons, get?_foldl_classify unset hpost, classify,
    setClassification, Table.get?_update]
  have hrow' : ((pre.foldl (classify unset agentId virtualhostId) t).sessions.get?
      s.id).isSome := by
    rw [(foldl_classify unset pre t).2, hrow]
    rfl
  obtain ⟨v, hv⟩ := Option.isSome_iff_exists.mp hrow'
  simp [hv]

/-! ### The whole learning set -/

/-- The tables when a session is handled, after the sessions before it. -/
def whenHandled (agentId virtualhostId : RowId) (o : KnnAnalyzerObject)
    (pre : List (Row SessionEntry)) (c : Connection Store) : Tables :=
  ((pre.foldlM (analyzeSession unset agentId virtualhostId
      (learningIds agentId virtualhostId c.data.apache).length)
    { o with agentId := agentId, virtualhostId := virtualhostId }).exec c).2.data.apache

/-- `AnalyzeSessions` returns, and what it has written for `s` is the majority
among the three nearest of the learning set there was when `s` was handled. -/
def UsesWholeLearningSet (agentId virtualhostId : RowId) (limit : ℕ) (o : KnnAnalyzerObject)
    (pre : List (Row SessionEntry)) (s : Row SessionEntry) (c : Connection Store) : Prop :=
  ∃ o' c', (analyzeSessions unset agentId virtualhostId limit o).exec c = (.ok o', c') ∧
    (c'.data.apache.sessions.get? s.id).map (·.classification)
      = some (majority (nearestThree s.val
          (learningSet agentId virtualhostId (whenHandled unset agentId virtualhostId o pre c))))

lemma whenHandled_eq (o : KnnAnalyzerObject) (pre : List (Row SessionEntry))
    (c : Connection Store) : whenHandled unset agentId virtualhostId o pre c
      = pre.foldl (classify unset agentId virtualhostId) c.data.apache := by
  obtain ⟨o', hrun⟩ := exec_foldlM_analyzeSession unset agentId virtualhostId pre
    { o with agentId := agentId, virtualhostId := virtualhostId } c
  rw [whenHandled, hrun]

section Run

variable {limit : ℕ} {o : KnnAnalyzerObject} {c : Connection Store}
  {agentName virtualhostName : Text} {pre post : List (Row SessionEntry)} {s : Row SessionEntry}
  (hagent : c.data.agentNames.get? agentId = some agentName)
  (hvirtualhost : c.data.apache.virtualhostsNames.get? virtualhostId = some virtualhostName)
  (hrows : ∀ id ∈ learningIds agentId virtualhostId c.data.apache,
    (c.data.apache.sessions.get? id).isSome)
  (hpart : sessionsPart agentName virtualhostName limit c.data.apache = pre ++ s :: post)
  (hdistinct : DistinctDistances s.val
    (learningSet agentId virtualhostId (whenHandled unset agentId virtualhostId o pre c)))

include hagent hvirtualhost hrows hpart hdistinct in
/-- What has been written for a session. -/
lemma exec_analyzeSessions_classification :
    ∃ o' c', (analyzeSessions unset agentId virtualhostId limit o).exec c = (.ok o', c') ∧
      (c'.data.apache.sessions.get? s.id).map (·.classification)
        = some (majority (nearestThree s.val
            (firstHundred agentId virtualhostId
              (whenHandled unset agentId virtualhostId o pre c)))) := by
  obtain ⟨o', hrun⟩ := exec_analyzeSessions unset agentId virtualhostId limit o hagent hvirtualhost
  refine ⟨o', _, hrun, ?_⟩
  rw [whenHandled_eq] at hdistinct ⊢
  have hrows' : ∀ id ∈ learningIds agentId virtualhostId
      (pre.foldl (classify unset agentId virtualhostId) c.data.apache),
      ((pre.foldl (classify unset agentId virtualhostId) c.data.apache).sessions.get?
        id).isSome := by
    intro id hid
    rw [(foldl_classify unset pre c.data.apache).1] at hid
    rw [(foldl_classify unset pre c.data.apache).2]
    exact hrows id hid
  rw [← getSessionClassification_neighboursTable unset hrows' hdistinct, hpart]
  exact classification_foldl_classify unset hpart

include hagent hvirtualhost hrows hpart hdistinct in
/-- **What a session is classified by.** The whole learning set is used exactly
if leaving out its rows after the first hundred does not change the majority
among the three nearest. -/
theorem whole_learning_set_iff :
    UsesWholeLearningSet unset agentId virtualhostId limit o pre s c ↔
      majority (nearestThree s.val (firstHundred agentId virtualhostId
          (whenHandled unset agentId virtualhostId o pre c)))
        = majority (nearestThree s.val (learningSet agentId virtualhostId
            (whenHandled unset agentId virtualhostId o pre c))) := by
  obtain ⟨o', c', hrun, hwritten⟩ :=
    exec_analyzeSessions_classification unset hagent hvirtualhost hrows hpart hdistinct
  constructor
  · rintro ⟨o'', c'', hrun', hwhole⟩
    obtain ⟨-, rfl⟩ := Prod.mk.inj (hrun.symm.trans hrun')
    exact Option.some.inj (hwritten.symm.trans hwhole)
  · exact fun hmajority => ⟨o', c', hrun, hmajority ▸ hwritten⟩

end Run

/-- A learning set of a hundred rows or less is used as a whole. -/
lemma firstHundred_eq_learningSet {t : Tables}
    (h : (learningIds agentId virtualhostId t).length ≤ 100) :
    firstHundred agentId virtualhostId t = learningSet agentId virtualhostId t := by
  rw [firstHundred, learningSet, List.take_of_length_le h]

/-- A larger one as well, if the three nearest are among the first hundred rows. -/
lemma nearestThree_firstHundred {t : Tables} {session : SessionEntry}
    (hdistinct : DistinctDistances session (learningSet agentId virtualhostId t))
    (h : nearestThree session (learningSet agentId virtualhostId t)
      ⊆ firstHundred agentId virtualhostId t) :
    nearestThree session (firstHundred agentId virtualhostId t)
      = nearestThree session (learningSet agentId virtualhostId t) := by
  have hids := nodup_learningIds agentId virtualhostId t
  refine Nearest.nearest_of_subset
    (fun r hr r' hr' => List.inj_on_of_nodup_map hdistinct hr hr')
    (nodup_classified hids t) (nodup_classified (hids.take (i := 100)) t) (fun r hr => ?_) h
  obtain ⟨hid, hr⟩ := mem_classified.mp hr
  exact mem_classified.mpr ⟨List.mem_of_mem_take hid, hr⟩

/-! ### A learning set of more than a hundred rows -/

/-- An analyzer that has reported nothing. -/
def quiet : KnnAnalyzerObject := ⟨false, 0, 0, []⟩

theorem whole_learning_set_iff_crowd :
    UsesWholeLearningSet newcomer 1 1 1 quiet [] newcomer ⟨crowd 1, none⟩ ↔
      majority (nearestThree newcomer.val
          (firstHundred 1 1 (whenHandled newcomer 1 1 quiet [] ⟨crowd 1, none⟩)))
        = majority (nearestThree newcomer.val
            (learningSet 1 1 (whenHandled newcomer 1 1 quiet [] ⟨crowd 1, none⟩))) := by
  have hagent : (crowd 1).agentNames.get? 1 = some ⟨[97], by decide⟩ := by decide +kernel
  have hvirtualhost : (crowd 1).apache.virtualhostsNames.get? 1 = some ⟨[118], by decide⟩ := by
    decide +kernel
  have hpart : sessionsPart ⟨[97], by decide⟩ ⟨[118], by decide⟩ 1 (crowd 1).apache
      = [] ++ newcomer :: [] := by
    decide +kernel
  refine whole_learning_set_iff newcomer (c := ⟨crowd 1, none⟩) hagent hvirtualhost
    (by decide +kernel) hpart ?_
  unfold DistinctDistances
  decide +kernel

/-- The hundred normal sessions of the learning set. -/
def normalRows : List (Row SessionEntry) :=
  (List.range 100).map fun (i : ℕ) => ⟨i + 2, sessionOfLength (10 + i) .normal⟩

/-- The two anomalies. -/
def anomalyRows : List (Row SessionEntry) :=
  [⟨102, sessionOfLength 1 .anomaly⟩, ⟨103, sessionOfLength 2 .anomaly⟩]

/-- The values of a list that are asked for by their numbers. -/
lemma filterMap_range_getElem? {α β : Type} (xs : List α) (f : ℕ → α → β) (k : ℕ) :
    (List.range k).filterMap (fun i => xs[i]?.map (f i)) = (xs.take k).mapIdx f := by
  induction k with
  | zero => rfl
  | succ k ih =>
      rw [List.range_succ, List.filterMap_append, ih, List.take_add_one, List.mapIdx_append]
      cases h : xs[k]? with
      | none => simp [h]
      | some v =>
          have hlength : (xs.take k).length = k :=
            List.length_take_of_le (List.getElem?_eq_some_iff.mp h).1.le
          simp [h, hlength]

/-- The sessions of the crowd that are learned from. -/
def learners (n : ℕ) : List SessionEntry :=
  (List.range n).map (fun (i : ℕ) => sessionOfLength (10 + i) .normal)
    ++ [sessionOfLength 1 .anomaly, sessionOfLength 2 .anomaly]

lemma length_learners (n : ℕ) : (learners n).length = n + 2 := by
  rw [learners, List.length_append, List.length_map, List.length_range]
  rfl

lemma isClassified_learners {n : ℕ} {s : SessionEntry} (hs : s ∈ learners n) :
    s.classification ≠ .unknown := by
  rcases List.mem_append.mp hs with hs | hs
  · obtain ⟨i, -, rfl⟩ := List.mem_map.mp hs
    simp [sessionOfLength]
  · rcases List.mem_pair.mp hs with rfl | rfl <;> decide

lemma get?_crowd (n i : ℕ) : (crowd n).apache.sessions.get? (i + 2) = (learners n)[i]? :=
  Table.get?_foldl_insert (sessionOfLength 0 .unknown :: learners n) (i + 1)

lemma learningIds_crowd (n : ℕ) :
    learningIds 1 1 (crowd n).apache = (List.range (n + 2)).map fun (i : ℕ) => (i : ℤ) + 2 := by
  have hnodup : ((List.range (n + 2)).map fun (i : ℕ) =>
      (⟨1, 1, (i : ℤ) + 2⟩ : LearningSession)).Nodup :=
    List.nodup_range.map fun i j hij => by simpa using hij
  have hvals : (crowd n).apache.learningSessions.vals
      = (List.range (n + 2)).map fun (i : ℕ) => ⟨1, 1, (i : ℤ) + 2⟩ := by
    have hfoldl : (crowd n).apache.learningSessions
        = ((List.range (n + 2)).map fun (i : ℕ) => (⟨1, 1, (i : ℤ) + 2⟩ : LearningSession)).foldl
          UniqueTable.insertOrIgnore UniqueTable.empty := List.foldl_map.symm
    rw [hfoldl]
    exact UniqueTable.vals_foldl_insertOrIgnore (fun _ _ => List.not_mem_nil) hnodup
  have hids : learningIds 1 1 (crowd n).apache
      = ((crowd n).apache.learningSessions.vals.filter fun l =>
          l.agentNameId = 1 && l.virtualhostNameId = 1).map (·.sessionId) := by
    rw [learningIds, Table.vals, List.filter_map, List.map_map]
    rfl
  rw [hids, hvals, List.filter_eq_self.mpr (by simp), List.map_map]
  rfl

lemma classified_crowd (n k : ℕ) :
    classified ((List.range k).map fun (i : ℕ) => (i : ℤ) + 2) (crowd n).apache
      = ((learners n).take k).mapIdx fun i s => ⟨i + 2, s⟩ := by
  have hrows := filterMap_range_getElem? (learners n)
    (fun i s => (⟨i + 2, s⟩ : Row SessionEntry)) k
  rw [classified, List.filterMap_map, ← hrows]
  simp only [Function.comp_def, get?_crowd]
  refine List.filter_eq_self.mpr fun r hr => ?_
  rw [hrows, List.mem_mapIdx] at hr
  obtain ⟨i, hi, rfl⟩ := hr
  exact decide_eq_true (isClassified_learners (List.mem_of_mem_take (List.getElem_mem hi)))

lemma learningSet_crowd (n : ℕ) :
    learningSet 1 1 (crowd n).apache = (learners n).mapIdx fun i s => ⟨i + 2, s⟩ := by
  rw [learningSet, learningIds_crowd, classified_crowd,
    List.take_of_length_le (length_learners n).le]

lemma mapIdx_normal : ((List.range 100).map fun (i : ℕ) => sessionOfLength (10 + i) .normal).mapIdx
    (fun i s => (⟨i + 2, s⟩ : Row SessionEntry)) = normalRows :=
  List.ext_getElem (by simp [normalRows]) fun i hi hi' => by simp [normalRows]

lemma firstHundred_crowd : firstHundred 1 1 (crowd 100).apache = normalRows := by
  rw [firstHundred, learningIds_crowd, ← List.map_take, List.take_range,
    Nat.min_eq_left (by decide),
    classified_crowd, learners, List.take_left' (by simp), mapIdx_normal]

lemma learningSet_crowd_hundred :
    learningSet 1 1 (crowd 100).apache = normalRows ++ anomalyRows := by
  rw [learningSet_crowd, learners, List.mapIdx_append, mapIdx_normal, List.length_map,
    List.length_range]
  rfl

lemma isSome_get?_crowd (n : ℕ) : ∀ id ∈ learningIds 1 1 (crowd n).apache,
    ((crowd n).apache.sessions.get? id).isSome := by
  intro id hid
  rw [learningIds_crowd] at hid
  obtain ⟨i, hi, rfl⟩ := List.mem_map.mp hid
  rw [get?_crowd, List.getElem?_eq_getElem ((length_learners n).symm ▸ List.mem_range.mp hi)]
  rfl

lemma sessionsPart_crowd (n : ℕ) :
    sessionsPart ⟨[97], by decide⟩ ⟨[118], by decide⟩ 1 (crowd n).apache = [newcomer] := by
  have hrows : (crowd n).apache.sessions.rows
      = newcomer :: (learners n).mapIdx fun i s => ⟨i + 1 + 1, s⟩ := by
    refine (Table.foldl_insert_rows (sessionOfLength 0 .unknown :: learners n)).trans ?_
    rw [List.mapIdx_cons]
    rfl
  rw [sessionsPart, hrows, List.filter_cons_of_pos (by decide)]
  rfl

/-- A session is as far from the newcomer as it is long. -/
lemma squaredDistance_newcomer (l : ℤ) (d : Classification) :
    squaredDistance (sessionOfLength l d) newcomer.val = l ^ 2 := by
  simp [squaredDistance, sessionOfLength, newcomer]

lemma distinctDistances_crowd : DistinctDistances newcomer.val (normalRows ++ anomalyRows) := by
  have hlengths : (((List.range 100).map fun (i : ℕ) => 10 + i) ++ [1, 2]).Nodup := by
    refine (List.nodup_range.map (add_right_injective 10)).append (by decide) fun l hl hl' => ?_
    obtain ⟨i, -, rfl⟩ := List.mem_map.mp hl
    rcases List.mem_pair.mp hl' with h | h <;> omega
  have hdistances : (normalRows ++ anomalyRows).map (fun r => squaredDistance r.val newcomer.val)
      = (((List.range 100).map fun (i : ℕ) => 10 + i) ++ [1, 2]).map
        fun (l : ℕ) => (l : ℚ) ^ 2 := by
    simp [normalRows, anomalyRows, squaredDistance_newcomer]
  rw [DistinctDistances, hdistances]
  exact hlengths.map fun l l' h => Nat.pow_left_injective two_ne_zero (by exact_mod_cast h)

/-- Two of the three nearest are anomalies. -/
lemma majority_crowd :
    majority (nearestThree newcomer.val (normalRows ++ anomalyRows)) = .anomaly := by
  have hnearest : nearestThree newcomer.val (normalRows ++ anomalyRows)
      = anomalyRows ++ normalRows.take 1 := by
    have hperm : (anomalyRows ++ normalRows.take 1 ++ normalRows.drop 1).Perm
        (normalRows ++ anomalyRows) := by
      rw [List.append_assoc, List.take_append_drop]
      exact List.perm_append_comm
    exact Nearest.nearest_eq
      (fun r hr r' hr' => List.inj_on_of_nodup_map distinctDistances_crowd hr hr') hperm
      (by decide +kernel) (by decide +kernel) rfl
  rw [hnearest]
  decide +kernel

/-- Without an anomaly there is no majority of them. -/
lemma majority_ne_anomaly {rs : List (Row SessionEntry)}
    (h : ∀ r ∈ rs, r.val.classification ≠ .anomaly) : majority rs ≠ .anomaly := by
  have hcount : rs.countP (·.val.classification = .anomaly) = 0 :=
    List.countP_eq_zero.mpr fun r hr => by simpa using h r hr
  rw [majority, hcount]
  split_ifs <;> simp_all

/-- **The anomalies are not seen**: the newcomer is classified as normal. -/
theorem not_whole_learning_set_crowd :
    DistinctDistances newcomer.val (learningSet 1 1 (crowd 100).apache) ∧
    sessionsPart ⟨[97], by decide⟩ ⟨[118], by decide⟩ 1 (crowd 100).apache = [newcomer] ∧
    ¬ UsesWholeLearningSet newcomer 1 1 1 quiet [] newcomer ⟨crowd 100, none⟩ := by
  have hset := learningSet_crowd_hundred
  have hpart := sessionsPart_crowd 100
  have hdistinct : DistinctDistances newcomer.val (learningSet 1 1 (crowd 100).apache) :=
    hset ▸ distinctDistances_crowd
  have hagent : (crowd 100).agentNames.get? 1 = some ⟨[97], by decide⟩ := by decide +kernel
  have hvirtualhost : (crowd 100).apache.virtualhostsNames.get? 1 = some ⟨[118], by decide⟩ := by
    decide +kernel
  have hhandled : whenHandled newcomer 1 1 quiet [] ⟨crowd 100, none⟩ = (crowd 100).apache :=
    whenHandled_eq newcomer quiet [] ⟨crowd 100, none⟩
  refine ⟨hdistinct, hpart, ?_⟩
  rintro ⟨o'', c'', hrun', hwhole⟩
  obtain ⟨o', c', hrun, hwritten⟩ := exec_analyzeSessions_classification newcomer
    (c := ⟨crowd 100, none⟩) hagent hvirtualhost (isSome_get?_crowd 100)
    (hpart.trans (List.nil_append [newcomer]).symm) (hhandled.symm ▸ hdistinct)
  obtain ⟨-, rfl⟩ := Prod.mk.inj (hrun.symm.trans hrun')
  have hsame := Option.some.inj (hwritten.symm.trans hwhole)
  rw [hhandled, hset, firstHundred_crowd, majority_crowd] at hsame
  refine majority_ne_anomaly (fun r hr => ?_) hsame
  obtain ⟨i, -, rfl⟩ := List.mem_map.mp (Nearest.mem_of_mem_nearest hr)
  simp [sessionOfLength]

end Slas.Apache
