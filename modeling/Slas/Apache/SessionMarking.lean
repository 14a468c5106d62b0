import Mathlib
import Slas.Apache.Knn

/-!
Marking sessions over the web: `CommandExecutorObject::SetApacheSessionsAsAnomaly` of
`server/src/apache/web/command_executor_object.cpp`.

* `setApacheSessionsAsAnomaly`: the operation, five calls on the connection;
* `MarksOrKeeps`: a call that succeeds has marked the sessions and made them the
  learning set, a call that throws has left all classifications and learning sets as
  they were;
* `markedAs`: the classification of a session after some of the updates;
* `marksOrKeeps_iff`: a call marks or keeps exactly if nothing fails, or what it has
  done before the failure changes nothing.

The classifications are committed before the names are looked up, and the old learning
set is deleted before the new one is inserted.
-/

namespace Slas.Apache

open Database

/-- `CommandExecutorObject::SetApacheSessionsAsAnomaly`, up to its answer. -/
def setApacheSessionsAsAnomaly (agentName virtualhostName : Text) (all anomalies : List RowId) :
    DatabaseM Unit := do
  setApacheSessionAsAnomaly all anomalies
  let agentId ← getAgentNameId agentName
  let virtualhostId ← getVirtualhostNameId virtualhostName
  removeAllLearningSessions agentId virtualhostId
  setLearningSessions agentId virtualhostId all

/-- The learning set of an agent and a virtualhost is `all`, the sessions of
`anomalies` are anomalies, and the others of `all` are normal. -/
structure SessionsMarked (agentId virtualhostId : RowId) (all anomalies : List RowId)
    (s s' : Store) : Prop where
  learningSet : ∀ id, id ∈ learningIds agentId virtualhostId s'.apache ↔ id ∈ all
  otherSets : ∀ v : LearningSession,
    ¬(v.agentNameId = agentId ∧ v.virtualhostNameId = virtualhostId) →
      (v ∈ s'.apache.learningSessions.vals ↔ v ∈ s.apache.learningSessions.vals)
  sessions : s'.apache.sessions.rows = s.apache.sessions.rows.map fun r =>
    ⟨r.id, { r.val with classification :=
      if r.id ∈ anomalies then .anomaly
      else if r.id ∈ all then .normal else r.val.classification }⟩

/-- All classifications and learning sets are as they were. -/
structure SameMarks (s s' : Store) : Prop where
  sessions : s'.apache.sessions = s.apache.sessions
  learningSets : ∀ v, v ∈ s'.apache.learningSessions.vals ↔ v ∈ s.apache.learningSessions.vals

/-- The id under which the sessions of a virtualhost are learned. -/
def virtualhostIdOf (s : Store) (virtualhostName : Text) : RowId :=
  (s.apache.virtualhostsNames.idOf? virtualhostName).getD (-1)

/-- How a call made with faults `env` ends: it has marked the sessions, or it has
thrown and changed nothing. -/
def MarksOrKeeps (env : ℕ → Option Fault) (c : Connection Store) (agentName virtualhostName : Text)
    (all anomalies : List RowId) : Prop :=
  match (setApacheSessionsAsAnomaly agentName virtualhostName all anomalies).run env 0 c with
  | (.ok _, _, c') => ∃ agentId, c.data.agentNames.idOf? agentName = some agentId ∧
      SessionsMarked agentId (virtualhostIdOf c.data virtualhostName) all anomalies c.data c'.data
  | (.error _, _, c') => SameMarks c.data c'.data

/-! ### The classifications -/

/-- The updates of `Database::SetApacheSessionAsAnomaly`. -/
def marks (all anomalies : List RowId) : List (RowId × Classification) :=
  all.map (·, .normal) ++ anomalies.map (·, .anomaly)

/-- The classification of a session after updates. -/
def markedAs (ms : List (RowId × Classification)) (r : Row SessionEntry) : Classification :=
  ms.foldl (fun classification m => if m.1 = r.id then m.2 else classification)
    r.val.classification

/-- The updates give no session another classification than it has. -/
def MarksNothing (ms : List (RowId × Classification)) (t : Tables) : Prop :=
  ∀ r ∈ t.sessions.rows, markedAs ms r = r.val.classification

/-- What updates make of the database. -/
def applyMarks (ms : List (RowId × Classification)) (s : Store) : Store :=
  { s with apache := { s.apache with
    sessions := s.apache.sessions.update fun r =>
      { r.val with classification := markedAs ms r } } }

/-- Updates to one classification. -/
lemma foldl_mark (ids : List RowId) (mark classification : Classification) (id : RowId) :
    (ids.map (·, mark)).foldl (fun classification m => if m.1 = id then m.2 else classification)
      classification = if id ∈ ids then mark else classification := by
  induction ids generalizing classification with
  | nil => rfl
  | cons other ids ih =>
      rw [List.map_cons, List.foldl_cons, ih]
      by_cases hid : id ∈ ids
      · rw [if_pos hid, if_pos (List.mem_cons_of_mem other hid)]
      · by_cases hother : other = id
        · subst hother
          rw [if_neg hid, if_pos rfl, if_pos List.mem_cons_self]
        · have hne : id ∉ other :: ids := by
            rw [List.mem_cons, not_or]
            exact ⟨Ne.symm hother, hid⟩
          rw [if_neg hid, if_neg hother, if_neg hne]

lemma markedAs_marks (all anomalies : List RowId) (r : Row SessionEntry) :
    markedAs (marks all anomalies) r = if r.id ∈ anomalies then .anomaly
      else if r.id ∈ all then .normal else r.val.classification := by
  rw [markedAs, marks, List.foldl_append, foldl_mark, foldl_mark]

lemma applyMarks_nil (s : Store) : applyMarks [] s = s := by
  have hrows : (applyMarks [] s).apache.sessions.rows = s.apache.sessions.rows := List.map_id' _
  exact congrArg (fun sessions => { s with apache := { s.apache with sessions } })
    (Table.ext_rows hrows)

/-- An update before others. -/
lemma applyMarks_cons (m : RowId × Classification) (ms : List (RowId × Classification))
    (s : Store) : applyMarks (m :: ms) s
      = applyMarks ms { s with apache := setClassification m.1 m.2 s.apache } := by
  have hrows : (applyMarks (m :: ms) s).apache.sessions.rows
      = (applyMarks ms { s with
          apache := setClassification m.1 m.2 s.apache }).apache.sessions.rows := by
    show s.apache.sessions.rows.map _ = (s.apache.sessions.rows.map _).map _
    rw [List.map_map]
    refine List.map_congr_left fun r _ => ?_
    simp only [Function.comp_apply, markedAs, List.foldl_cons]
    by_cases hid : r.id = m.1
    · simp [hid]
    · simp [hid, Ne.symm hid]
  exact congrArg (fun sessions => { s with apache := { s.apache with sessions } })
    (Table.ext_rows hrows)

/-- The updates one after another. -/
lemma applyAll_marks (ms : List (RowId × Classification)) (s : Store) :
    Connection.applyAll (ms.map fun m s =>
      { s with apache := setClassification m.1 m.2 s.apache }) s = applyMarks ms s := by
  induction ms generalizing s with
  | nil => exact (applyMarks_nil s).symm
  | cons m ms ih =>
      rw [applyMarks_cons]
      exact ih _

/-- Nothing has been marked exactly if the table of sessions is the same. -/
lemma marksNothing_iff (ms : List (RowId × Classification)) (s : Store) :
    MarksNothing ms s.apache ↔ (applyMarks ms s).apache.sessions = s.apache.sessions := by
  constructor
  · intro h
    refine Table.ext_rows ?_
    show s.apache.sessions.rows.map _ = s.apache.sessions.rows
    conv_rhs => rw [← List.map_id s.apache.sessions.rows]
    refine List.map_congr_left fun r hr => ?_
    simp only [h r hr]
    rfl
  · intro h r hr
    have hget := Table.get?_update s.apache.sessions
      (fun r => { r.val with classification := markedAs ms r }) r.id
    rw [show s.apache.sessions.update _ = s.apache.sessions from h,
      Table.get?_eq_some.mpr (show (⟨r.id, r.val⟩ : Row SessionEntry) ∈ _ from hr)] at hget
    exact (congrArg SessionEntry.classification (Option.some.inj hget)).symm

/-! ### The learning sets -/

/-- What the deletion of a learning set makes of the database. -/
def removeLearningSet (agentId virtualhostId : RowId) (s : Store) : Store :=
  { s with apache := { s.apache with
    learningSessions := s.apache.learningSessions.delete fun r =>
      !(r.val.agentNameId = agentId && r.val.virtualhostNameId = virtualhostId) } }

/-- What the inserts of sessions make of it. -/
def insertLearningSet (agentId virtualhostId : RowId) (ids : List RowId) (s : Store) : Store :=
  { s with apache := { s.apache with
    learningSessions := (ids.map fun id => ⟨agentId, virtualhostId, id⟩).foldl
      UniqueTable.insertOrIgnore s.apache.learningSessions } }

lemma applyAll_insertLearningSession (agentId virtualhostId : RowId) (ids : List RowId)
    (s : Store) :
    Connection.applyAll (ids.map fun id s =>
      { s with apache := insertLearningSession agentId virtualhostId id s.apache }) s
        = insertLearningSet agentId virtualhostId ids s := by
  induction ids generalizing s with
  | nil => rfl
  | cons id ids ih => exact ih _

section LearningSets

variable {agentId virtualhostId : RowId} {s : Store}

lemma mem_removeLearningSet (v : LearningSession) :
    v ∈ (removeLearningSet agentId virtualhostId s).apache.learningSessions.vals ↔
      v ∈ s.apache.learningSessions.vals ∧
        ¬(v.agentNameId = agentId ∧ v.virtualhostNameId = virtualhostId) := by
  simp only [removeLearningSet, UniqueTable.delete_rows, Table.vals, List.mem_map, List.mem_filter,
    Bool.not_eq_true', Bool.and_eq_false_iff, decide_eq_false_iff_not]
  constructor
  · rintro ⟨r, ⟨hr, hne⟩, rfl⟩
    exact ⟨⟨r, hr, rfl⟩, by tauto⟩
  · rintro ⟨⟨r, hr, rfl⟩, hne⟩
    exact ⟨r, ⟨hr, by tauto⟩, rfl⟩

/-- The learning sets after the deletion and the inserts that were made. -/
lemma mem_replaceLearningSet (ids : List RowId) (v : LearningSession) :
    v ∈ (insertLearningSet agentId virtualhostId ids
        (removeLearningSet agentId virtualhostId s)).apache.learningSessions.vals ↔
      (v ∈ s.apache.learningSessions.vals ∧
        ¬(v.agentNameId = agentId ∧ v.virtualhostNameId = virtualhostId)) ∨
        (v.agentNameId = agentId ∧ v.virtualhostNameId = virtualhostId) ∧ v.sessionId ∈ ids := by
  rw [insertLearningSet, UniqueTable.mem_vals_foldl_insertOrIgnore, mem_removeLearningSet]
  refine or_congr_right ?_
  rw [List.mem_map]
  constructor
  · rintro ⟨id, hid, rfl⟩
    exact ⟨⟨rfl, rfl⟩, hid⟩
  · rintro ⟨⟨rfl, rfl⟩, hid⟩
    exact ⟨v.sessionId, hid, rfl⟩

/-- The learning sets are as before exactly if the sessions inserted are those of
the old one. -/
lemma sameSets_iff (agentId virtualhostId : RowId) (s : Store) (ids : List RowId) :
    (∀ v, v ∈ (insertLearningSet agentId virtualhostId ids
        (removeLearningSet agentId virtualhostId s)).apache.learningSessions.vals ↔
      v ∈ s.apache.learningSessions.vals) ↔
      ∀ id, id ∈ ids ↔ id ∈ learningIds agentId virtualhostId s.apache := by
  constructor
  · intro h id
    rw [mem_learningIds, ← h, mem_replaceLearningSet]
    simp
  · intro h v
    rw [mem_replaceLearningSet]
    by_cases hv : v.agentNameId = agentId ∧ v.virtualhostNameId = virtualhostId
    · obtain ⟨rfl, rfl⟩ := hv
      rw [h, mem_learningIds]
      simp
    · simp [hv]

end LearningSets

/-! ### The whole call -/

/-- The classifications have been committed, both names have been looked up, and the
old learning set has been removed. -/
structure PastRemoval (env : ℕ → Option Fault) (c : Connection Store) (agentName : Text) :
    Prop where
  idle : c.Idle
  undisturbed : Prog.Clean env 4
  known : c.data.agentNames.idOf? agentName ≠ none

section Call

variable {env : ℕ → Option Fault} {c : Connection Store} {agentName virtualhostName : Text}
  {all anomalies : List RowId}

/-- The updates that are made. -/
abbrev marksMade (env : ℕ → Option Fault) (c : Connection Store) (all anomalies : List RowId) :
    List (RowId × Classification) :=
  c.tried ((env 0).map (·.position)) (marks all anomalies)

/-- The sessions that are inserted into the learning set, if they are reached. -/
abbrev sessionsInserted (env : ℕ → Option Fault) (c : Connection Store) (all : List RowId) :
    List RowId :=
  c.tried ((env 4).map (·.position)) all

/-- What has been done changes nothing. -/
structure ChangesNothing (env : ℕ → Option Fault) (c : Connection Store)
    (agentName virtualhostName : Text) (all anomalies : List RowId) : Prop where
  classifications : MarksNothing (marksMade env c all anomalies) c.data.apache
  learningSet : PastRemoval env c agentName → ∀ agentId ∈ c.data.agentNames.idOf? agentName, ∀ id,
    id ∈ sessionsInserted env c all ↔
      id ∈ learningIds agentId (virtualhostIdOf c.data virtualhostName) c.data.apache

/-- A call that fails before it has removed the learning set. -/
lemma sameMarks_applyMarks_iff (hremoval : ¬PastRemoval env c agentName) :
    SameMarks c.data (applyMarks (marksMade env c all anomalies) c.data) ↔
      ChangesNothing env c agentName virtualhostName all anomalies := by
  constructor
  · exact fun h => ⟨(marksNothing_iff _ _).mpr h.sessions, fun hpast => absurd hpast hremoval⟩
  · exact fun h => ⟨(marksNothing_iff _ _).mp h.classifications, fun _ => .rfl⟩

/-- A call that fails after it. -/
lemma sameMarks_insertLearningSet_iff (hpast : PastRemoval env c agentName) {agentId : RowId}
    (hagent : c.data.agentNames.idOf? agentName = some agentId) :
    SameMarks c.data (insertLearningSet agentId (virtualhostIdOf c.data virtualhostName)
        (sessionsInserted env c all) (removeLearningSet agentId
          (virtualhostIdOf c.data virtualhostName)
            (applyMarks (marksMade env c all anomalies) c.data))) ↔
      ChangesNothing env c agentName virtualhostName all anomalies := by
  have hsets := sameSets_iff agentId (virtualhostIdOf c.data virtualhostName)
    (applyMarks (marksMade env c all anomalies) c.data) (sessionsInserted env c all)
  constructor
  · intro h
    refine ⟨(marksNothing_iff _ _).mpr h.sessions, fun _ id hid => ?_⟩
    obtain rfl := Option.some.inj (hagent.symm.trans hid)
    exact hsets.mp h.learningSets
  · intro h
    refine ⟨(marksNothing_iff _ _).mp h.classifications, ?_⟩
    exact hsets.mpr (h.learningSet hpast agentId hagent)

/-- The last two steps. -/
lemma run_replaceLearningSet (env : ℕ → Option Fault) (agentId virtualhostId : RowId)
    (all : List RowId) (henv : env 3 = none) {c : Connection Store} (hc : c.Idle) :
    ∃ r c', (removeAllLearningSessions agentId virtualhostId >>= fun _ =>
        setLearningSessions agentId virtualhostId all).run env 3 c = (r, 5, c') ∧
      c'.data = insertLearningSet agentId virtualhostId (sessionsInserted env c all)
        (removeLearningSet agentId virtualhostId c.data) ∧
      (r = .ok () ∧ env 4 = none ∨
        r = .error .cantExecuteSqlStatementException ∧ env 4 ≠ none) := by
  set c₁ : Connection Store := { c with data := removeLearningSet agentId virtualhostId c.data }
  have hrun : (removeAllLearningSessions agentId virtualhostId).run env 3 c = (.ok (), 4, c₁) :=
    run_write _ henv
  obtain ⟨r, c', hrun₁, hdata, hended⟩ := run_transaction env 4 c₁ (all.map fun id s =>
    { s with apache := insertLearningSession agentId virtualhostId id s.apache })
  have hinserted : c₁.tried ((env 4).map (·.position)) all = sessionsInserted env c all := by
    rw [Connection.tried_of_idle (c := c₁) hc, sessionsInserted, Connection.tried_of_idle hc]
  rw [Connection.tried_map, applyAll_insertLearningSession, hinserted] at hdata
  refine ⟨r, c', (Prog.run_bind_ok hrun).trans hrun₁, hdata, hended.imp ?_ ?_⟩
  · rintro ⟨hr, -, -, henv₄⟩
    exact ⟨hr, henv₄⟩
  · rintro ⟨hr, hfailed⟩
    exact ⟨hr, fun henv₄ => hfailed ⟨hc, henv₄⟩⟩

/-- A call none of whose steps fails. -/
lemma sessionsMarked (agentId virtualhostId : RowId) (all anomalies : List RowId) (s : Store) :
    SessionsMarked agentId virtualhostId all anomalies s
      (insertLearningSet agentId virtualhostId all
        (removeLearningSet agentId virtualhostId (applyMarks (marks all anomalies) s))) where
  learningSet id := by
    rw [mem_learningIds, mem_replaceLearningSet]
    simp
  otherSets v hv := by
    rw [mem_replaceLearningSet]
    simp only [hv, not_false_eq_true, and_true, false_and, or_false]
    rfl
  sessions := by
    show s.apache.sessions.rows.map _ = _
    refine List.map_congr_left fun r _ => ?_
    rw [← markedAs_marks]

/-- The updates of the classifications, one transaction. -/
lemma run_setApacheSessionAsAnomaly (env : ℕ → Option Fault) (c : Connection Store)
    (all anomalies : List RowId) :
    ∃ r c', (setApacheSessionAsAnomaly all anomalies).run env 0 c = (r, 1, c') ∧
      c'.data = applyMarks (marksMade env c all anomalies) c.data ∧
      (r = .ok () ∧ c'.Idle ∧ c.Idle ∧ env 0 = none ∨
        r = .error .cantExecuteSqlStatementException ∧ ¬(c.Idle ∧ env 0 = none)) := by
  have htext : setApacheSessionAsAnomaly all anomalies = execSql (.begin :: (Connection.writes
      ((marks all anomalies).map fun m s =>
        { s with apache := setClassification m.1 m.2 s.apache }) ++ [.commit])) := by
    rw [setApacheSessionAsAnomaly, marks, List.map_append, List.map_map, List.map_map]
    rfl
  obtain ⟨r, c', hrun, hdata, hended⟩ := run_transaction env 0 c ((marks all anomalies).map
    fun m s => { s with apache := setClassification m.1 m.2 s.apache })
  rw [Connection.tried_map, applyAll_marks] at hdata
  exact ⟨r, c', htext ▸ hrun, hdata, hended⟩

/-- A call that does not get past the removal throws, and has written nothing but
classifications. -/
lemma run_of_not_pastRemoval (virtualhostName : Text) (all anomalies : List RowId)
    (hpast : ¬PastRemoval env c agentName) :
    ∃ e m c', (setApacheSessionsAsAnomaly agentName virtualhostName all anomalies).run env 0 c
        = (.error e, m, c') ∧ c'.data = applyMarks (marksMade env c all anomalies) c.data := by
  obtain ⟨r, c₁, hrun, hdata, hended⟩ := run_setApacheSessionAsAnomaly env c all anomalies
  rw [setApacheSessionsAsAnomaly]
  rcases hended with ⟨rfl, -, hidle, henv₀⟩ | ⟨rfl, -⟩
  swap
  · exact ⟨_, 1, c₁, Prog.run_bind_error hrun, hdata⟩
  rw [Prog.run_bind_ok hrun]
  have hnames : c₁.data.agentNames = c.data.agentNames := by
    rw [hdata]
    rfl
  by_cases hagent : c₁.data.agentNames.idOf? agentName = none ∨ env 1 ≠ none
  · obtain ⟨e, hrun₁⟩ : ∃ e, (getAgentNameId agentName).run env 1 c₁ = (.error e, 2, c₁) :=
      run_queryFirst_error hagent
    exact ⟨e, 2, c₁, Prog.run_bind_error hrun₁, hdata⟩
  rw [not_or, not_not] at hagent
  obtain ⟨hknown, henv₁⟩ := hagent
  obtain ⟨agentId, hagent⟩ := Option.ne_none_iff_exists'.mp hknown
  have hrun₁ : (getAgentNameId agentName).run env 1 c₁ = (.ok agentId, 2, c₁) :=
    run_queryFirst hagent henv₁
  rw [Prog.run_bind_ok hrun₁]
  by_cases henv₂ : env 2 = none
  swap
  · have hrun₂ : (getVirtualhostNameId virtualhostName).run env 2 c₁
        = (.error .cantExecuteSqlStatementException, 3, c₁) := run_query_fault _ henv₂
    exact ⟨_, 3, c₁, Prog.run_bind_error hrun₂, hdata⟩
  have hrun₂ : (getVirtualhostNameId virtualhostName).run env 2 c₁
      = (.ok (virtualhostIdOf c₁.data virtualhostName), 3, c₁) := run_query _ henv₂
  rw [Prog.run_bind_ok hrun₂]
  -- so it is the removal that fails
  have henv₃ : env 3 ≠ none := by
    intro henv₃
    refine hpast ⟨hidle, fun m hm => ?_, hnames ▸ hknown⟩
    interval_cases m
    exacts [henv₀, henv₁, henv₂, henv₃]
  have hrun₃ : (removeAllLearningSessions agentId (virtualhostIdOf c₁.data virtualhostName)).run
      env 3 c₁ = (.error .cantExecuteSqlStatementException, 4, c₁) := run_write_fault _ henv₃
  exact ⟨_, 4, c₁, Prog.run_bind_error hrun₃, hdata⟩

/-- A call that gets past the removal ends as the inserts do. -/
lemma run_of_pastRemoval (virtualhostName : Text) (all anomalies : List RowId)
    (hpast : PastRemoval env c agentName) :
    ∃ agentId r c', c.data.agentNames.idOf? agentName = some agentId ∧
      (setApacheSessionsAsAnomaly agentName virtualhostName all anomalies).run env 0 c
        = (r, 5, c') ∧
      c'.data = insertLearningSet agentId (virtualhostIdOf c.data virtualhostName)
        (sessionsInserted env c all) (removeLearningSet agentId
          (virtualhostIdOf c.data virtualhostName)
            (applyMarks (marksMade env c all anomalies) c.data)) ∧
      (r = .ok () ∧ env 4 = none ∨
        r = .error .cantExecuteSqlStatementException ∧ env 4 ≠ none) := by
  obtain ⟨r, c₁, hrun, hdata, hended⟩ := run_setApacheSessionAsAnomaly env c all anomalies
  have henv : ∀ m < 4, env m = none := hpast.undisturbed
  rcases hended with ⟨rfl, hidle₁, -, -⟩ | ⟨-, hfailed⟩
  swap
  · exact absurd ⟨hpast.idle, henv 0 (by omega)⟩ hfailed
  obtain ⟨agentId, hagent⟩ := Option.ne_none_iff_exists'.mp hpast.known
  have hrun₁ : (getAgentNameId agentName).run env 1 c₁ = (.ok agentId, 2, c₁) := by
    refine run_queryFirst ?_ (henv 1 (by omega))
    rw [hdata]
    exact hagent
  have hrun₂ : (getVirtualhostNameId virtualhostName).run env 2 c₁
      = (.ok (virtualhostIdOf c.data virtualhostName), 3, c₁) := by
    rw [getVirtualhostNameId, run_query _ (henv 2 (by omega)), hdata]
    rfl
  obtain ⟨r, c₂, hrun₃, hdata₂, hended⟩ := run_replaceLearningSet env agentId
    (virtualhostIdOf c.data virtualhostName) all (henv 3 (by omega)) hidle₁
  have hinserted : sessionsInserted env c₁ all = sessionsInserted env c all := by
    rw [sessionsInserted, Connection.tried_of_idle hidle₁, sessionsInserted,
      Connection.tried_of_idle hpast.idle]
  rw [hinserted, hdata] at hdata₂
  refine ⟨agentId, r, c₂, hagent, ?_, hdata₂, hended⟩
  rw [setApacheSessionsAsAnomaly, Prog.run_bind_ok hrun, Prog.run_bind_ok hrun₁,
    Prog.run_bind_ok hrun₂, hrun₃]

/-- **When a call marks the sessions or changes nothing**: nothing fails and the agent
is known, or what has been done before the failure changes nothing. -/
theorem marksOrKeeps_iff (env : ℕ → Option Fault) (c : Connection Store)
    (agentName virtualhostName : Text) (all anomalies : List RowId) :
    MarksOrKeeps env c agentName virtualhostName all anomalies ↔
      (PastRemoval env c agentName ∧ env 4 = none) ∨
        ChangesNothing env c agentName virtualhostName all anomalies := by
  rw [MarksOrKeeps]
  by_cases hpast : PastRemoval env c agentName
  swap
  · obtain ⟨e, m, c', hrun, hdata⟩ := run_of_not_pastRemoval virtualhostName all anomalies hpast
    rw [hrun, or_iff_right fun h => hpast h.1]
    show SameMarks c.data c'.data ↔ _
    rw [hdata]
    exact sameMarks_applyMarks_iff hpast
  obtain ⟨agentId, r, c', hagent, hrun, hdata, hended⟩ :=
    run_of_pastRemoval virtualhostName all anomalies hpast
  rw [hrun]
  rcases hended with ⟨rfl, henv₄⟩ | ⟨rfl, henv₄⟩
  · refine iff_of_true ⟨agentId, hagent, ?_⟩ (.inl ⟨hpast, henv₄⟩)
    rw [marksMade, sessionsInserted, hpast.undisturbed 0 (by omega), henv₄, Option.map_none,
      Connection.tried_none hpast.idle, Connection.tried_none hpast.idle] at hdata
    rw [hdata]
    exact sessionsMarked agentId _ all anomalies c.data
  · rw [or_iff_right fun h => henv₄ h.2]
    show SameMarks c.data c'.data ↔ _
    rw [hdata]
    exact sameMarks_insertLearningSet_iff hpast hagent

end Call

/-- A database with one session, not classified yet, and no agent names. -/
def oneSession : Store :=
  { Store.empty with apache := insertSession (sessionOfLength 0 .unknown) Tables.empty }

/-- The agent is unknown, and the session has become normal. -/
theorem not_marksOrKeeps_unknownAgent :
    ¬MarksOrKeeps (fun _ => none) ⟨oneSession, none⟩
      ⟨[97], by decide⟩ ⟨[118], by decide⟩ [1] [] := by
  intro h
  have hclassifications : [Classification.normal] = [Classification.unknown] :=
    congrArg (fun t : Table SessionEntry => t.vals.map SessionEntry.classification) h.sessions
  cases hclassifications

end Slas.Apache
