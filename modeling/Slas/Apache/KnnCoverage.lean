import Mathlib
import Slas.Apache.Knn

/-!
The sessions of a virtualhost, `KnnAnalyzerObject::AnalyzeVirtualhost` of
`server/src/apache/analyzer/detail/knn_analyzer_object.cpp`.

* `analyzeVirtualhostRecorded`: the source, with the updates it makes written down;
* `CoveredBy`: every session that was not classified has been updated once, and
  nothing else has changed;
* `knn_coverage`: they are covered if the learning set has a classified session,
  and otherwise nothing changes.

Sessions are asked for page by page, always from the start: one that is classified
leaves the list, and one that stays unknown keeps its place.
-/

namespace Slas.Apache

open Database

/-! ### The updates written down -/

/-- An update of `CLASSIFICATION`. -/
abbrev Update := RowId × Classification

/-- What the object reports of a session. -/
def KnnAnalyzerObject.report (o : KnnAnalyzerObject) (id : RowId)
    (classification : Classification) :
    KnnAnalyzerObject :=
  if classification = .anomaly then
    { o with
      isAnomalyDetected := true
      anomalySessionsIds := o.anomalySessionsIds ++ [id] }
  else o

/-- `analyzeSession` with its update. -/
def analyzeSessionRecorded (unset : Row SessionEntry) (agentNameId virtualhostNameId : RowId)
    (learningSetCount : ℕ) (recorded : KnnAnalyzerObject × List Update)
    (session : Row SessionEntry) :
    DatabaseM (KnnAnalyzerObject × List Update) := do
  let table ← runPartially 100 learningSetCount
    (fun table partCount _ =>
      analyzeSessionsWithLearningSet unset agentNameId virtualhostNameId partCount 0 table)
    (NearestNeighboursTable.setSession session.val)
  let classification := getSessionClassification table
  updateSessionStatisticClassification session.id classification
  pure (recorded.1.report session.id classification, recorded.2 ++ [(session.id, classification)])

/-- `analyzeSessions` with its updates. -/
def analyzeSessionsRecorded (unset : Row SessionEntry) (agentNameId virtualhostNameId : RowId)
    (limit : ℕ) (recorded : KnnAnalyzerObject × List Update) :
    DatabaseM (KnnAnalyzerObject × List Update) := do
  let sessionsPart ← getNotClassifiedSessionStatistics agentNameId virtualhostNameId limit 0
  let o := { recorded.1 with agentId := agentNameId, virtualhostId := virtualhostNameId }
  let learningSetCount ← getLearningSessionsCount agentNameId virtualhostNameId
  sessionsPart.foldlM
    (analyzeSessionRecorded unset agentNameId virtualhostNameId learningSetCount) (o, recorded.2)

/-- `analyzeVirtualhost` with its updates. -/
def analyzeVirtualhostRecorded (unset : Row SessionEntry) (agentNameId virtualhostNameId : RowId)
    (isAnomalyDetected : Bool) : DatabaseM (KnnAnalyzerObject × List Update) := do
  let sessionsCount ← getNotClassifiedSessionsStatisticsCount agentNameId virtualhostNameId
  runPartially 100 sessionsCount
    (fun recorded partCount _ =>
      analyzeSessionsRecorded unset agentNameId virtualhostNameId partCount recorded)
    (⟨isAnomalyDetected, 0, 0, []⟩, [])

section Erasure

variable {unset : Row SessionEntry} {agentId virtualhostId : RowId}

lemma fst_analyzeSessionRecorded (learningSetCount : ℕ) (recorded : KnnAnalyzerObject × List Update)
    (session : Row SessionEntry) :
    Prod.fst <$> analyzeSessionRecorded unset agentId virtualhostId learningSetCount
      recorded session
      = analyzeSession unset agentId virtualhostId learningSetCount recorded.1 session := by
  rw [analyzeSessionRecorded, analyzeSession, map_bind]
  refine bind_congr fun table => ?_
  rw [map_bind]
  refine bind_congr fun _ => ?_
  rw [map_pure]
  rfl

lemma fst_analyzeSessionsRecorded (limit : ℕ) (recorded : KnnAnalyzerObject × List Update) :
    Prod.fst <$> analyzeSessionsRecorded unset agentId virtualhostId limit recorded
      = analyzeSessions unset agentId virtualhostId limit recorded.1 := by
  rw [analyzeSessionsRecorded, analyzeSessions, map_bind]
  refine bind_congr fun sessions => ?_
  dsimp only
  rw [map_bind]
  refine bind_congr fun count => ?_
  rw [Prog.map_foldlM (fst_analyzeSessionRecorded count)]

/-- Without what is written down it is the source. -/
lemma fst_analyzeVirtualhostRecorded (isAnomalyDetected : Bool) :
    Prod.fst <$> analyzeVirtualhostRecorded unset agentId virtualhostId isAnomalyDetected
      = analyzeVirtualhost unset agentId virtualhostId isAnomalyDetected := by
  rw [analyzeVirtualhostRecorded, analyzeVirtualhost, map_bind]
  refine bind_congr fun count => ?_
  rw [runPartially, runPartially]
  exact Prog.map_foldlM (fun recorded (part : ℕ × ℕ) =>
    fst_analyzeSessionsRecorded part.1 recorded) _ _

end Erasure

/-! ### What the pass should do -/

/-- A classification the updates give a session. -/
def updatedEntry (updates : List Update) (r : Row SessionEntry) : SessionEntry :=
  match updates.lookup r.id with
  | some classification => { r.val with classification }
  | none => r.val

/-- The tables after updates of sessions. -/
def updatedTables (updates : List Update) (t : Tables) : Tables :=
  { t with sessions := t.sessions.update (updatedEntry updates) }

/-- Every session of the agent and the virtualhost that was not classified has
been decided by one update, no other session has changed, and those that are
anomalies are reported once. -/
structure CoveredBy (agentName virtualhostName : Text) (s : Store) (o : KnnAnalyzerObject)
    (updates : List Update) (s' : Store) : Prop where
  once : (updates.map Prod.fst).Nodup
  all : ∀ id, id ∈ updates.map Prod.fst ↔ ∃ r ∈ s.apache.sessions.rows, r.id = id ∧
    isNotClassified agentName virtualhostName r = true
  decided : ∀ u ∈ updates, u.2 = .normal ∨ u.2 = .anomaly
  sessions : s' = { s with apache := updatedTables updates s.apache }
  anomalies : o.anomalySessionsIds.Nodup ∧ ∀ id, id ∈ o.anomalySessionsIds ↔
    (id, .anomaly) ∈ updates

/-- The rows of the learning set that are read have a classified session. -/
def LearningSetClassified (agentId virtualhostId : RowId) (t : Tables) : Prop :=
  ∃ id ∈ comparedIds (learningIds agentId virtualhostId t), ∃ v, t.sessions.get? id = some v ∧
    v.classification ≠ .unknown

/-! ### Updates -/

section Updates

variable {updates : List Update} {t : Tables}

lemma lookup_eq_none {id : RowId} : updates.lookup id = none ↔ id ∉ updates.map Prod.fst := by
  rw [List.lookup_eq_none_iff]
  simp only [List.mem_map, not_exists, not_and, bne_iff_ne, ne_eq]
  exact ⟨fun h u hu heq => h u hu heq.symm, fun h u hu heq => h u hu heq.symm⟩

lemma updatedTables_nil (t : Tables) : updatedTables [] t = t :=
  congrArg (fun sessions => { t with sessions := sessions })
    (Table.ext_rows (by simp [updatedEntry]))

/-- One more update. -/
lemma setClassification_updatedTables {id : RowId} (hnew : id ∉ updates.map Prod.fst)
    (classification : Classification) :
    setClassification id classification (updatedTables updates t)
      = updatedTables (updates ++ [(id, classification)]) t := by
  refine congrArg (fun sessions => { t with sessions := sessions }) (Table.ext_rows ?_)
  simp only [updatedTables, Table.update_rows, List.map_map]
  refine List.map_congr_left fun r _ => ?_
  by_cases hid : r.id = id
  · subst hid
    have hnone := lookup_eq_none.mpr hnew
    simp [updatedEntry, List.lookup_append, hnone, List.lookup]
  · have hother : [(id, classification)].lookup r.id = none :=
      lookup_eq_none.mpr (by simpa using hid)
    simp [updatedEntry, List.lookup_append, hother, hid]

lemma mem_of_lookup {id : RowId} {classification : Classification}
    (h : updates.lookup id = some classification) : (id, classification) ∈ updates := by
  obtain ⟨l₁, l₂, rfl, -⟩ := List.lookup_eq_some_iff.mp h
  exact List.mem_append_right _ List.mem_cons_self

lemma lookup_of_mem (hnodup : (updates.map Prod.fst).Nodup) {u : Update} (hu : u ∈ updates) :
    updates.lookup u.1 = some u.2 := by
  cases hlookup : updates.lookup u.1 with
  | none => exact absurd (List.mem_map_of_mem hu) (lookup_eq_none.mp hlookup)
  | some classification =>
      have := List.inj_on_of_nodup_map hnodup (mem_of_lookup hlookup) hu rfl
      rw [← this]

/-- What is not classified afterwards has not been updated. -/
lemma filter_isNotClassified_updatedTables {agentName virtualhostName : Text}
    (hdecided : ∀ u ∈ updates, u.2 ≠ .unknown) :
    (updatedTables updates t).sessions.rows.filter (isNotClassified agentName virtualhostName)
      = (t.sessions.rows.filter (isNotClassified agentName virtualhostName)).filter
          fun r => r.id ∉ updates.map Prod.fst := by
  rw [updatedTables, Table.update_rows, List.filter_filter]
  induction t.sessions.rows with
  | nil => rfl
  | cons r rows ih =>
      rw [List.map_cons, List.filter_cons, List.filter_cons, ih]
      cases hlookup : updates.lookup r.id with
      | none =>
          have hsame : updatedEntry updates r = r.val := by rw [updatedEntry, hlookup]
          simp [hsame, lookup_eq_none.mp hlookup]
      | some classification =>
          have hupdated : updatedEntry updates r = { r.val with classification } := by
            rw [updatedEntry, hlookup]
          have hmem := mem_of_lookup hlookup
          have hid : r.id ∈ updates.map Prod.fst := List.mem_map_of_mem hmem
          have hne : classification ≠ .unknown := hdecided _ hmem
          simp only [hupdated, isNotClassified, hne, hid]
          simp

/-- A session that is compared is classified. -/
def ComparesClassified (unset : Row SessionEntry) (agentId virtualhostId : RowId) (t : Tables) :
    Prop :=
  ∃ id ∈ comparedIds (learningIds agentId virtualhostId t),
    (sessionRow unset t id).val.classification ≠ .unknown

/-- It stays classified. -/
lemma ComparesClassified.updatedTables {unset : Row SessionEntry} {agentId virtualhostId : RowId}
    (h : ComparesClassified unset agentId virtualhostId t)
    (hdecided : ∀ u ∈ updates, u.2 ≠ .unknown) :
    ComparesClassified unset agentId virtualhostId (updatedTables updates t) := by
  obtain ⟨id, hid, hclassified⟩ := h
  refine ⟨id, hid, ?_⟩
  rw [sessionRow] at hclassified ⊢
  rw [Apache.updatedTables, Table.get?_update]
  cases hv : t.sessions.get? id with
  | none => simpa [hv] using hclassified
  | some v =>
      rw [hv] at hclassified
      show (updatedEntry updates ⟨id, v⟩).classification ≠ .unknown
      rw [updatedEntry]
      cases hlookup : updates.lookup id with
      | none => exact hclassified
      | some classification => exact hdecided _ (mem_of_lookup hlookup)

end Updates

/-! ### The classification of one session -/

section Classified

variable {unset : Row SessionEntry} {agentId virtualhostId : RowId} {t : Tables}

lemma getSessionClassification_eq_unknown_iff {table : NearestNeighboursTable} :
    getSessionClassification table = .unknown ↔ table.nearestNeighbours = [] := by
  rw [getSessionClassification, ← List.length_eq_zero_iff]
  split_ifs with hlength hvotes
  · exact ⟨fun h => (nomatch h), fun h => absurd hlength (by omega)⟩
  · exact ⟨fun h => (nomatch h), fun h => absurd hlength (by omega)⟩
  · exact ⟨fun _ => by omega, fun _ => rfl⟩

lemma add_ne_nil (table : NearestNeighboursTable) (session : Row SessionEntry) :
    (table.add session).nearestNeighbours ≠ [] := by
  rw [NearestNeighboursTable.add]
  by_cases hthere : table.nearestNeighbours.any fun n => n.sessionId = session.id
  · rw [if_pos hthere]
    intro hnil
    simp [hnil] at hthere
  · rw [if_neg hthere]
    refine List.ne_nil_of_length_pos ?_
    dsimp only
    split_ifs with hlong
    · have hsize : numberOfNeighbours = 3 := rfl
      rw [List.length_dropLast]
      omega
    · rw [(Select.orderBy_perm _ _).length_eq, List.length_append, List.length_singleton]
      omega

/-- The table stays empty as long as nothing classified is compared. -/
lemma foldl_compareSession_eq_nil_iff {ids : List RowId} {table : NearestNeighboursTable} :
    (ids.foldl (compareSession unset t) table).nearestNeighbours = [] ↔
      table.nearestNeighbours = [] ∧
        ∀ id ∈ ids, (sessionRow unset t id).val.classification = .unknown := by
  induction ids generalizing table with
  | nil => simp
  | cons id ids ih =>
      rw [List.foldl_cons, ih, List.forall_mem_cons, compareSession]
      split_ifs with hunknown
      · tauto
      · constructor
        · exact fun h => absurd h.1 (add_ne_nil _ _)
        · exact fun h => absurd h.2.1 hunknown

lemma classification_ne_unknown (h : ComparesClassified unset agentId virtualhostId t)
    (session : SessionEntry) :
    getSessionClassification (neighboursTable unset agentId virtualhostId t session)
      ≠ .unknown := by
  obtain ⟨id, hid, hclassified⟩ := h
  rw [Ne, getSessionClassification_eq_unknown_iff, neighboursTable, foldl_compareSession_eq_nil_iff]
  exact fun hunknown => hclassified (hunknown.2 id hid)

lemma classification_eq_unknown (h : ¬ComparesClassified unset agentId virtualhostId t)
    (session : SessionEntry) :
    getSessionClassification (neighboursTable unset agentId virtualhostId t session)
      = .unknown := by
  rw [getSessionClassification_eq_unknown_iff, neighboursTable, foldl_compareSession_eq_nil_iff]
  refine ⟨rfl, fun id hid => ?_⟩
  by_contra hclassified
  exact h ⟨id, hid, hclassified⟩

lemma mem_of_mem_comparedIds {ids : List RowId} {id : RowId} (h : id ∈ comparedIds ids) :
    id ∈ ids := by
  obtain ⟨part, -, hpage⟩ := List.mem_flatMap.mp h
  exact List.mem_of_mem_drop (List.mem_of_mem_take hpage)

/-- What is compared is what the learning set holds, if its sessions are there. -/
lemma comparesClassified_iff
    (hrows : ∀ id ∈ learningIds agentId virtualhostId t, (t.sessions.get? id).isSome) :
    ComparesClassified unset agentId virtualhostId t ↔
      LearningSetClassified agentId virtualhostId t := by
  refine exists_congr fun id => and_congr_right fun hid => ?_
  obtain ⟨v, hv⟩ := Option.isSome_iff_exists.mp (hrows id (mem_of_mem_comparedIds hid))
  rw [sessionRow, hv]
  simp

/-- A session that stays unknown does not change. -/
lemma setClassification_unknown {r : Row SessionEntry} (hr : r ∈ t.sessions.rows)
    (hunknown : r.val.classification = .unknown) : setClassification r.id .unknown t = t := by
  refine congrArg (fun sessions => { t with sessions := sessions }) (Table.ext_rows ?_)
  rw [Table.update_rows]
  conv_rhs => rw [← List.map_id t.sessions.rows]
  refine List.map_congr_left fun q hq => ?_
  split_ifs with hid
  · obtain rfl := Table.row_ext hq hr hid
    rw [← hunknown]
    rfl
  · rfl

end Classified

/-! ### The run -/

section Run

variable {unset : Row SessionEntry} {agentId virtualhostId : RowId} {s : Store}
  {saved : Option Store} {agentName virtualhostName : Text}

/-- The state of a run that has made some updates. -/
abbrev updatedConnection (s : Store) (saved : Option Store) (updates : List Update) :
    Connection Store :=
  ⟨{ s with apache := updatedTables updates s.apache }, saved⟩

/-- What is written down is decided, and reported. -/
structure Decided (recorded : KnnAnalyzerObject × List Update) : Prop where
  decided : ∀ u ∈ recorded.2, u.2 ≠ .unknown
  anomalies : recorded.1.anomalySessionsIds
    = (recorded.2.filter fun u => u.2 = .anomaly).map Prod.fst

lemma exec_analyzeSessionRecorded (unset : Row SessionEntry) (agentId virtualhostId : RowId)
    (recorded : KnnAnalyzerObject × List Update) (session : Row SessionEntry) (c : Connection Store)
    {classification : Classification}
    (hclassification : getSessionClassification (neighboursTable unset agentId virtualhostId
      c.data.apache session.val) = classification) :
    (analyzeSessionRecorded unset agentId virtualhostId
        (learningIds agentId virtualhostId c.data.apache).length recorded session).exec c
      = (.ok (recorded.1.report session.id classification,
            recorded.2 ++ [(session.id, classification)]),
          { c with data := { c.data with
              apache := setClassification session.id classification c.data.apache } }) := by
  rw [analyzeSessionRecorded,
    Prog.exec_bind_ok (exec_neighboursTable unset agentId virtualhostId session.val c)]
  subst hclassification
  exact Prog.exec_bind_ok (exec_writeApache _ c)

/-- **One session** is decided by one update. -/
lemma exec_record (saved : Option Store) {recorded : KnnAnalyzerObject × List Update}
    (hrecorded : Decided recorded)
    (hclassified : ComparesClassified unset agentId virtualhostId s.apache) {r : Row SessionEntry}
    (hnew : r.id ∉ recorded.2.map Prod.fst) :
    ∃ recorded', (analyzeSessionRecorded unset agentId virtualhostId
        (learningIds agentId virtualhostId s.apache).length recorded r).exec
          (updatedConnection s saved recorded.2)
      = (.ok recorded', updatedConnection s saved recorded'.2) ∧ Decided recorded' ∧
        recorded'.2.map Prod.fst = recorded.2.map Prod.fst ++ [r.id] ∧
        updatedTables recorded'.2 s.apache
          = classify unset agentId virtualhostId (updatedTables recorded.2 s.apache) r ∧
        recorded'.1.agentId = recorded.1.agentId ∧
        recorded'.1.virtualhostId = recorded.1.virtualhostId := by
  have hne := classification_ne_unknown (hclassified.updatedTables hrecorded.decided) r.val
  have hrun := exec_analyzeSessionRecorded unset agentId virtualhostId recorded r
    (updatedConnection s saved recorded.2) rfl
  set classification := getSessionClassification (neighboursTable unset agentId virtualhostId
    (updatedTables recorded.2 s.apache) r.val)
  refine ⟨(recorded.1.report r.id classification, recorded.2 ++ [(r.id, classification)]),
    hrun.trans ?_, ⟨fun u hu => ?_, ?_⟩, ?_, (setClassification_updatedTables hnew _).symm, ?_⟩
  · rw [setClassification_updatedTables hnew]
  · rcases List.mem_append.mp hu with hu | hu
    · exact hrecorded.decided u hu
    · rwa [List.mem_singleton.mp hu]
  · rw [List.filter_append, List.map_append, ← hrecorded.anomalies, KnnAnalyzerObject.report]
    split_ifs with hanomaly
    · simp [hanomaly]
    · simp [hanomaly]
  · rw [List.map_append]
    rfl
  · rw [KnnAnalyzerObject.report]
    split_ifs <;> exact ⟨rfl, rfl⟩

/-- Sessions one after another. -/
lemma exec_recordAll (saved : Option Store)
    (hclassified : ComparesClassified unset agentId virtualhostId s.apache)
    (rs : List (Row SessionEntry)) {recorded : KnnAnalyzerObject × List Update}
    (hrecorded : Decided recorded) (hnodup : (recorded.2.map Prod.fst ++ rs.map (·.id)).Nodup) :
    ∃ recorded', (rs.foldlM (analyzeSessionRecorded unset agentId virtualhostId
        (learningIds agentId virtualhostId s.apache).length) recorded).exec
          (updatedConnection s saved recorded.2)
      = (.ok recorded', updatedConnection s saved recorded'.2) ∧ Decided recorded' ∧
        recorded'.2.map Prod.fst = recorded.2.map Prod.fst ++ rs.map (·.id) ∧
        updatedTables recorded'.2 s.apache
          = rs.foldl (classify unset agentId virtualhostId) (updatedTables recorded.2 s.apache) ∧
        recorded'.1.agentId = recorded.1.agentId ∧
        recorded'.1.virtualhostId = recorded.1.virtualhostId := by
  induction rs generalizing recorded with
  | nil => exact ⟨recorded, rfl, hrecorded, by simp, rfl, rfl, rfl⟩
  | cons r rs ih =>
      have hnew : r.id ∉ recorded.2.map Prod.fst := fun h =>
        (List.nodup_append.mp hnodup).2.2 _ h _ List.mem_cons_self rfl
      obtain ⟨recorded₁, hrun, hdecided, hids, htables, hagent, hvirtualhost⟩ :=
        exec_record saved hrecorded hclassified hnew
      have hrest : (recorded₁.2.map Prod.fst ++ rs.map (·.id)).Nodup := by
        rwa [hids, List.append_assoc, List.singleton_append]
      obtain ⟨recorded₂, hruns, hdecided', hids', htables', hagent', hvirtualhost'⟩ :=
        ih hdecided hrest
      refine ⟨recorded₂, by rw [List.foldlM_cons, Prog.exec_bind_ok hrun, hruns], hdecided', ?_, ?_,
        hagent'.trans hagent, hvirtualhost'.trans hvirtualhost⟩
      · rw [hids', hids, List.append_assoc]
        rfl
      · rw [htables', htables, List.foldl_cons]

/-- The sessions of the agent and the virtualhost that are not classified. -/
def notClassifiedRows (agentName virtualhostName : Text) (t : Tables) : List (Row SessionEntry) :=
  t.sessions.rows.filter (isNotClassified agentName virtualhostName)

lemma nodup_notClassifiedRows (agentName virtualhostName : Text) (t : Tables) :
    ((notClassifiedRows agentName virtualhostName t).map (·.id)).Nodup :=
  (List.filter_sublist.map _).nodup t.sessions.nodup_ids

/-- A page. -/
lemma exec_getNotClassifiedSessionStatistics {c : Connection Store}
    (hagent : c.data.agentNames.get? agentId = some agentName)
    (hvirtualhost : c.data.apache.virtualhostsNames.get? virtualhostId = some virtualhostName)
    (limit : ℕ) : (getNotClassifiedSessionStatistics agentId virtualhostId limit 0).exec c
      = (.ok ((notClassifiedRows agentName virtualhostName c.data.apache).take limit), c) := by
  rw [getNotClassifiedSessionStatistics, Prog.exec_bind_ok (exec_getAgentNameById c hagent),
    getVirtualhostNameById, Prog.exec_bind_ok (exec_queryFirst c hvirtualhost)]
  exact exec_query c _

lemma exec_getNotClassifiedSessionsStatisticsCount {c : Connection Store}
    (hagent : c.data.agentNames.get? agentId = some agentName)
    (hvirtualhost : c.data.apache.virtualhostsNames.get? virtualhostId = some virtualhostName) :
    (getNotClassifiedSessionsStatisticsCount agentId virtualhostId).exec c
      = (.ok (notClassifiedRows agentName virtualhostName c.data.apache).length, c) := by
  rw [getNotClassifiedSessionsStatisticsCount, Prog.exec_bind_ok (exec_getAgentNameById c hagent),
    getVirtualhostNameById, Prog.exec_bind_ok (exec_queryFirst c hvirtualhost), exec_query,
    List.countP_eq_length_filter]
  rfl

/-- The sessions that are left when those before them have been decided. -/
lemma notClassifiedRows_updatedTables {updates : List Update} {taken rest : List (Row SessionEntry)}
    (hdecided : ∀ u ∈ updates, u.2 ≠ .unknown) (hids : updates.map Prod.fst = taken.map (·.id))
    (htaken : taken ++ rest = notClassifiedRows agentName virtualhostName s.apache) :
    notClassifiedRows agentName virtualhostName (updatedTables updates s.apache) = rest := by
  have hnodup := nodup_notClassifiedRows agentName virtualhostName s.apache
  rw [← htaken, List.map_append, List.nodup_append] at hnodup
  rw [notClassifiedRows,
    filter_isNotClassified_updatedTables hdecided, ← notClassifiedRows, ← htaken,
    hids, List.filter_append, List.filter_eq_nil_iff.mpr fun r hr => ?_, List.nil_append,
    List.filter_eq_self.mpr fun r hr => ?_]
  · exact decide_eq_true fun hmem => hnodup.2.2 _ hmem _ (List.mem_map_of_mem hr) rfl
  · simpa using ⟨r, hr, rfl⟩

/-- One page and the rest: what has been decided, and what is still to come. -/
structure RecordedUpTo (unset : Row SessionEntry) (agentId virtualhostId : RowId) (s : Store)
    (saved : Option Store) (all rest : List (Row SessionEntry))
    (recorded : KnnAnalyzerObject × List Update) (c : Connection Store) : Prop where
  taken : ∃ taken, taken ++ rest = all ∧ recorded.2.map Prod.fst = taken.map (·.id) ∧
    updatedTables recorded.2 s.apache = taken.foldl (classify unset agentId virtualhostId) s.apache
  decided : Decided recorded
  connection : c = updatedConnection s saved recorded.2
  reported : rest = all ∨ (recorded.1.agentId = agentId ∧ recorded.1.virtualhostId = virtualhostId)

/-- **One page.** -/
lemma exec_analyzeSessionsRecorded
    (hagent : s.agentNames.get? agentId = some agentName)
    (hvirtualhost : s.apache.virtualhostsNames.get? virtualhostId = some virtualhostName)
    (hclassified : ComparesClassified unset agentId virtualhostId s.apache) (limit : ℕ)
    {rest : List (Row SessionEntry)} {recorded : KnnAnalyzerObject × List Update}
    {c : Connection Store} (h : RecordedUpTo unset agentId virtualhostId s saved
      (notClassifiedRows agentName virtualhostName s.apache) rest recorded c) :
    ∃ recorded' c', (analyzeSessionsRecorded unset agentId virtualhostId limit recorded).exec c
      = (.ok recorded', c') ∧ RecordedUpTo unset agentId virtualhostId s saved
        (notClassifiedRows agentName virtualhostName s.apache) (rest.drop limit) recorded' c' := by
  obtain ⟨⟨taken, htaken, hids, htables⟩, hdecided, rfl, -⟩ := h
  have hpage := exec_getNotClassifiedSessionStatistics (c := updatedConnection s saved recorded.2)
    hagent hvirtualhost limit
  rw [notClassifiedRows_updatedTables hdecided.decided hids htaken] at hpage
  have hnodup : (recorded.2.map Prod.fst ++ (rest.take limit).map (·.id)).Nodup := by
    have hall := nodup_notClassifiedRows agentName virtualhostName s.apache
    rw [← htaken, List.map_append] at hall
    rw [hids]
    exact hall.sublist (((List.take_sublist limit rest).map _).append_left _)
  have hstart : Decided ({ recorded.1 with agentId := agentId, virtualhostId := virtualhostId },
      recorded.2) := ⟨hdecided.decided, hdecided.anomalies⟩
  obtain ⟨recorded', hrun, hdecided', hids', htables', hreported⟩ :=
    exec_recordAll saved hclassified
    (rest.take limit) hstart hnodup
  refine ⟨recorded', _, ?_, ⟨taken ++ rest.take limit, ?_, ?_, ?_⟩, hdecided', rfl, .inr hreported⟩
  · rw [analyzeSessionsRecorded, Prog.exec_bind_ok hpage, getLearningSessionsCount]
    exact (Prog.exec_bind_ok (exec_query _ _)).trans hrun
  · rw [List.append_assoc, List.take_append_drop, htaken]
  · rw [hids', hids, List.map_append]
  · rw [htables', htables, List.foldl_append]

/-- All pages. -/
lemma exec_analyzeVirtualhostRecorded {c : Connection Store} (isAnomalyDetected : Bool)
    (hagent : c.data.agentNames.get? agentId = some agentName)
    (hvirtualhost : c.data.apache.virtualhostsNames.get? virtualhostId = some virtualhostName)
    (hclassified : ComparesClassified unset agentId virtualhostId c.data.apache) :
    ∃ recorded c', (analyzeVirtualhostRecorded unset agentId virtualhostId isAnomalyDetected).exec c
      = (.ok recorded, c') ∧ RecordedUpTo unset agentId virtualhostId c.data c.saved
        (notClassifiedRows agentName virtualhostName c.data.apache) [] recorded c' := by
  rw [analyzeVirtualhostRecorded,
    Prog.exec_bind_ok (exec_getNotClassifiedSessionsStatisticsCount hagent hvirtualhost)]
  refine exec_runPartially (I := RecordedUpTo unset agentId virtualhostId c.data c.saved
      (notClassifiedRows agentName virtualhostName c.data.apache))
    (fun limit _ rest recorded c' _ h =>
      exec_analyzeSessionsRecorded hagent hvirtualhost hclassified limit h) 100 ?_
  refine ⟨⟨[], rfl, rfl, updatedTables_nil _⟩, ⟨fun u hu => absurd hu List.not_mem_nil, rfl⟩, ?_,
    .inl rfl⟩
  rw [updatedConnection, updatedTables_nil]

/-- What has been recorded in the end covers the sessions. -/
lemma RecordedUpTo.coveredBy {recorded : KnnAnalyzerObject × List Update} {c : Connection Store}
    (h : RecordedUpTo unset agentId virtualhostId s saved
      (notClassifiedRows agentName virtualhostName s.apache) [] recorded c) :
    CoveredBy agentName virtualhostName s recorded.1 recorded.2 c.data := by
  obtain ⟨⟨taken, htaken, hids, -⟩, hdecided, rfl, -⟩ := h
  rw [List.append_nil] at htaken
  subst htaken
  have hnodup : (recorded.2.map Prod.fst).Nodup := hids ▸ nodup_notClassifiedRows _ _ _
  refine ⟨hnodup, fun id => ?_, fun u hu => ?_, rfl, ?_, fun id => ?_⟩
  · rw [hids, List.mem_map]
    constructor
    · rintro ⟨r, hr, rfl⟩
      exact ⟨r, (List.mem_filter.mp hr).1, rfl, (List.mem_filter.mp hr).2⟩
    · rintro ⟨r, hr, rfl, hpass⟩
      exact ⟨r, List.mem_filter.mpr ⟨hr, hpass⟩, rfl⟩
  · have hne := hdecided.decided u hu
    cases hclassification : u.2 with
    | unknown => exact absurd hclassification hne
    | normal => exact .inl rfl
    | anomaly => exact .inr rfl
  · rw [hdecided.anomalies]
    exact (List.filter_sublist.map _).nodup hnodup
  · rw [hdecided.anomalies, List.mem_map]
    constructor
    · rintro ⟨⟨id, classification⟩, hu, rfl⟩
      obtain ⟨hu, hanomaly⟩ := List.mem_filter.mp hu
      obtain rfl : classification = .anomaly := of_decide_eq_true hanomaly
      exact hu
    · exact fun hu => ⟨_, List.mem_filter.mpr ⟨hu, decide_eq_true rfl⟩, rfl⟩

/-- Where nothing compared is classified, a round changes nothing. -/
lemma classify_unclassified {t : Tables} (hnone : ¬ComparesClassified unset agentId virtualhostId t)
    {r : Row SessionEntry} (hr : r ∈ notClassifiedRows agentName virtualhostName t) :
    classify unset agentId virtualhostId t r = t := by
  obtain ⟨hr, hpass⟩ := List.mem_filter.mp hr
  have hunknown : r.val.classification = .unknown := by
    simp only [isNotClassified, Bool.and_eq_true, decide_eq_true_eq] at hpass
    exact hpass.2
  rw [classify, classification_eq_unknown hnone, setClassification_unknown hr hunknown]

/-- A session is recorded as unknown then. -/
lemma exec_analyzeSessionRecorded_unclassified {c : Connection Store}
    (hnone : ¬ComparesClassified unset agentId virtualhostId c.data.apache)
    {r : Row SessionEntry} (hr : r ∈ notClassifiedRows agentName virtualhostName c.data.apache)
    (recorded : KnnAnalyzerObject × List Update) :
    (analyzeSessionRecorded unset agentId virtualhostId
        (learningIds agentId virtualhostId c.data.apache).length recorded r).exec c
      = (.ok (recorded.1, recorded.2 ++ [(r.id, .unknown)]), c) := by
  have hrun := exec_analyzeSessionRecorded unset agentId virtualhostId recorded r c
    (classification_eq_unknown hnone r.val)
  have hsame := classify_unclassified hnone hr
  rw [classify, classification_eq_unknown hnone] at hsame
  rw [hrun, hsame]
  rfl

/-- A page of them. -/
lemma exec_analyzeSessionsRecorded_unclassified {c : Connection Store}
    (hagent : c.data.agentNames.get? agentId = some agentName)
    (hvirtualhost : c.data.apache.virtualhostsNames.get? virtualhostId = some virtualhostName)
    (hnone : ¬ComparesClassified unset agentId virtualhostId c.data.apache) (limit : ℕ)
    {recorded : KnnAnalyzerObject × List Update} (hrecorded : recorded.1.anomalySessionsIds = []) :
    ∃ recorded', (analyzeSessionsRecorded unset agentId virtualhostId limit recorded).exec c
      = (.ok recorded', c) ∧ recorded'.1.anomalySessionsIds = [] ∧
        recorded'.1.agentId = agentId ∧ recorded'.1.virtualhostId = virtualhostId := by
  set page := (notClassifiedRows agentName virtualhostName c.data.apache).take limit with hpage
  obtain ⟨recorded', c', hrun, rfl, hrecorded'⟩ := Prog.exec_foldlM page
    (analyzeSessionRecorded unset agentId virtualhostId
      (learningIds agentId virtualhostId c.data.apache).length)
    (fun _ recorded' c' => c' = c ∧ recorded'.1.anomalySessionsIds = [] ∧
      recorded'.1.agentId = agentId ∧ recorded'.1.virtualhostId = virtualhostId)
    (by
      rintro done r hearlier recorded' c' ⟨rfl, hrecorded'⟩
      have hmem := List.mem_of_mem_take (hearlier.subset (by simp : r ∈ done ++ [r]))
      exact ⟨_, c', exec_analyzeSessionRecorded_unclassified hnone hmem recorded', rfl, hrecorded'⟩)
    (b := ({ recorded.1 with agentId := agentId, virtualhostId := virtualhostId }, recorded.2))
    (s := c) ⟨rfl, hrecorded, rfl, rfl⟩
  refine ⟨recorded', ?_, hrecorded'⟩
  rw [analyzeSessionsRecorded,
    Prog.exec_bind_ok (exec_getNotClassifiedSessionStatistics hagent hvirtualhost limit),
    getLearningSessionsCount]
  exact (Prog.exec_bind_ok (exec_query _ _)).trans hrun

/-- Without a classified session to compare with, pages are asked for in vain. -/
lemma exec_analyzeVirtualhostRecorded_unclassified {c : Connection Store} (isAnomalyDetected : Bool)
    (hagent : c.data.agentNames.get? agentId = some agentName)
    (hvirtualhost : c.data.apache.virtualhostsNames.get? virtualhostId = some virtualhostName)
    (hnone : ¬ComparesClassified unset agentId virtualhostId c.data.apache) :
    ∃ recorded, (analyzeVirtualhostRecorded unset agentId virtualhostId isAnomalyDetected).exec c
      = (.ok recorded, c) ∧ recorded.1.anomalySessionsIds = [] ∧
        (notClassifiedRows agentName virtualhostName c.data.apache ≠ [] →
          recorded.1.agentId = agentId ∧ recorded.1.virtualhostId = virtualhostId) := by
  set all := notClassifiedRows agentName virtualhostName c.data.apache with hall
  rw [analyzeVirtualhostRecorded,
    Prog.exec_bind_ok (exec_getNotClassifiedSessionsStatisticsCount hagent hvirtualhost)]
  obtain ⟨recorded, _, hrun, rfl, hrecorded, hreported⟩ := exec_runPartially
    (f := fun recorded partCount _ =>
      analyzeSessionsRecorded unset agentId virtualhostId partCount recorded)
    (I := fun rest recorded c' => c' = c ∧ recorded.1.anomalySessionsIds = [] ∧
      (rest = all ∨ (recorded.1.agentId = agentId ∧ recorded.1.virtualhostId = virtualhostId)))
    (fun limit _ _ recorded c' _ h => by
      obtain ⟨rfl, hrecorded, -⟩ := h
      obtain ⟨recorded', hrun, hrecorded', hreported⟩ :=
        exec_analyzeSessionsRecorded_unclassified hagent hvirtualhost hnone limit hrecorded
      exact ⟨recorded', c', hrun, rfl, hrecorded', .inr hreported⟩) 100
    (a := (⟨isAnomalyDetected, 0, 0, []⟩, [])) ⟨rfl, rfl, .inl rfl⟩
  refine ⟨recorded, hrun, hrecorded, fun hne => ?_⟩
  exact hreported.resolve_left fun h => hne h.symm

end Run

/-! ### One virtualhost -/

/-- What a pass over a virtualhost does. -/
structure Passed (unset : Row SessionEntry) (agentId virtualhostId : RowId)
    (agentName virtualhostName : Text) (isAnomalyDetected : Bool) (c : Connection Store)
    (o : KnnAnalyzerObject) (updates : List Update) (c' : Connection Store) : Prop where
  source : (analyzeVirtualhost unset agentId virtualhostId isAnomalyDetected).exec c = (.ok o, c')
  recorded : (analyzeVirtualhostRecorded unset agentId virtualhostId isAnomalyDetected).exec c
    = (.ok (o, updates), c')
  connection : c' = { c with data := { c.data with
    apache := (notClassifiedRows agentName virtualhostName c.data.apache).foldl
      (classify unset agentId virtualhostId) c.data.apache } }
  classified : ComparesClassified unset agentId virtualhostId c.data.apache →
    CoveredBy agentName virtualhostName c.data o updates c'.data
  unclassified : ¬ComparesClassified unset agentId virtualhostId c.data.apache →
    c' = c ∧ o.anomalySessionsIds = []
  reported : notClassifiedRows agentName virtualhostName c.data.apache ≠ [] →
    o.agentId = agentId ∧ o.virtualhostId = virtualhostId

section Passed

variable (unset : Row SessionEntry) {agentId virtualhostId : RowId} (isAnomalyDetected : Bool)
  {c : Connection Store} {agentName virtualhostName : Text}
  (hagent : c.data.agentNames.get? agentId = some agentName)
  (hvirtualhost : c.data.apache.virtualhostsNames.get? virtualhostId = some virtualhostName)
include hagent hvirtualhost

/-- **Every pass over a virtualhost ends.** -/
lemma exists_passed : ∃ o updates c', Passed unset agentId virtualhostId agentName virtualhostName
    isAnomalyDetected c o updates c' := by
  by_cases hclassified : ComparesClassified unset agentId virtualhostId c.data.apache
  · obtain ⟨recorded, c', hrun, hrecorded⟩ :=
      exec_analyzeVirtualhostRecorded isAnomalyDetected hagent
      hvirtualhost hclassified
    have hsource := Prog.exec_map hrun Prod.fst
    rw [fst_analyzeVirtualhostRecorded] at hsource
    refine ⟨recorded.1, recorded.2, c', hsource, hrun, ?_, fun _ => hrecorded.coveredBy,
      fun h => absurd hclassified h, fun hne => hrecorded.reported.resolve_left fun h => hne h.symm⟩
    obtain ⟨⟨taken, htaken, -, htables⟩, -, rfl, -⟩ := hrecorded
    rw [List.append_nil] at htaken
    rw [updatedConnection, htables, htaken]
  · obtain ⟨recorded, hrun, hrecorded, hreported⟩ := exec_analyzeVirtualhostRecorded_unclassified
      isAnomalyDetected hagent hvirtualhost hclassified
    have hsource := Prog.exec_map hrun Prod.fst
    rw [fst_analyzeVirtualhostRecorded] at hsource
    have hsame : (notClassifiedRows agentName virtualhostName c.data.apache).foldl
        (classify unset agentId virtualhostId) c.data.apache = c.data.apache :=
      List.foldlRecOn (motive := fun t => t = c.data.apache) _ _ rfl
        fun t ht r hr => by rw [ht, classify_unclassified hclassified hr]
    refine ⟨recorded.1, recorded.2, c, hsource, hrun, ?_, fun h => absurd h hclassified,
      fun _ => ⟨rfl, hrecorded⟩, hreported⟩
    rw [hsame]

/-- A virtualhost without sessions that are not classified is not reported. -/
lemma exec_analyzeVirtualhost_nil
    (hnil : notClassifiedRows agentName virtualhostName c.data.apache = []) :
    (analyzeVirtualhost unset agentId virtualhostId isAnomalyDetected).exec c
      = (.ok ⟨isAnomalyDetected, 0, 0, []⟩, c) := by
  rw [analyzeVirtualhost,
    Prog.exec_bind_ok (exec_getNotClassifiedSessionsStatisticsCount hagent hvirtualhost), hnil]
  rfl

end Passed

/-- **The pass over a virtualhost.** It ends; if a row of the learning set that is
read is classified, every session is covered, and otherwise nothing changes. The updates
are written down by a program that is the source without them. -/
theorem knn_coverage (unset : Row SessionEntry) (agentId virtualhostId : RowId)
    (isAnomalyDetected : Bool) {c : Connection Store} {agentName virtualhostName : Text}
    (hagent : c.data.agentNames.get? agentId = some agentName)
    (hvirtualhost : c.data.apache.virtualhostsNames.get? virtualhostId = some virtualhostName)
    (hrows : ∀ id ∈ learningIds agentId virtualhostId c.data.apache,
      (c.data.apache.sessions.get? id).isSome) :
    Prod.fst <$> analyzeVirtualhostRecorded unset agentId virtualhostId isAnomalyDetected
      = analyzeVirtualhost unset agentId virtualhostId isAnomalyDetected ∧
    ∃ o updates c', (analyzeVirtualhost unset agentId virtualhostId isAnomalyDetected).exec c
        = (.ok o, c') ∧
      (analyzeVirtualhostRecorded unset agentId virtualhostId isAnomalyDetected).exec c
        = (.ok (o, updates), c') ∧ c'.saved = c.saved ∧
      (LearningSetClassified agentId virtualhostId c.data.apache →
        CoveredBy agentName virtualhostName c.data o updates c'.data) ∧
      (¬LearningSetClassified agentId virtualhostId c.data.apache →
        c' = c ∧ o.anomalySessionsIds = []) := by
  obtain ⟨o, updates, c', h⟩ := exists_passed unset isAnomalyDetected hagent hvirtualhost
  refine ⟨fst_analyzeVirtualhostRecorded isAnomalyDetected, o, updates, c', h.source, h.recorded,
    by rw [h.connection], fun hclassified => ?_, fun hnone => ?_⟩
  · exact h.classified ((comparesClassified_iff hrows).mpr hclassified)
  · exact h.unclassified fun hclassified => hnone ((comparesClassified_iff hrows).mp hclassified)

/-- A session whose learning set is classified. -/
theorem knn_coverage_crowd : ∃ o updates c',
    (analyzeVirtualhost newcomer 1 1 false).exec ⟨crowd 1, none⟩ = (.ok o, c') ∧
      CoveredBy ⟨[97], by decide⟩ ⟨[118], by decide⟩ (crowd 1) o updates c'.data := by
  have hagent : (crowd 1).agentNames.get? 1 = some ⟨[97], by decide⟩ := by decide +kernel
  have hvirtualhost : (crowd 1).apache.virtualhostsNames.get? 1 = some ⟨[118], by decide⟩ := by
    decide +kernel
  have hrows : ∀ id ∈ learningIds 1 1 (crowd 1).apache,
      ((crowd 1).apache.sessions.get? id).isSome := by
    decide +kernel
  have hclassified : LearningSetClassified 1 1 (crowd 1).apache :=
    ⟨2, by decide +kernel, sessionOfLength 10 .normal, by decide +kernel, by decide +kernel⟩
  obtain ⟨-, o, updates, c', hrun, -, -, hcovered, -⟩ := knn_coverage newcomer 1 1 false
    (c := ⟨crowd 1, none⟩) hagent hvirtualhost hrows
  exact ⟨o, updates, c', hrun, hcovered hclassified⟩

end Slas.Apache
