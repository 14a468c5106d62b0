import Mathlib
import Slas.Apache.KnnCoverage
import Slas.Apache.PrepareStatistics

/-!
What an analysis reports: `KnnAnalyzerObject::Analyze` of
`server/src/apache/analyzer/detail/knn_analyzer_object.cpp` and
`ApacheNotifierMessage::GetDetectionResults` of
`server/src/apache/notifier/type/apache_notifier_message.cpp`.

* `analyze`, `getDetectionResults`: the source; the text is the list of its
  pieces;
* `ResultsReported`: the text is there and has the entry of every new anomaly;
* `results_reported_iff`: it is so exactly if the state is `Reportable`.

The message starts anew for every virtualhost, and a virtualhost without sessions
that are not classified has no names.
-/

namespace Slas.Apache

open Database

/-! ### The analysis -/

/-- `KnnVirtualhostAnalyzeStatistics`. -/
structure KnnVirtualhostAnalyzeStatistics where
  agentId : RowId
  virtualhostId : RowId
  anomalySessionsIds : List RowId

/-- The body of the loops of `KnnAnalyzerObject::Analyze`. -/
def analyzeNamed (unset : Row SessionEntry) (agentName : Text)
    (result : Bool × List KnnVirtualhostAnalyzeStatistics) (virtualhostName : Text) :
    DatabaseM (Bool × List KnnVirtualhostAnalyzeStatistics) := do
  let agentId ← getAgentNameId agentName
  let virtualhostId ← getVirtualhostNameId virtualhostName
  let o ← analyzeVirtualhost unset agentId virtualhostId result.1
  pure (o.isAnomalyDetected, result.2 ++ [⟨o.agentId, o.virtualhostId, o.anomalySessionsIds⟩])

/-- `KnnAnalyzerObject::Analyze`, with `IsAnomalyDetected` and
`GetAnalyzeSummary`. -/
def analyze (order : NamesOrder) (unset : Row SessionEntry) :
    DatabaseM (Bool × List KnnVirtualhostAnalyzeStatistics) := do
  let agentNames ← getAgentNames order
  agentNames.foldlM (fun result agentName => do
    let virtualhostNames ← getVirtualhostNames order agentName
    virtualhostNames.foldlM (analyzeNamed unset agentName) result) (false, [])

/-! ### The message -/

/-- What is put behind a label. -/
inductive Value where
  | nothing
  | text (t : Text)
  | number (n : ℤ)
  | real (q : ℚ)
  | time (t : Timestamp)
  deriving DecidableEq

/-- A text of the source and the value behind it. -/
structure Piece where
  label : String
  value : Value
  deriving DecidableEq

/-- A line of an entry. -/
def line (label : String) (value : Value) : List Piece := [⟨label, value⟩, ⟨"\r\n", .nothing⟩]

/-- The rule above and below an entry. -/
def dots : List Piece :=
  [⟨"    ...........................................................................\r\n",
    .nothing⟩]

/-- The entry of a session. -/
def sessionText (id : RowId) (s : SessionEntry) : List Piece :=
  dots ++ line "    ID:                      " (.number id) ++
    line "    IP:                      " (.text s.clientIp) ++
    line "    Session start:           " (.time s.sessionStart) ++
    line "    Session length (s):      " (.number s.sessionLength) ++
    line "    Bandwidth usage (bytes): " (.number s.bandwidthUsage) ++
    line "    Requests count:          " (.number s.requestsCount) ++
    line "    Error requests (%):      " (.real s.errorPercentage) ++
    line "    User-Agent:              " (.text s.useragent) ++ dots ++ [⟨"\r\n", .nothing⟩]

/-- The head of the results of a virtualhost. -/
def resultsHead (agentName virtualhostName : Text) (count : ℕ) : List Piece :=
  [⟨"Results for agent ", .text agentName⟩, ⟨" and virtualhost ", .text virtualhostName⟩,
    ⟨"\r\n  Found ", .number count⟩,
    ⟨" anomalies. \r\n  Sessions marked as anomalies: \r\n\r\n", .nothing⟩]

/-- The rule below the results of a virtualhost. -/
def resultsFoot : List Piece :=
  [⟨"--------------------------------------------------------------------------------\r\n\r\n",
    .nothing⟩]

/-- The body of the loop of `ApacheNotifierMessage::GetDetectionResults`. The
results of the virtualhosts before are dropped. -/
def describeVirtualhost (unset : Row SessionEntry) (_ : List Piece)
    (stats : KnnVirtualhostAnalyzeStatistics) : DatabaseM (List Piece) := do
  let agentName ← getAgentNameById stats.agentId
  let virtualhostName ← getVirtualhostNameById stats.virtualhostId
  let results := resultsHead agentName virtualhostName stats.anomalySessionsIds.length
  let results ← stats.anomalySessionsIds.foldlM (fun results i => do
    let s ← getOneSessionStatistic unset i
    pure (results ++ sessionText i s.val)) results
  pure (results ++ resultsFoot)

/-- `ApacheNotifierMessage::GetDetectionResults`. -/
def getDetectionResults (unset : Row SessionEntry)
    (summary : List KnnVirtualhostAnalyzeStatistics) : DatabaseM (List Piece) :=
  summary.foldlM (describeVirtualhost unset) []

/-! ### What should be reported -/

/-- The virtualhosts of an agent, in the order of the analysis. -/
def virtualhostsOf (order : NamesOrder) (t : Tables) (agentName : Text) : List (Text × Text) :=
  (order.virtualhostNames t.logs agentName).map fun virtualhostName => (agentName, virtualhostName)

/-- All virtualhosts, in the order of the analysis. -/
def virtualhosts (order : NamesOrder) (t : Tables) : List (Text × Text) :=
  (order.agentNames t.logs).flatMap (virtualhostsOf order t)

/-- The text can be made, and has the entry of every session that was not
classified and now is an anomaly. -/
def ResultsReported (unset : Row SessionEntry) (c : Connection Store)
    (summary : List KnnVirtualhostAnalyzeStatistics) (c' : Connection Store) : Prop :=
  ∃ text, (getDetectionResults unset summary).exec c' = (.ok text, c') ∧
    ∀ id v v', c.data.apache.sessions.get? id = some v → v.classification = .unknown →
      c'.data.apache.sessions.get? id = some v' → v'.classification = .anomaly →
        sessionText id v' <:+: text

/-- The tables after a pass over a virtualhost. -/
def passTables (unset : Row SessionEntry) (s : Store) (t : Tables) (p : Text × Text) : Tables :=
  (notClassifiedRows p.1 p.2 t).foldl
    (classify unset ((s.agentNames.idOf? p.1).getD (-1))
      ((s.apache.virtualhostsNames.idOf? p.2).getD (-1))) t

/-- The tables after passes over some virtualhosts. -/
def tablesAfter (unset : Row SessionEntry) (s : Store) (ps : List (Text × Text)) : Tables :=
  ps.foldl (passTables unset s) s.apache

/-- Every virtualhost has a session that is not classified, and no session of a
virtualhost before the last becomes an anomaly. -/
structure Reportable (order : NamesOrder) (unset : Row SessionEntry) (s : Store) : Prop where
  sessions : ∀ p ∈ virtualhosts order s.apache, notClassifiedRows p.1 p.2 s.apache ≠ []
  last : ∀ p ∈ (virtualhosts order s.apache).dropLast, ∀ r ∈ notClassifiedRows p.1 p.2 s.apache,
    ((tablesAfter unset s (virtualhosts order s.apache)).sessions.get? r.id).map (·.classification)
      ≠ some .anomaly

/-! ### What a pass leaves alone -/

/-- A session belongs to one virtualhost. -/
lemma eq_of_mem_notClassifiedRows {t : Tables} {p q : Text × Text} {r : Row SessionEntry}
    (hp : r ∈ notClassifiedRows p.1 p.2 t)
    (hq : r.id ∈ (notClassifiedRows q.1 q.2 t).map (·.id)) : p = q := by
  obtain ⟨r', hr', hrow⟩ := List.mem_map.mp hq
  obtain ⟨hr, hpass⟩ := List.mem_filter.mp hp
  obtain ⟨hr', hpass'⟩ := List.mem_filter.mp hr'
  obtain rfl := Table.row_ext hr' hr hrow
  simp only [isNotClassified, Bool.and_eq_true, decide_eq_true_eq] at hpass hpass'
  exact Prod.ext (hpass.1.1.symm.trans hpass'.1.1) (hpass.1.2.symm.trans hpass'.1.2)

section Passed

variable {unset : Row SessionEntry} {agentId virtualhostId : RowId}
  {agentName virtualhostName : Text}
  {isAnomalyDetected : Bool} {c c' : Connection Store} {o : KnnAnalyzerObject}
    {updates : List Update}

/-- Only sessions are written. -/
lemma foldl_classify_eq (rs : List (Row SessionEntry)) (t : Tables) :
    rs.foldl (classify unset agentId virtualhostId) t
      = { t with sessions := (rs.foldl (classify unset agentId virtualhostId) t).sessions } := by
  induction rs generalizing t with
  | nil => rfl
  | cons r rs ih => exact ih (classify unset agentId virtualhostId t r)

variable (h : Passed unset agentId virtualhostId agentName virtualhostName isAnomalyDetected c
  o updates
  c')
include h

lemma Passed.get?_of_notMem {id : RowId}
    (hid : id ∉ (notClassifiedRows agentName virtualhostName c.data.apache).map (·.id)) :
    c'.data.apache.sessions.get? id = c.data.apache.sessions.get? id := by
  rw [h.connection]
  exact get?_foldl_classify unset hid c.data.apache

/-- The sessions that are reported are those of the virtualhost that are now
anomalies. -/
lemma Passed.mem_anomalySessionsIds {id : RowId} : id ∈ o.anomalySessionsIds ↔
    id ∈ (notClassifiedRows agentName virtualhostName c.data.apache).map (·.id) ∧
      (c'.data.apache.sessions.get? id).map (·.classification) = some .anomaly := by
  by_cases hclassified : ComparesClassified unset agentId virtualhostId c.data.apache
  · obtain ⟨honce, hall, -, hsessions, -, hanomalies⟩ := h.classified hclassified
    have hids : id ∈ updates.map Prod.fst ↔
        id ∈ (notClassifiedRows agentName virtualhostName c.data.apache).map (·.id) := by
      rw [hall, List.mem_map]
      constructor
      · rintro ⟨r, hr, hid, hpass⟩
        exact ⟨r, List.mem_filter.mpr ⟨hr, hpass⟩, hid⟩
      · rintro ⟨r, hr, hid⟩
        exact ⟨r, (List.mem_filter.mp hr).1, hid, (List.mem_filter.mp hr).2⟩
    rw [hanomalies, ← hids, hsessions]
    have hupdated : (updatedTables updates c.data.apache).sessions.get? id
        = (c.data.apache.sessions.get? id).map fun v => updatedEntry updates ⟨id, v⟩ :=
      Table.get?_update _ _ _
    dsimp only
    rw [hupdated]
    constructor
    · intro hmem
      have hid : id ∈ updates.map Prod.fst := List.mem_map_of_mem hmem
      obtain ⟨r, hr, rfl, -⟩ := (hall id).mp hid
      refine ⟨hid, ?_⟩
      have hlookup : updates.lookup r.id = some .anomaly := lookup_of_mem honce hmem
      rw [Table.get?_eq_some.mpr hr]
      simp [updatedEntry, hlookup]
    · rintro ⟨hid, hanomaly⟩
      obtain ⟨r, hr, rfl, -⟩ := (hall id).mp hid
      rw [Table.get?_eq_some.mpr hr] at hanomaly
      cases hlookup : updates.lookup r.id with
      | none => exact absurd hid (lookup_eq_none.mp hlookup)
      | some classification =>
          simp [updatedEntry, hlookup] at hanomaly
          exact hanomaly ▸ mem_of_lookup hlookup
  · obtain ⟨rfl, hnil⟩ := h.unclassified hclassified
    rw [hnil]
    refine ⟨fun hid => absurd hid List.not_mem_nil, ?_⟩
    rintro ⟨hid, hanomaly⟩
    obtain ⟨r, hr, rfl⟩ := List.mem_map.mp hid
    obtain ⟨hr, hpass⟩ := List.mem_filter.mp hr
    simp only [isNotClassified, Bool.and_eq_true, decide_eq_true_eq] at hpass
    rw [Table.get?_eq_some.mpr hr, Option.map_some, hpass.2] at hanomaly
    exact absurd hanomaly (by decide)

/-- Other virtualhosts keep their sessions. -/
lemma Passed.notClassifiedRows_of_ne {p : Text × Text} (hp : p ≠ (agentName, virtualhostName)) :
    notClassifiedRows p.1 p.2 c'.data.apache = notClassifiedRows p.1 p.2 c.data.apache := by
  by_cases hclassified : ComparesClassified unset agentId virtualhostId c.data.apache
  · obtain ⟨-, hall, hdecided, hsessions, -⟩ := h.classified hclassified
    rw [hsessions]
    refine (filter_isNotClassified_updatedTables fun u hu => ?_).trans
      (List.filter_eq_self.mpr fun r hr => ?_)
    · rcases hdecided u hu with hu | hu <;> rw [hu] <;> exact Classification.noConfusion
    · refine decide_eq_true fun hid => hp ?_
      obtain ⟨r', hr', hrow, hpass'⟩ := (hall _).mp hid
      refine eq_of_mem_notClassifiedRows hr ?_
      exact List.mem_map.mpr ⟨r', List.mem_filter.mpr ⟨hr', hpass'⟩, hrow⟩
  · rw [(h.unclassified hclassified).1]

end Passed

/-! ### The analysis of all virtualhosts -/

section Analysis

variable {unset : Row SessionEntry} {c c' : Connection Store}

/-- What the summary says of a virtualhost. -/
structure StatsOf (c c' : Connection Store) (p : Text × Text)
    (stats : KnnVirtualhostAnalyzeStatistics) : Prop where
  named : notClassifiedRows p.1 p.2 c.data.apache ≠ [] →
    c.data.agentNames.get? stats.agentId = some p.1 ∧
      c.data.apache.virtualhostsNames.get? stats.virtualhostId = some p.2
  unnamed : notClassifiedRows p.1 p.2 c.data.apache = [] → stats.agentId = 0
  anomalies : ∀ id, id ∈ stats.anomalySessionsIds ↔
    id ∈ (notClassifiedRows p.1 p.2 c.data.apache).map (·.id) ∧
      (c'.data.apache.sessions.get? id).map (·.classification) = some .anomaly

/-- The analysis after some virtualhosts. -/
structure Analyzed (unset : Row SessionEntry) (c : Connection Store) (ps : List (Text × Text))
    (summary : List KnnVirtualhostAnalyzeStatistics) (c' : Connection Store) : Prop where
  connection : c' = { c with data := { c.data with apache := tablesAfter unset c.data ps } }
  others : ∀ p ∉ ps, notClassifiedRows p.1 p.2 c'.data.apache
    = notClassifiedRows p.1 p.2 c.data.apache
  unchanged : ∀ id, (∀ p ∈ ps, id ∉ (notClassifiedRows p.1 p.2 c.data.apache).map (·.id)) →
    c'.data.apache.sessions.get? id = c.data.apache.sessions.get? id
  summary : List.Forall₂ (StatsOf c c') ps summary

lemma tablesAfter_eq (unset : Row SessionEntry) (s : Store) (ps : List (Text × Text)) :
    tablesAfter unset s ps = { s.apache with sessions := (tablesAfter unset s ps).sessions } := by
  rw [tablesAfter]
  generalize s.apache = t
  induction ps generalizing t with
  | nil => rfl
  | cons p ps ih =>
      rw [List.foldl_cons, ih, passTables, foldl_classify_eq]

lemma Analyzed.agentNames {ps : List (Text × Text)}
    {summary : List KnnVirtualhostAnalyzeStatistics} (h : Analyzed unset c ps summary c') :
    c'.data.agentNames = c.data.agentNames := by rw [h.connection]

lemma Analyzed.virtualhostsNames {ps : List (Text × Text)}
    {summary : List KnnVirtualhostAnalyzeStatistics} (h : Analyzed unset c ps summary c') :
    c'.data.apache.virtualhostsNames = c.data.apache.virtualhostsNames := by
  have htables := congrArg Tables.virtualhostsNames (tablesAfter_eq unset c.data ps)
  rw [h.connection]
  exact htables

lemma Analyzed.logs {ps : List (Text × Text)} {summary : List KnnVirtualhostAnalyzeStatistics}
    (h : Analyzed unset c ps summary c') : c'.data.apache.logs = c.data.apache.logs := by
  have htables := congrArg Tables.logs (tablesAfter_eq unset c.data ps)
  rw [h.connection]
  exact htables

lemma get?_of_idOf? {t : UniqueTable (@id Text)} {name : Text} {i : RowId}
    (h : t.idOf? name = some i) : t.get? i = some name := by
  obtain ⟨v, hv, rfl⟩ := UniqueTable.idOf?_eq_some.mp h
  exact Table.get?_eq_some.mpr hv

/-- A round that has returned has found both names and made a pass. -/
lemma of_exec_analyzeNamed {agentName virtualhostName : Text}
    {result result' : Bool × List KnnVirtualhostAnalyzeStatistics}
    (h : (analyzeNamed unset agentName result virtualhostName).exec c = (.ok result', c')) :
    ∃ agentId virtualhostId o updates, c.data.agentNames.idOf? agentName = some agentId ∧
      c.data.apache.virtualhostsNames.idOf? virtualhostName = some virtualhostId ∧
      Passed unset agentId virtualhostId agentName virtualhostName result.1 c o updates c' ∧
      result'.2 = result.2 ++ [⟨o.agentId, o.virtualhostId, o.anomalySessionsIds⟩] := by
  obtain ⟨agentId, c₁, hagent, h⟩ := Prog.of_exec_bind h
  obtain ⟨virtualhostId, c₂, hvirtualhost, h⟩ := Prog.of_exec_bind h
  obtain ⟨o, c₃, hpass, h⟩ := Prog.of_exec_bind h
  obtain ⟨hresult, rfl⟩ := Prod.mk.inj h
  have hresult := Except.ok.inj hresult
  cases hidagent : c.data.agentNames.idOf? agentName with
  | none =>
      rw [getAgentNameId, exec_queryFirst_none c hidagent] at hagent
      exact absurd (congrArg Prod.fst hagent) (by simp)
  | some i =>
      rw [exec_getAgentNameId c hidagent] at hagent
      obtain ⟨hid, rfl⟩ := Prod.mk.inj hagent
      obtain rfl := Except.ok.inj hid
      rw [getVirtualhostNameId, exec_query] at hvirtualhost
      obtain ⟨hid, rfl⟩ := Prod.mk.inj hvirtualhost
      obtain rfl := Except.ok.inj hid
      cases hidvirtualhost : c.data.apache.virtualhostsNames.idOf? virtualhostName with
      | none =>
          rw [hidvirtualhost, Option.getD_none, analyzeVirtualhost,
            getNotClassifiedSessionsStatisticsCount, bind_assoc,
            Prog.exec_bind_ok (exec_getAgentNameById c (get?_of_idOf? hidagent)), bind_assoc,
            getVirtualhostNameById, Prog.exec_bind_error (exec_queryFirst_none c
              (c.data.apache.virtualhostsNames.get?_neg_one))] at hpass
          exact absurd (congrArg Prod.fst hpass) (by simp)
      | some j =>
          rw [hidvirtualhost, Option.getD_some] at hpass
          obtain ⟨o', updates, c'', hpassed⟩ :=
            exists_passed unset result.1 (get?_of_idOf? hidagent)
            (get?_of_idOf? hidvirtualhost)
          obtain ⟨ho, rfl⟩ := Prod.mk.inj (hpassed.source.symm.trans hpass)
          obtain rfl := Except.ok.inj ho
          exact ⟨i, j, o', updates, rfl, rfl, hpassed, by rw [← hresult]⟩

/-- One more virtualhost. -/
lemma Analyzed.step {ps : List (Text × Text)} {p : Text × Text} (hp : p ∉ ps)
    {result result' : Bool × List KnnVirtualhostAnalyzeStatistics} {c₁ : Connection Store}
    (h : Analyzed unset c ps result.2 c₁)
    (hrun : (analyzeNamed unset p.1 result p.2).exec c₁ = (.ok result', c')) :
    Analyzed unset c (ps ++ [p]) result'.2 c' := by
  obtain ⟨agentId, virtualhostId, o, updates, hagent, hvirtualhost, hpassed, hresult⟩ :=
    of_exec_analyzeNamed hrun
  have hrows := h.others p hp
  rw [h.agentNames] at hagent
  rw [h.virtualhostsNames] at hvirtualhost
  -- the sessions of two virtualhosts are different
  have hdisjoint : ∀ q ∈ ps, ∀ id ∈ (notClassifiedRows q.1 q.2 c.data.apache).map (·.id),
      id ∉ (notClassifiedRows p.1 p.2 c.data.apache).map (·.id) := by
    intro q hq id hid hid'
    obtain ⟨r, hr, rfl⟩ := List.mem_map.mp hid
    exact hp (eq_of_mem_notClassifiedRows hr hid' ▸ hq)
  refine ⟨?_, fun q hq => ?_, fun id hid => ?_, ?_⟩
  · rw [hpassed.connection, h.connection, tablesAfter, tablesAfter, List.foldl_append,
      List.foldl_cons, List.foldl_nil, passTables, hagent, hvirtualhost]
    rfl
  · rw [List.mem_append, List.mem_singleton, not_or] at hq
    rw [hpassed.notClassifiedRows_of_ne hq.2, h.others q hq.1]
  · rw [hpassed.get?_of_notMem, h.unchanged id fun q hq => hid q (List.mem_append_left _ hq)]
    rw [hrows]
    exact hid p (by simp)
  · obtain ⟨hlength, hstats⟩ := List.forall₂_iff_zip.mp h.summary
    rw [hresult]
    refine List.rel_append (List.forall₂_iff_zip.mpr ⟨hlength, fun {q stats} hq => ?_⟩)
      (List.Forall₂.cons ?_ List.Forall₂.nil)
    · -- what has been said of the others still holds
      obtain ⟨hnamed, hunnamed, hanomalies⟩ := hstats hq
      refine ⟨hnamed, hunnamed, fun id => (hanomalies id).trans (and_congr_right fun hid => ?_)⟩
      rw [hpassed.get?_of_notMem]
      rw [hrows]
      exact hdisjoint q (List.of_mem_zip hq).1 id hid
    · refine ⟨fun hne => ?_, fun hnil => ?_, fun id => ?_⟩
      · rw [← hrows] at hne
        obtain ⟨hreported, hreported'⟩ := hpassed.reported hne
        rw [hreported, hreported']
        exact ⟨get?_of_idOf? hagent, get?_of_idOf? hvirtualhost⟩
      · have hrun := exec_analyzeVirtualhost_nil unset result.1 (c := c₁)
          (h.agentNames ▸ get?_of_idOf? hagent) (h.virtualhostsNames ▸ get?_of_idOf? hvirtualhost)
          (hrows.trans hnil)
        have ho := Except.ok.inj (Prod.mk.inj (hpassed.source.symm.trans hrun)).1
        rw [ho]
      · rw [hpassed.mem_anomalySessionsIds, hrows]

/-- The virtualhosts of one more agent. -/
lemma Analyzed.stepAgent {ps : List (Text × Text)} {agentName : Text} {names : List Text}
    (hnew : (ps ++ names.map fun name => (agentName, name)).Nodup)
    {result result' : Bool × List KnnVirtualhostAnalyzeStatistics} {c₁ : Connection Store}
    (h : Analyzed unset c ps result.2 c₁)
    (hrun : (names.foldlM (analyzeNamed unset agentName) result).exec c₁ = (.ok result', c')) :
    Analyzed unset c (ps ++ names.map fun name => (agentName, name)) result'.2 c' := by
  refine Prog.of_exec_foldlM names (analyzeNamed unset agentName) (fun (seen : List Text)
    (result : Bool × List KnnVirtualhostAnalyzeStatistics) c' =>
      Analyzed unset c (ps ++ seen.map fun name => (agentName, name)) result.2 c')
    (fun seen name hseen result c₁ result' c₂ h hrun => ?_)
    (by rwa [List.map_nil, List.append_nil]) hrun
  have hp : (agentName, name) ∉ ps ++ seen.map fun name => (agentName, name) := by
    obtain ⟨rest, rfl⟩ := hseen
    rw [List.map_append, List.map_append, ← List.append_assoc, ← List.append_assoc] at hnew
    intro hmem
    exact (List.nodup_append.mp (List.nodup_append.mp hnew).1).2.2 _ hmem _
      (List.mem_singleton_self _) rfl
  have hstep := h.step hp hrun
  rwa [List.append_assoc, ← List.map_singleton (f := fun name => (agentName, name)),
    ← List.map_append] at hstep

lemma nodup_virtualhosts (order : NamesOrder) (t : Tables) : (virtualhosts order t).Nodup := by
  refine List.nodup_flatMap.mpr ⟨fun agentName _ => ?_, ?_⟩
  · exact List.Nodup.map (fun v v' h => (Prod.mk.inj h).2) (order.nodup_virtualhostNames _ _)
  · refine List.Pairwise.imp (fun {a b} hne => ?_) (order.nodup_agentNames t.logs)
    intro p hp hp'
    refine hne ?_
    obtain ⟨v, -, rfl⟩ := List.mem_map.mp hp
    obtain ⟨v', -, heq⟩ := List.mem_map.mp hp'
    exact (congrArg Prod.fst heq).symm

/-- **The whole analysis**, if it returns. -/
lemma analyzed_of_exec {order : NamesOrder} {isAnomalyDetected : Bool}
    {summary : List KnnVirtualhostAnalyzeStatistics}
    (h : (analyze order unset).exec c = (.ok (isAnomalyDetected, summary), c')) :
    Analyzed unset c (virtualhosts order c.data.apache) summary c' := by
  obtain ⟨agentNames, c₁, hagents, h⟩ := Prog.of_exec_bind h
  rw [getAgentNames, exec_query] at hagents
  obtain ⟨hnames, rfl⟩ := Prod.mk.inj hagents
  obtain rfl := Except.ok.inj hnames
  have hnodup := nodup_virtualhosts order c.data.apache
  refine Prog.of_exec_foldlM _ _ (fun (done : List Text)
    (result : Bool × List KnnVirtualhostAnalyzeStatistics) c' =>
      Analyzed unset c (done.flatMap (virtualhostsOf order c.data.apache)) result.2 c')
    (fun done agentName hdone result c₁ result' c₂ h hrun => ?_)
    ⟨rfl, fun _ _ => rfl, fun _ _ => rfl, List.Forall₂.nil⟩ h
  obtain ⟨names, c₃, hvirtualhosts, hrun⟩ := Prog.of_exec_bind hrun
  rw [getVirtualhostNames, exec_query] at hvirtualhosts
  obtain ⟨hnames, rfl⟩ := Prod.mk.inj hvirtualhosts
  rw [h.logs] at hnames
  have hnames := Except.ok.inj hnames
  have hagent : (done ++ [agentName]).flatMap (virtualhostsOf order c.data.apache)
      = done.flatMap (virtualhostsOf order c.data.apache) ++ names.map fun name =>
        (agentName, name) := by
    rw [List.flatMap_append, List.flatMap_singleton, virtualhostsOf, hnames]
  have hearlier : done.flatMap (virtualhostsOf order c.data.apache)
      ++ names.map (fun name => (agentName, name))
      <+: virtualhosts order c.data.apache := by
    obtain ⟨rest, hrest⟩ := hdone
    refine ⟨rest.flatMap (virtualhostsOf order c.data.apache), ?_⟩
    rw [virtualhosts, ← hrest, List.flatMap_append, hagent]
  rw [hagent]
  exact h.stepAgent (hearlier.sublist.nodup hnodup) hrun

end Analysis

/-! ### The text -/

section Text

variable (unset : Row SessionEntry) {c : Connection Store}

/-- The results of a virtualhost. -/
def resultsText (t : Tables) (agentName virtualhostName : Text) (ids : List RowId) : List Piece :=
  resultsHead agentName virtualhostName ids.length ++
    ids.flatMap (fun i => sessionText i (sessionRow unset t i).val) ++ resultsFoot

lemma exec_describeVirtualhost {stats : KnnVirtualhostAnalyzeStatistics}
    {agentName virtualhostName : Text}
    (hagent : c.data.agentNames.get? stats.agentId = some agentName)
    (hvirtualhost : c.data.apache.virtualhostsNames.get? stats.virtualhostId = some virtualhostName)
    (before : List Piece) : (describeVirtualhost unset before stats).exec c
      = (.ok (resultsText unset c.data.apache agentName virtualhostName stats.anomalySessionsIds),
          c) := by
  have hentries : ∀ (ids : List RowId) (results : List Piece),
      (ids.foldlM (fun results i => do
        let s ← getOneSessionStatistic unset i
        pure (results ++ sessionText i s.val)) results : DatabaseM (List Piece)).exec c
        = (.ok (results ++ ids.flatMap fun i =>
          sessionText i (sessionRow unset c.data.apache i).val),
            c) := by
    intro ids
    induction ids with
    | nil => simp
    | cons i ids ih =>
        intro results
        rw [List.foldlM_cons, bind_assoc, getOneSessionStatistic,
          Prog.exec_bind_ok (exec_query c _),
          pure_bind]
        refine (ih _).trans ?_
        rw [List.flatMap_cons, ← List.append_assoc]
        rfl
  rw [describeVirtualhost, Prog.exec_bind_ok (exec_getAgentNameById c hagent),
    getVirtualhostNameById,
    Prog.exec_bind_ok (exec_queryFirst c hvirtualhost), Prog.exec_bind_ok (hentries _ _),
    Prog.exec_pure]
  rfl

/-- What has been described: each virtualhost had its names, and the text is that
of the last. -/
def Described (c : Connection Store) (done : List KnnVirtualhostAnalyzeStatistics)
    (text : List Piece) : Prop :=
  (∀ stats ∈ done, (c.data.agentNames.get? stats.agentId).isSome) ∧
    ∀ pre stats, done = pre ++ [stats] → ∃ agentName virtualhostName,
      text = resultsText unset c.data.apache agentName virtualhostName stats.anomalySessionsIds

lemma described_nil : Described unset c [] [] :=
  ⟨fun _ h => absurd h List.not_mem_nil, fun pre stats h => by simp at h⟩

/-- One more virtualhost that has its names. -/
lemma Described.concat {done : List KnnVirtualhostAnalyzeStatistics} {text : List Piece}
    (h : Described unset c done text) {stats : KnnVirtualhostAnalyzeStatistics} {agentName : Text}
    (hagent : c.data.agentNames.get? stats.agentId = some agentName) (virtualhostName : Text) :
    Described unset c (done ++ [stats])
      (resultsText unset c.data.apache agentName virtualhostName stats.anomalySessionsIds) := by
  refine ⟨fun other hmem => ?_, fun pre last hlast => ?_⟩
  · rcases List.mem_append.mp hmem with hmem | hmem
    · exact h.1 other hmem
    · rw [List.mem_singleton.mp hmem, hagent]
      rfl
  · obtain ⟨-, hlast⟩ := List.append_inj' hlast rfl
    obtain rfl := List.cons.inj hlast |>.1
    exact ⟨agentName, virtualhostName, rfl⟩

/-- The text of a summary all of whose names are there. -/
lemma exec_getDetectionResults {summary : List KnnVirtualhostAnalyzeStatistics}
    (hnames : ∀ stats ∈ summary, (c.data.agentNames.get? stats.agentId).isSome ∧
      (c.data.apache.virtualhostsNames.get? stats.virtualhostId).isSome) :
    ∃ text, (getDetectionResults unset summary).exec c = (.ok text, c) ∧
      Described unset c summary text := by
  obtain ⟨text, _, hrun, rfl, htext⟩ := Prog.exec_foldlM summary (describeVirtualhost unset)
    (fun done text c' => c' = c ∧ Described unset c done text)
    (by
      rintro done stats hdone text c' ⟨rfl, hdescribed⟩
      obtain ⟨hagent, hvirtualhost⟩ := hnames stats (hdone.subset (by simp))
      obtain ⟨agentName, hagent⟩ := Option.isSome_iff_exists.mp hagent
      obtain ⟨virtualhostName, hvirtualhost⟩ := Option.isSome_iff_exists.mp hvirtualhost
      exact ⟨_, c', exec_describeVirtualhost unset hagent hvirtualhost text, rfl,
        hdescribed.concat unset hagent virtualhostName⟩)
    (b := []) (s := c) ⟨rfl, described_nil unset⟩
  exact ⟨text, hrun, htext⟩

/-- A text that has been made. -/
lemma described_of_exec {summary : List KnnVirtualhostAnalyzeStatistics} {c' : Connection Store}
    {text : List Piece} (h : (getDetectionResults unset summary).exec c = (.ok text, c')) :
    Described unset c summary text := by
  refine (Prog.of_exec_foldlM summary (describeVirtualhost unset)
    (fun done text c' => c' = c ∧ Described unset c done text)
    (fun done stats _ text c₁ text' c₂ hI hrun => ?_)
    ⟨rfl, described_nil unset⟩ h).2
  obtain ⟨rfl, hdescribed⟩ := hI
  cases hagent : c₁.data.agentNames.get? stats.agentId with
  | none =>
      rw [describeVirtualhost, getAgentNameById,
        Prog.exec_bind_error (exec_queryFirst_none c₁ hagent)] at hrun
      exact absurd (congrArg Prod.fst hrun) (by simp)
  | some agentName =>
      cases hvirtualhost : c₁.data.apache.virtualhostsNames.get? stats.virtualhostId with
      | none =>
          rw [describeVirtualhost, Prog.exec_bind_ok (exec_getAgentNameById c₁ hagent),
            getVirtualhostNameById,
              Prog.exec_bind_error (exec_queryFirst_none c₁ hvirtualhost)] at hrun
          exact absurd (congrArg Prod.fst hrun) (by simp)
      | some virtualhostName =>
          rw [exec_describeVirtualhost unset hagent hvirtualhost text] at hrun
          obtain ⟨htext, rfl⟩ := Prod.mk.inj hrun
          obtain rfl := Except.ok.inj htext
          exact ⟨rfl, hdescribed.concat unset hagent virtualhostName⟩

/-- The results of a virtualhost have entries of its own sessions only. -/
lemma mem_of_sessionText_isInfix {t : Tables} {agentName virtualhostName : Text} {ids : List RowId}
    {id : RowId} {v : SessionEntry}
    (h : sessionText id v <:+: resultsText unset t agentName virtualhostName ids) : id ∈ ids := by
  have hpiece : (⟨"    ID:                      ", .number id⟩ : Piece)
      ∈ resultsText unset t agentName virtualhostName ids :=
    h.subset (by simp [sessionText, line])
  simp only [resultsText, List.mem_append, List.mem_flatMap] at hpiece
  rcases hpiece with (hpiece | ⟨i, hi, hpiece⟩) | hpiece
  · simp [resultsHead] at hpiece
  · simp [sessionText, line, dots] at hpiece
    exact hpiece ▸ hi
  · simp [resultsFoot] at hpiece

/-- And they have the entries of all of them. -/
lemma sessionText_isInfix {t : Tables} {agentName virtualhostName : Text} {ids : List RowId}
    {id : RowId} (hid : id ∈ ids) {v : SessionEntry} (hv : t.sessions.get? id = some v) :
    sessionText id v <:+: resultsText unset t agentName virtualhostName ids := by
  have hrow : (sessionRow unset t id).val = v := by
    rw [sessionRow, hv]
    rfl
  obtain ⟨pre, post, rfl⟩ := List.append_of_mem hid
  refine ⟨resultsHead agentName virtualhostName (pre ++ id :: post).length ++
    pre.flatMap (fun i => sessionText i (sessionRow unset t i).val),
    post.flatMap (fun i => sessionText i (sessionRow unset t i).val) ++ resultsFoot, ?_⟩
  rw [resultsText, List.flatMap_append, List.flatMap_cons, hrow]
  simp only [List.append_assoc]

end Text

/-! ### What is reported -/

section Reported

variable {order : NamesOrder} {unset : Row SessionEntry} {c c' : Connection Store}
  {ps : List (Text × Text)}
  {summary : List KnnVirtualhostAnalyzeStatistics}

lemma Analyzed.exists_stats (h : Analyzed unset c ps summary c') {p : Text × Text} (hp : p ∈ ps) :
    ∃ stats ∈ summary, StatsOf c c' p stats := by
  obtain ⟨hlength, hstats⟩ := List.forall₂_iff_zip.mp h.summary
  rw [← List.map_fst_zip hlength.le] at hp
  obtain ⟨⟨p, stats⟩, hmem, rfl⟩ := List.mem_map.mp hp
  exact ⟨stats, (List.of_mem_zip hmem).2, hstats hmem⟩

lemma Analyzed.exists_virtualhost (h : Analyzed unset c ps summary c')
    {stats : KnnVirtualhostAnalyzeStatistics} (hmem : stats ∈ summary) :
    ∃ p ∈ ps, StatsOf c c' p stats := by
  obtain ⟨hlength, hstats⟩ := List.forall₂_iff_zip.mp h.summary
  rw [← List.map_snd_zip hlength.ge] at hmem
  obtain ⟨⟨p, stats⟩, hzip, rfl⟩ := List.mem_map.mp hmem
  exact ⟨p, (List.of_mem_zip hzip).1, hstats hzip⟩

/-- The last virtualhost is the last of the summary. -/
lemma Analyzed.exists_last {pre : List (Text × Text)} {q : Text × Text}
    (h : Analyzed unset c (pre ++ [q]) summary c') :
    ∃ before stats, summary = before ++ [stats] ∧ StatsOf c c' q stats := by
  obtain ⟨hlength, hstats⟩ := List.forall₂_iff_zip.mp h.summary
  rcases List.eq_nil_or_concat' summary with rfl | ⟨before, stats, rfl⟩
  · simp at hlength
  · have hbefore : pre.length = before.length := by simpa using hlength
    refine ⟨before, stats, rfl, hstats ?_⟩
    rw [List.zip_append hbefore]
    exact List.mem_append_right _ (List.mem_singleton_self _)

/-- A session that has become an anomaly is a new one of some virtualhost. -/
lemma Analyzed.exists_notClassified (h : Analyzed unset c ps summary c') {id : RowId}
    {v v' : SessionEntry} (hv : c.data.apache.sessions.get? id = some v)
    (hunknown : v.classification = .unknown) (hv' : c'.data.apache.sessions.get? id = some v')
    (hanomaly : v'.classification = .anomaly) :
    ∃ p ∈ ps, id ∈ (notClassifiedRows p.1 p.2 c.data.apache).map (·.id) := by
  by_contra hnone
  push Not at hnone
  rw [h.unchanged id hnone, hv] at hv'
  rw [← Option.some.inj hv', hunknown] at hanomaly
  cases hanomaly

/-- If the message of the results is made and has the entry of every new anomaly, the
state is reportable. -/
lemma Analyzed.reportable (h : Analyzed unset c (virtualhosts order c.data.apache) summary c')
    (hreported : ResultsReported unset c summary c') : Reportable order unset c.data := by
  obtain ⟨text, hrun, hentries⟩ := hreported
  have hdescribed := described_of_exec unset hrun
  have htables : c'.data.apache = tablesAfter unset c.data (virtualhosts order c.data.apache) := by
    rw [h.connection]
  have hnodup := nodup_virtualhosts order c.data.apache
  refine ⟨fun p hp hnil => ?_, fun p hp r hr hanomaly => ?_⟩
  · obtain ⟨stats, hmem, hstats⟩ := h.exists_stats hp
    have hsome := hdescribed.1 stats hmem
    rw [hstats.unnamed hnil, Option.isSome_iff_exists] at hsome
    obtain ⟨name, hname⟩ := hsome
    exact absurd (c'.data.agentNames.positive _ (Table.get?_eq_some.mp hname)) (by simp)
  rcases List.eq_nil_or_concat' (virtualhosts order c.data.apache) with hvs | ⟨pre, q, hvs⟩
  · rw [hvs] at hp
    exact absurd hp List.not_mem_nil
  rw [← htables] at hanomaly
  rw [hvs] at h hnodup hp
  rw [List.dropLast_concat] at hp
  obtain ⟨before, stats, rfl, hstats⟩ := h.exists_last
  obtain ⟨agentName, virtualhostName, rfl⟩ := hdescribed.2 before stats rfl
  obtain ⟨v', hv', hanomaly⟩ := Option.map_eq_some_iff.mp hanomaly
  obtain ⟨hmem, hpass⟩ := List.mem_filter.mp hr
  simp only [isNotClassified, Bool.and_eq_true, decide_eq_true_eq] at hpass
  have hid := mem_of_sessionText_isInfix unset
    (hentries r.id r.val v' (Table.get?_eq_some.mpr hmem) hpass.2 hv' hanomaly)
  -- the last virtualhost reports its own sessions only
  have hpq : p = q := eq_of_mem_notClassifiedRows hr ((hstats.anomalies _).mp hid).1
  exact (List.nodup_append.mp hnodup).2.2 p hp q (List.mem_singleton_self q) hpq

/-- In a reportable state the message is made and has these entries. -/
lemma Analyzed.resultsReported (h : Analyzed unset c (virtualhosts order c.data.apache) summary c')
    (hreportable : Reportable order unset c.data) : ResultsReported unset c summary c' := by
  have hnames : ∀ stats ∈ summary, (c'.data.agentNames.get? stats.agentId).isSome ∧
      (c'.data.apache.virtualhostsNames.get? stats.virtualhostId).isSome := by
    intro stats hmem
    obtain ⟨p, hp, hstats⟩ := h.exists_virtualhost hmem
    obtain ⟨hagent, hvirtualhost⟩ := hstats.named (hreportable.sessions p hp)
    rw [h.agentNames, h.virtualhostsNames, hagent, hvirtualhost]
    exact ⟨rfl, rfl⟩
  obtain ⟨text, hrun, hdescribed⟩ := exec_getDetectionResults unset hnames
  refine ⟨text, hrun, fun id v v' hv hunknown hv' hanomaly => ?_⟩
  obtain ⟨p, hp, hid⟩ := h.exists_notClassified hv hunknown hv' hanomaly
  have hafter : (c'.data.apache.sessions.get? id).map (·.classification) = some .anomaly := by
    rw [hv', Option.map_some, hanomaly]
  have htables : c'.data.apache = tablesAfter unset c.data (virtualhosts order c.data.apache) := by
    rw [h.connection]
  rcases List.eq_nil_or_concat' (virtualhosts order c.data.apache) with hvs | ⟨pre, q, hvs⟩
  · rw [hvs] at hp
    exact absurd hp List.not_mem_nil
  have hpq : p = q := by
    rw [hvs] at hp
    rcases List.mem_append.mp hp with hp | hp
    · obtain ⟨r, hr, rfl⟩ := List.mem_map.mp hid
      have hdrop : p ∈ (virtualhosts order c.data.apache).dropLast := by
        rwa [hvs, List.dropLast_concat]
      exact absurd (htables ▸ hafter) (hreportable.last p hdrop r hr)
    · exact List.mem_singleton.mp hp
  rw [hvs] at h
  obtain ⟨before, stats, rfl, hstats⟩ := h.exists_last
  obtain ⟨agentName, virtualhostName, rfl⟩ := hdescribed.2 before stats rfl
  exact sessionText_isInfix unset ((hstats.anomalies id).mpr ⟨hpq ▸ hid, hafter⟩) hv'

end Reported

/-- **The message of an analysis** can be made and has the entry of every new
anomaly exactly if the state is reportable. -/
theorem results_reported_iff (order : NamesOrder)
    (unset : Row SessionEntry) {c c' : Connection Store}
    {isAnomalyDetected : Bool} {summary : List KnnVirtualhostAnalyzeStatistics}
    (h : (analyze order unset).exec c = (.ok (isAnomalyDetected, summary), c')) :
    ResultsReported unset c summary c' ↔ Reportable order unset c.data :=
  ⟨(analyzed_of_exec h).reportable, (analyzed_of_exec h).resultsReported⟩

/-! ### A virtualhost without new sessions -/

/-- Names as an index has them. -/
def NamesOrder.sorted : NamesOrder where
  agentNames logs := ((logs.vals.map (·.agentName)).dedup).insertionSort (· ≤ ·)
  virtualhostNames logs agentName := ((logs.vals.filter fun l => l.agentName = agentName).map
    (·.virtualhost)).dedup.insertionSort (· ≤ ·)
  nodup_agentNames _ := (List.perm_insertionSort _ _).nodup_iff.mpr (List.nodup_dedup _)
  mem_agentNames logs name := by simp
  nodup_virtualhostNames _ _ := (List.perm_insertionSort _ _).nodup_iff.mpr (List.nodup_dedup _)
  mem_virtualhostNames logs agentName name := by simp [and_assoc]

/-- A request to a virtualhost of the agent, at some hour. -/
def requestTo (virtualhost : Text) (hour : ℤ) (h : CheckTime hour 0 0) : LogEntry where
  agentName := cString [97]
  virtualhost := virtualhost
  clientIp := cString [49]
  time := ⟨⟨hour, 0, 0, h⟩, ⟨1, 1, 2016, Date.checkDate_newYear, Date.fits_2016⟩⟩
  request := ⟨[103], by decide⟩
  statusCode := 200
  bytes := 512
  userAgent := cString [98]
  usedInStatistics := false

/-- The session of a first request is the learning set. -/
def firstRequest (virtualhost : Text) (id : RowId) (anomalies : List RowId) : DatabaseM Unit := do
  addVirtualhostName virtualhost
  addLogs [requestTo virtualhost 10 Time.checkTime_ten]
  let _ ← createStatistics (.refl ℤ) (cString [97]) virtualhost .clear
  setLearningSessions 1 id [id]
  setApacheSessionAsAnomaly [id] anomalies

/-- A second request has a session that is not classified. -/
def secondRequest (virtualhost : Text) : DatabaseM Unit := do
  addLogs [requestTo virtualhost 12 (by decide)]
  let _ ← createStatistics (.refl ℤ) (cString [97]) virtualhost .clear

/-- Two virtualhosts have two requests, and the session of the first request to the second
of them is called an anomaly. -/
def twoVirtualhosts : Connection Store :=
  (do
    addAgentName (cString [97])
    firstRequest (cString [118]) 1 []
    firstRequest (cString [119]) 2 [2]
    secondRequest (cString [118])
    secondRequest (cString [119]) : DatabaseM Unit).exec ⟨Store.empty, none⟩ |>.2

/-- Both first requests have sessions that are called anomalies, and one virtualhost has
no second request. -/
def quietVirtualhost : Connection Store :=
  (do
    addAgentName (cString [97])
    firstRequest (cString [118]) 1 [1]
    firstRequest (cString [119]) 2 [2]
    secondRequest (cString [118]) : DatabaseM Unit).exec ⟨Store.empty, none⟩ |>.2

lemma exists_exec_of_isSome {α : Type} {p : DatabaseM α} {c : Connection Store}
    (h : (p.exec c).1.toOption.isSome = true) : ∃ a c', p.exec c = (.ok a, c') := by
  rcases hrun : p.exec c with ⟨e | a, c'⟩
  · rw [hrun] at h
    exact absurd h (by simp [Except.toOption])
  · exact ⟨a, c', rfl⟩

/-- The new session of the second virtualhost is an anomaly, and its entry is reported. -/
theorem results_reported_iff_twoVirtualhosts : ∃ summary c',
    (analyze .sorted newcomer).exec twoVirtualhosts = (.ok (true, summary), c') ∧
      ResultsReported newcomer twoVirtualhosts summary c' := by
  obtain ⟨⟨isAnomalyDetected, summary⟩, c', hrun⟩ :=
    exists_exec_of_isSome (p := analyze .sorted newcomer) (c := twoVirtualhosts) (by decide +kernel)
  have hdetected : ((analyze .sorted newcomer).exec twoVirtualhosts).1.toOption.map Prod.fst
      = some true := by
    decide +kernel
  rw [hrun] at hdetected
  obtain rfl := Option.some.inj hdetected
  refine ⟨summary, c', hrun, (results_reported_iff .sorted newcomer hrun).mpr ?_⟩
  exact ⟨by decide +kernel, by decide +kernel⟩

/-- The summary of the quiet virtualhost has no names, and an anomaly of the other
one has been detected. -/
theorem not_results_reported_quietVirtualhost : ∃ summary c',
    (analyze .sorted newcomer).exec quietVirtualhost = (.ok (true, summary), c') ∧
      ¬ResultsReported newcomer quietVirtualhost summary c' := by
  obtain ⟨⟨isAnomalyDetected, summary⟩, c', hrun⟩ :=
    exists_exec_of_isSome (p := analyze .sorted newcomer) (c := quietVirtualhost)
      (by decide +kernel)
  have hdetected : ((analyze .sorted newcomer).exec quietVirtualhost).1.toOption.map Prod.fst
      = some true := by
    decide +kernel
  rw [hrun] at hdetected
  obtain rfl := Option.some.inj hdetected
  refine ⟨summary, c', hrun, fun hreported => ?_⟩
  have hreportable := (results_reported_iff .sorted newcomer hrun).mp hreported
  exact hreportable.sessions (cString [97], cString [119]) (by decide +kernel) (by decide +kernel)

end Slas.Apache
