import Mathlib
import Slas.Lib.InTurn
import Slas.Apache.KnnCoverage
import Slas.Apache.WholeLearningSet

/-!
The order in which `KnnAnalyzerObject::AnalyzeVirtualhost` of
`server/src/apache/analyzer/detail/knn_analyzer_object.cpp` handles the sessions.

* `Enumeration`: the order of a select without `order by`;
* `analyzeVirtualhostBy`: the source, for any of them;
* `OrderIndependent`: in any two orders every session is classified alike;
* `NotInfluenced`: no session is classified otherwise once sessions of the learning set
  have been;
* `orderIndependent_iff`: the two are the same;
* `judged_at_start`: what every run leaves then.

A session that is classified is a neighbour of those after it if the learning set has it.
-/

namespace Slas.Apache

open Database

/-! ### The source -/

/-- The order in which a select enumerates sessions. -/
structure Enumeration where
  order : List (Row SessionEntry) → List (Row SessionEntry)
  perm : ∀ rows, (order rows).Perm rows

/-- As they are stored. -/
def Enumeration.stored : Enumeration := ⟨id, List.Perm.refl⟩

/-- `DatabaseFunctions::GetNotClassifiedSessionStatistics`, whose select has no order. -/
def getNotClassifiedSessionStatisticsBy (e : Enumeration) (agentNameId virtualhostNameId : RowId)
    (limit offset : ℕ) : DatabaseM (List (Row SessionEntry)) := do
  let agentName ← getAgentNameById agentNameId
  let virtualhostName ← getVirtualhostNameById virtualhostNameId
  query fun s => Select.page limit offset
    (e.order (s.apache.sessions.rows.filter (isNotClassified agentName virtualhostName)))

/-- `KnnAnalyzerObject::AnalyzeSessions`. -/
def analyzeSessionsBy (e : Enumeration) (unset : Row SessionEntry)
    (agentNameId virtualhostNameId : RowId) (limit : ℕ) (o : KnnAnalyzerObject) :
    DatabaseM KnnAnalyzerObject := do
  let sessionsPart ← getNotClassifiedSessionStatisticsBy e agentNameId virtualhostNameId limit 0
  let o := { o with agentId := agentNameId, virtualhostId := virtualhostNameId }
  let learningSetCount ← getLearningSessionsCount agentNameId virtualhostNameId
  sessionsPart.foldlM (analyzeSession unset agentNameId virtualhostNameId learningSetCount) o

/-- `KnnAnalyzerObject::AnalyzeVirtualhost`. -/
def analyzeVirtualhostBy (e : Enumeration) (unset : Row SessionEntry)
    (agentNameId virtualhostNameId : RowId) (isAnomalyDetected : Bool) :
    DatabaseM KnnAnalyzerObject := do
  let sessionsCount ← getNotClassifiedSessionsStatisticsCount agentNameId virtualhostNameId
  runPartially 100 sessionsCount
    (fun o partCount _ => analyzeSessionsBy e unset agentNameId virtualhostNameId partCount o)
    ⟨isAnomalyDetected, 0, 0, []⟩

/-- In the order of the rows it is the function of the other modules. -/
lemma analyzeVirtualhostBy_stored :
    analyzeVirtualhostBy .stored = analyzeVirtualhost := rfl

/-! ### What is promised -/

section Promise

variable (unset : Row SessionEntry) (agentId virtualhostId : RowId)

/-- Two runs from the same state, in any two orders, give every session the same
classification. -/
def OrderIndependent (isAnomalyDetected : Bool) (c : Connection Store) : Prop :=
  ∀ e₁ e₂ : Enumeration, ∃ o₁ c₁ o₂ c₂,
    (analyzeVirtualhostBy e₁ unset agentId virtualhostId isAnomalyDetected).exec c = (.ok o₁, c₁) ∧
    (analyzeVirtualhostBy e₂ unset agentId virtualhostId isAnomalyDetected).exec c = (.ok o₂, c₂) ∧
    ∀ id, (c₁.data.apache.sessions.get? id).map (·.classification)
      = (c₂.data.apache.sessions.get? id).map (·.classification)

/-- What a session is classified as by its neighbours. -/
def vote (t : Tables) (r : Row SessionEntry) : Classification :=
  getSessionClassification (neighboursTable unset agentId virtualhostId t r.val)

/-- The classification written. -/
def writeClassification (r : Row SessionEntry) (classification : Classification) (t : Tables) :
    Tables :=
  setClassification r.id classification t

variable (agentName virtualhostName : Text)

/-- The sessions to classify that are among the first hundred of the learning set. -/
def unclassifiedLearners (t : Tables) : List (Row SessionEntry) :=
  (notClassifiedRows agentName virtualhostName t).filter fun r =>
    r.id ∈ (learningIds agentId virtualhostId t).take 100

/-- Whichever sessions of the learning set are classified first, by the neighbours they have
at the start, the neighbours of any other session vote as they do at the start. -/
def NotInfluenced (t : Tables) : Prop :=
  ∀ r ∈ notClassifiedRows agentName virtualhostName t, ∀ done : List (Row SessionEntry),
    done.Nodup → done ⊆ unclassifiedLearners agentId virtualhostId agentName virtualhostName t →
      r ∉ done →
        vote unset agentId virtualhostId
            (InTurn.atOnce writeClassification (vote unset agentId virtualhostId) done t) r
          = vote unset agentId virtualhostId t r

end Promise

/-! ### The votes -/

section Votes

variable {unset : Row SessionEntry} {agentId virtualhostId : RowId} {t t' : Tables}
  {agentName virtualhostName : Text}

lemma get?_writeClassification (r : Row SessionEntry) (classification : Classification) (t : Tables)
    (id : RowId) : (writeClassification r classification t).sessions.get? id
      = (t.sessions.get? id).map fun v => if id = r.id then { v with classification } else v :=
  Table.get?_update _ _ _

/-- Rounds are judgements in turn. -/
lemma foldl_classify_eq_inTurn (rs : List (Row SessionEntry)) (t : Tables) :
    rs.foldl (classify unset agentId virtualhostId) t
      = InTurn.inTurn writeClassification (vote unset agentId virtualhostId) rs t := rfl

/-- A vote sees the first hundred of the learning set. -/
lemma vote_congr (hids : learningIds agentId virtualhostId t' = learningIds agentId virtualhostId t)
    (hrows : ∀ id ∈ (learningIds agentId virtualhostId t).take 100,
      t'.sessions.get? id = t.sessions.get? id) (r : Row SessionEntry) :
    vote unset agentId virtualhostId t' r = vote unset agentId virtualhostId t r := by
  rw [vote, vote, neighboursTable, neighboursTable, hids]
  refine congrArg getSessionClassification (List.foldl_ext _ _ _ fun table id hid => ?_)
  have hrow := hrows id ((mem_flatMap_parts_zero (by omega) _ id).mp hid)
  rw [compareSession, compareSession, sessionRow, sessionRow, hrow]

lemma learningIds_inTurn (judge : Tables → Row SessionEntry → Classification)
    (rs : List (Row SessionEntry)) (t : Tables) :
    learningIds agentId virtualhostId (InTurn.inTurn writeClassification judge rs t)
      = learningIds agentId virtualhostId t := by
  induction rs generalizing t with
  | nil => rfl
  | cons r rs ih => exact ih _

/-- Only what is written to a session matters to it. -/
lemma get?_inTurn_filter {d : Row SessionEntry → Classification} {p : Row SessionEntry → Bool}
    {id : RowId} (hp : ∀ r, r.id = id → p r = true) (rs : List (Row SessionEntry))
    (h : t'.sessions.get? id = t.sessions.get? id) :
    (InTurn.inTurn writeClassification (fun _ => d) (rs.filter p) t').sessions.get? id
      = (InTurn.inTurn writeClassification (fun _ => d) rs t).sessions.get? id := by
  induction rs generalizing t t' with
  | nil => exact h
  | cons r rs ih =>
      by_cases hr : p r = true
      · rw [List.filter_cons_of_pos hr]
        refine ih ?_
        rw [get?_writeClassification, get?_writeClassification, h]
      · rw [List.filter_cons_of_neg hr]
        refine ih ?_
        have hid : id ≠ r.id := fun hid => hr (hp r hid.symm)
        simp [get?_writeClassification, h, hid]

/-- Of the sessions classified first, those of the learning set matter. -/
lemma uninfluenced_iff : InTurn.Uninfluenced writeClassification (vote unset agentId virtualhostId)
    (notClassifiedRows agentName virtualhostName t) t ↔
      NotInfluenced unset agentId virtualhostId agentName virtualhostName t := by
  constructor
  · exact fun h r hr done hdone hsub => h r hr done hdone fun q hq =>
      (List.mem_filter.mp (hsub hq)).1
  · intro h r hr done hdone hsub hnew
    set learnt : Row SessionEntry → Bool := fun q =>
      q.id ∈ (learningIds agentId virtualhostId t).take 100
    have hvote := h r hr (done.filter learnt) (hdone.filter _)
      (fun q hq => List.mem_filter.mpr ⟨hsub (List.mem_filter.mp hq).1, (List.mem_filter.mp hq).2⟩)
      fun hq => hnew (List.mem_filter.mp hq).1
    rw [← hvote]
    refine vote_congr ?_ (fun id hid => ?_) r
    · rw [InTurn.atOnce, InTurn.atOnce, learningIds_inTurn, learningIds_inTurn]
    · rw [InTurn.atOnce, learningIds_inTurn] at hid
      refine (get?_inTurn_filter (fun q hq => ?_) done rfl).symm
      simpa [learnt, hq] using hid

/-- A session is read by its id. -/
lemma reads_writeClassification (agentName virtualhostName : Text) (t : Tables) :
    InTurn.Reads writeClassification
      (fun t' (r : Row SessionEntry) => (t'.sessions.get? r.id).map (·.classification))
      (notClassifiedRows agentName virtualhostName t) := by
  constructor
  · intro r _ d t'
    simp only [get?_writeClassification, Option.map_map]
    cases t'.sessions.get? r.id with
    | none => rfl
    | some v => simp
  · intro r hr q hq hne d t'
    have hid : q.id ≠ r.id := fun hid =>
      hne (Table.row_ext (List.mem_filter.mp hq).1 (List.mem_filter.mp hr).1 hid)
    simp [get?_writeClassification, hid]

lemma isSome_classification {r : Row SessionEntry}
    (hr : r ∈ notClassifiedRows agentName virtualhostName t) :
    ((t.sessions.get? r.id).map (·.classification)).isSome := by
  rw [Table.get?_eq_some.mpr (List.mem_filter.mp hr).1]
  rfl

end Votes

/-! ### The runs -/

section Runs

variable {unset : Row SessionEntry} {agentId virtualhostId : RowId} {t : Tables}
  {agentName virtualhostName : Text}

/-- A round is one update. -/
lemma classify_eq_updatedTables (r : Row SessionEntry) (t : Tables) :
    classify unset agentId virtualhostId t r
      = updatedTables [(r.id, vote unset agentId virtualhostId t r)] t := by
  have hnew : r.id ∉ ([] : List Update).map Prod.fst := List.not_mem_nil
  have hupdate := setClassification_updatedTables (t := t) hnew
    (vote unset agentId virtualhostId t r)
  rw [updatedTables_nil] at hupdate
  exact hupdate

lemma virtualhostsNames_foldl_classify (rs : List (Row SessionEntry)) (t : Tables) :
    (rs.foldl (classify unset agentId virtualhostId) t).virtualhostsNames
      = t.virtualhostsNames := by
  induction rs generalizing t with
  | nil => rfl
  | cons r rs ih => exact ih _

/-- What is compared stays classified, and what has been handled is no longer asked for. -/
lemma foldl_classify_notClassified (hclassified : ComparesClassified unset agentId virtualhostId t)
    (rs : List (Row SessionEntry)) :
    ComparesClassified unset agentId virtualhostId
        (rs.foldl (classify unset agentId virtualhostId) t) ∧
      notClassifiedRows agentName virtualhostName
          (rs.foldl (classify unset agentId virtualhostId) t)
        = (notClassifiedRows agentName virtualhostName t).filter fun r => r.id ∉ rs.map (·.id) := by
  induction rs generalizing t with
  | nil => exact ⟨hclassified, by simp⟩
  | cons r rs ih =>
      have hdecided : ∀ u ∈ [(r.id, vote unset agentId virtualhostId t r)], u.2 ≠ .unknown := by
        intro u hu
        rw [List.mem_singleton.mp hu]
        exact classification_ne_unknown hclassified r.val
      have hstill := hclassified.updatedTables hdecided
      rw [← classify_eq_updatedTables] at hstill
      obtain ⟨hcompares, hrows⟩ := ih hstill
      refine ⟨hcompares, ?_⟩
      rw [List.foldl_cons, hrows, classify_eq_updatedTables, notClassifiedRows,
        filter_isNotClassified_updatedTables hdecided, List.filter_filter]
      refine List.filter_congr fun q _ => ?_
      rw [Bool.eq_iff_iff]
      simp only [Bool.and_eq_true, decide_eq_true_eq, List.map_cons, List.map_nil, List.mem_cons,
        List.not_mem_nil, or_false, not_or]
      exact and_comm

/-- What is left of the sessions when some have been handled. -/
lemma filter_perm_left {all taken left : List (Row SessionEntry)} (hall : (all.map (·.id)).Nodup)
    (hperm : (taken ++ left).Perm all) :
    (all.filter fun r => r.id ∉ taken.map (·.id)).Perm left := by
  have hnodup := (hperm.map (·.id)).nodup_iff.mpr hall
  rw [List.map_append, List.nodup_append] at hnodup
  have htaken : (taken.filter fun r => r.id ∉ taken.map (·.id)) = [] :=
    List.filter_eq_nil_iff.mpr fun r hr => by simpa using ⟨r, hr, rfl⟩
  have hleft : (left.filter fun r => r.id ∉ taken.map (·.id)) = left :=
    List.filter_eq_self.mpr fun r hr =>
      decide_eq_true fun hmem => hnodup.2.2 _ hmem _ (List.mem_map_of_mem hr) rfl
  have hfilter := (hperm.filter fun r => decide (r.id ∉ taken.map (·.id))).symm
  rwa [List.filter_append, htaken, hleft, List.nil_append] at hfilter

/-- The connection when some sessions have been handled. -/
abbrev handled (unset : Row SessionEntry) (agentId virtualhostId : RowId) (c : Connection Store)
    (rs : List (Row SessionEntry)) : Connection Store :=
  { c with data := { c.data with
    apache := rs.foldl (classify unset agentId virtualhostId) c.data.apache } }

variable {c : Connection Store} (e : Enumeration) (isAnomalyDetected : Bool)
  (hagent : c.data.agentNames.get? agentId = some agentName)
  (hvirtualhost : c.data.apache.virtualhostsNames.get? virtualhostId = some virtualhostName)
include hagent hvirtualhost

variable (unset) in
/-- **One part**, when some sessions have been handled. -/
lemma exec_analyzeSessionsBy (rs : List (Row SessionEntry)) (limit : ℕ) (o : KnnAnalyzerObject) :
    ∃ o', (analyzeSessionsBy e unset agentId virtualhostId limit o).exec
        (handled unset agentId virtualhostId c rs)
      = (.ok o', handled unset agentId virtualhostId c
          (rs ++ (e.order (notClassifiedRows agentName virtualhostName
            (rs.foldl (classify unset agentId virtualhostId) c.data.apache))).take limit)) := by
  set c' := handled unset agentId virtualhostId c rs with hc'
  set page := (e.order (notClassifiedRows agentName virtualhostName c'.data.apache)).take limit
  have hvirtualhost' :
      c'.data.apache.virtualhostsNames.get? virtualhostId = some virtualhostName := by
    rw [hc', virtualhostsNames_foldl_classify, hvirtualhost]
  have hsessions : (getNotClassifiedSessionStatisticsBy e agentId virtualhostId limit 0).exec c'
      = (.ok page, c') := by
    rw [getNotClassifiedSessionStatisticsBy, Prog.exec_bind_ok (exec_getAgentNameById c' hagent),
      getVirtualhostNameById, Prog.exec_bind_ok (exec_queryFirst c' hvirtualhost')]
    exact exec_query c' _
  obtain ⟨o', hrun⟩ := exec_foldlM_analyzeSession unset agentId virtualhostId page
    { o with agentId := agentId, virtualhostId := virtualhostId } c'
  refine ⟨o', ?_⟩
  rw [analyzeSessionsBy, Prog.exec_bind_ok hsessions, getLearningSessionsCount, handled,
    List.foldl_append]
  exact (Prog.exec_bind_ok (exec_query c' _)).trans hrun

/-- **All parts**, if something compared is classified: every session is handled once. What
every part keeps of the sessions handled holds of all of them. -/
lemma exec_analyzeVirtualhostBy
    (hclassified : ComparesClassified unset agentId virtualhostId c.data.apache)
    {P : List (Row SessionEntry) → Prop} (hnil : P [])
    (hpart : ∀ taken left limit,
      (taken ++ left).Perm (notClassifiedRows agentName virtualhostName c.data.apache) → P taken →
        ∀ rows : List (Row SessionEntry), rows.Perm left → P (taken ++ (e.order rows).take limit)) :
    ∃ o taken, (analyzeVirtualhostBy e unset agentId virtualhostId isAnomalyDetected).exec c
      = (.ok o, handled unset agentId virtualhostId c taken) ∧
      taken.Perm (notClassifiedRows agentName virtualhostName c.data.apache) ∧ P taken := by
  set all := notClassifiedRows agentName virtualhostName c.data.apache with hall
  have hnodup : (all.map (·.id)).Nodup := nodup_notClassifiedRows _ _ _
  rw [analyzeVirtualhostBy,
    Prog.exec_bind_ok (exec_getNotClassifiedSessionsStatisticsCount hagent hvirtualhost)]
  set I : List (Row SessionEntry) → KnnAnalyzerObject → Connection Store → Prop := fun rest _ c' =>
    ∃ taken left, c' = handled unset agentId virtualhostId c taken ∧ (taken ++ left).Perm all ∧
      left.length = rest.length ∧ P taken with hI
  have hstep : ∀ limit (offset : ℕ) rest o c', limit ≤ rest.length → I rest o c' →
      ∃ o' c'', (analyzeSessionsBy e unset agentId virtualhostId limit o).exec c' = (.ok o', c'') ∧
        I (rest.drop limit) o' c'' := by
    rintro limit - rest o c' - ⟨taken, left, rfl, hperm, hlength, hP⟩
    obtain ⟨o', hrun⟩ := exec_analyzeSessionsBy unset e hagent hvirtualhost taken limit o
    rw [(foldl_classify_notClassified hclassified taken).2, ← hall] at hrun
    set rows := all.filter fun r => r.id ∉ taken.map (·.id)
    have hrows : rows.Perm left := filter_perm_left hnodup hperm
    have horder := (e.perm rows).trans hrows
    refine ⟨o', _, hrun, _, (e.order rows).drop limit, rfl, ?_, ?_, hpart taken left limit hperm hP
      rows hrows⟩
    · rw [List.append_assoc, List.take_append_drop]
      exact (horder.append_left taken).trans hperm
    · rw [List.length_drop, List.length_drop, horder.length_eq, hlength]
  obtain ⟨o, c', hrun, taken, left, rfl, hperm, hlength, hP⟩ := Slas.exec_runPartially hstep 100
    (a := ⟨isAnomalyDetected, 0, 0, []⟩) (s := c) ⟨[], all, rfl, .refl _, rfl, hnil⟩
  rw [List.eq_nil_of_length_eq_zero hlength, List.append_nil] at hperm
  exact ⟨o, taken, hrun, hperm, hP⟩

omit hagent hvirtualhost in
/-- Without a classified session to compare with, nothing changes. -/
lemma handled_of_not_comparesClassified
    (hnone : ¬ComparesClassified unset agentId virtualhostId c.data.apache)
    {rs : List (Row SessionEntry)}
    (hrs : rs ⊆ notClassifiedRows agentName virtualhostName c.data.apache) :
    handled unset agentId virtualhostId c rs = c := by
  have htables : rs.foldl (classify unset agentId virtualhostId) c.data.apache = c.data.apache :=
    List.foldlRecOn (motive := fun t => t = c.data.apache) _ _ rfl
      fun t ht r hr => by rw [ht, classify_unclassified hnone (hrs hr)]
  rw [handled, htables]

lemma exec_analyzeVirtualhostBy_unclassified
    (hnone : ¬ComparesClassified unset agentId virtualhostId c.data.apache) :
    ∃ o, (analyzeVirtualhostBy e unset agentId virtualhostId isAnomalyDetected).exec c
      = (.ok o, c) := by
  rw [analyzeVirtualhostBy,
    Prog.exec_bind_ok (exec_getNotClassifiedSessionsStatisticsCount hagent hvirtualhost)]
  have hstep : ∀ limit (offset : ℕ) (rest : List (Row SessionEntry)) o c', limit ≤ rest.length →
      c' = c → ∃ o' c'', (analyzeSessionsBy e unset agentId virtualhostId limit o).exec c'
        = (.ok o', c'') ∧ c'' = c := by
    rintro limit - rest o c' - rfl
    obtain ⟨o', hrun⟩ := exec_analyzeSessionsBy unset e hagent hvirtualhost [] limit o
    have hpage : (e.order (notClassifiedRows agentName virtualhostName c'.data.apache)).take limit
        ⊆ notClassifiedRows agentName virtualhostName c'.data.apache := fun r hr =>
      (e.perm _).subset (List.mem_of_mem_take hr)
    exact ⟨o', _, hrun, handled_of_not_comparesClassified hnone hpage⟩
  obtain ⟨o, c', hrun, rfl⟩ : ∃ o c', (runPartially 100
      (notClassifiedRows agentName virtualhostName c.data.apache).length
      (fun o partCount _ => analyzeSessionsBy e unset agentId virtualhostId partCount o)
      ⟨isAnomalyDetected, 0, 0, []⟩).exec c = (.ok o, c') ∧ c' = c :=
    Slas.exec_runPartially (I := fun _ _ c' => c' = c) hstep 100 rfl
  exact ⟨o, hrun⟩

variable (unset) in
/-- **Every run** handles the sessions in some order. -/
lemma exists_exec_analyzeVirtualhostBy :
    ∃ o rs, (analyzeVirtualhostBy e unset agentId virtualhostId isAnomalyDetected).exec c
      = (.ok o, handled unset agentId virtualhostId c rs) ∧
      rs.Perm (notClassifiedRows agentName virtualhostName c.data.apache) := by
  by_cases hclassified : ComparesClassified unset agentId virtualhostId c.data.apache
  · obtain ⟨o, rs, hrun, hperm, -⟩ := exec_analyzeVirtualhostBy e isAnomalyDetected hagent
      hvirtualhost hclassified (P := fun _ => True) trivial fun _ _ _ _ _ _ _ => trivial
    exact ⟨o, rs, hrun, hperm⟩
  · obtain ⟨o, hrun⟩ := exec_analyzeVirtualhostBy_unclassified e isAnomalyDetected hagent
      hvirtualhost hclassified
    refine ⟨o, _, hrun.trans ?_, .refl _⟩
    rw [handled_of_not_comparesClassified hclassified (List.Subset.refl _)]

end Runs

/-! ### Every order -/

/-- The order of a list. -/
def Enumeration.following (rs : List (Row SessionEntry)) : Enumeration :=
  ⟨Select.orderBy fun r => rs.idxOf r, Select.orderBy_perm _⟩

lemma pairwise_idxOf {α : Type} [DecidableEq α] {xs : List α} (h : xs.Nodup) :
    xs.Pairwise fun a b => xs.idxOf a ≤ xs.idxOf b := by
  rw [List.pairwise_iff_getElem]
  intro i j hi hj hij
  rw [h.idxOf_getElem i hi, h.idxOf_getElem j hj]
  exact hij.le

/-- What is left is enumerated as in the list. -/
lemma order_following {taken rest rows : List (Row SessionEntry)} (hnodup : (taken ++ rest).Nodup)
    (hrows : rows.Perm rest) : (Enumeration.following (taken ++ rest)).order rows = rest := by
  refine Select.orderBy_eq (fun r hr q _ heq => ?_) hrows.symm ?_
  · exact (List.idxOf_inj (List.mem_append_right _ (hrows.subset hr))).mp heq
  · exact (pairwise_idxOf hnodup).sublist (List.sublist_append_right taken rest)

section Orders

variable (unset : Row SessionEntry) {agentId virtualhostId : RowId}
  {agentName virtualhostName : Text} {c : Connection Store} (isAnomalyDetected : Bool)
  (hagent : c.data.agentNames.get? agentId = some agentName)
  (hvirtualhost : c.data.apache.virtualhostsNames.get? virtualhostId = some virtualhostName)
include hagent hvirtualhost

/-- **Every order is that of a run.** -/
lemma exec_analyzeVirtualhostBy_following {rs : List (Row SessionEntry)}
    (hrs : rs.Perm (notClassifiedRows agentName virtualhostName c.data.apache)) :
    ∃ o, (analyzeVirtualhostBy (.following rs) unset agentId virtualhostId isAnomalyDetected).exec c
      = (.ok o, handled unset agentId virtualhostId c rs) := by
  by_cases hclassified : ComparesClassified unset agentId virtualhostId c.data.apache
  · have hnodup : rs.Nodup :=
      hrs.nodup_iff.mpr (nodup_notClassifiedRows agentName virtualhostName c.data.apache).of_map
    obtain ⟨o, taken, hrun, hperm, hprefix⟩ := exec_analyzeVirtualhostBy (.following rs)
      isAnomalyDetected hagent hvirtualhost hclassified (P := fun taken => taken <+: rs)
      (List.nil_prefix) (by
        rintro taken left limit hleft ⟨rest, rfl⟩ rows hrows
        have hrest : left.Perm rest :=
          (List.perm_append_left_iff taken).mp (hleft.trans hrs.symm)
        rw [order_following hnodup (hrows.trans hrest)]
        exact (List.prefix_append_right_inj taken).mpr (List.take_prefix limit rest))
    obtain rfl := hprefix.eq_of_length (hperm.length_eq.trans hrs.length_eq.symm)
    exact ⟨o, hrun⟩
  · obtain ⟨o, hrun⟩ := exec_analyzeVirtualhostBy_unclassified (.following rs) isAnomalyDetected
      hagent hvirtualhost hclassified
    refine ⟨o, hrun.trans ?_⟩
    rw [handled_of_not_comparesClassified hclassified hrs.subset]

/-- What the runs read back is what is judged in turn. -/
lemma orderIndependent_iff_agree :
    OrderIndependent unset agentId virtualhostId isAnomalyDetected c ↔
      ∀ xs ys : List (Row SessionEntry),
        xs.Perm (notClassifiedRows agentName virtualhostName c.data.apache) →
        ys.Perm (notClassifiedRows agentName virtualhostName c.data.apache) →
        ∀ r ∈ notClassifiedRows agentName virtualhostName c.data.apache,
          ((xs.foldl (classify unset agentId virtualhostId) c.data.apache).sessions.get? r.id).map
              (·.classification)
            = ((ys.foldl (classify unset agentId virtualhostId) c.data.apache).sessions.get?
                r.id).map (·.classification) := by
  constructor
  · intro h xs ys hxs hys r _
    obtain ⟨o₁, c₁, o₂, c₂, hrun₁, hrun₂, hsame⟩ := h (.following xs) (.following ys)
    obtain ⟨o₁', hrun₁'⟩ :=
      exec_analyzeVirtualhostBy_following unset isAnomalyDetected hagent hvirtualhost hxs
    obtain ⟨o₂', hrun₂'⟩ :=
      exec_analyzeVirtualhostBy_following unset isAnomalyDetected hagent hvirtualhost hys
    obtain ⟨-, rfl⟩ := Prod.mk.inj (hrun₁.symm.trans hrun₁')
    obtain ⟨-, rfl⟩ := Prod.mk.inj (hrun₂.symm.trans hrun₂')
    exact hsame r.id
  · intro h e₁ e₂
    obtain ⟨o₁, xs, hrun₁, hxs⟩ :=
      exists_exec_analyzeVirtualhostBy unset e₁ isAnomalyDetected hagent hvirtualhost
    obtain ⟨o₂, ys, hrun₂, hys⟩ :=
      exists_exec_analyzeVirtualhostBy unset e₂ isAnomalyDetected hagent hvirtualhost
    refine ⟨o₁, _, o₂, _, hrun₁, hrun₂, fun id => ?_⟩
    by_cases hid : id ∈ (notClassifiedRows agentName virtualhostName c.data.apache).map (·.id)
    · obtain ⟨r, hr, rfl⟩ := List.mem_map.mp hid
      exact h xs ys hxs hys r hr
    · -- a session that is not asked for
      have hxs' : id ∉ xs.map (·.id) := fun hmem => hid ((hxs.map _).subset hmem)
      have hys' : id ∉ ys.map (·.id) := fun hmem => hid ((hys.map _).subset hmem)
      simp only [get?_foldl_classify unset hxs', get?_foldl_classify unset hys']

/-- The order matters if somebody is influenced, by whatever session. -/
lemma orderIndependent_iff_uninfluenced :
    OrderIndependent unset agentId virtualhostId isAnomalyDetected c ↔
      InTurn.Uninfluenced writeClassification (vote unset agentId virtualhostId)
        (notClassifiedRows agentName virtualhostName c.data.apache) c.data.apache := by
  rw [orderIndependent_iff_agree unset isAnomalyDetected hagent hvirtualhost]
  exact InTurn.agree_iff_uninfluenced (reads_writeClassification agentName virtualhostName _)
    (fun _ => isSome_classification) (nodup_notClassifiedRows agentName virtualhostName _).of_map

/-- Where nobody is influenced, every session is classified by the learning set as it was
when the run started. -/
theorem judged_at_start (e : Enumeration)
    (h : NotInfluenced unset agentId virtualhostId agentName virtualhostName c.data.apache) :
    ∃ o c', (analyzeVirtualhostBy e unset agentId virtualhostId isAnomalyDetected).exec c
        = (.ok o, c') ∧
      ∀ r ∈ notClassifiedRows agentName virtualhostName c.data.apache,
        (c'.data.apache.sessions.get? r.id).map (·.classification)
          = some (vote unset agentId virtualhostId c.data.apache r) := by
  obtain ⟨o, rs, hrun, hperm⟩ :=
    exists_exec_analyzeVirtualhostBy unset e isAnomalyDetected hagent hvirtualhost
  refine ⟨o, _, hrun, fun r hr => ?_⟩
  have hnodup : rs.Nodup :=
    hperm.nodup_iff.mpr (nodup_notClassifiedRows agentName virtualhostName _).of_map
  dsimp only [handled]
  rw [foldl_classify_eq_inTurn, (uninfluenced_iff.mpr h).inTurn_eq_atOnce hnodup hperm.subset]
  exact InTurn.read_atOnce (reads_writeClassification agentName virtualhostName _)
    (fun _ => isSome_classification) hnodup hperm.subset (hperm.mem_iff.mpr hr)

end Orders

/-- **When the order does not matter**: exactly if no vote is changed by sessions of the
learning set that are classified first. -/
theorem orderIndependent_iff (unset : Row SessionEntry) {agentId virtualhostId : RowId}
    {agentName virtualhostName : Text} {c : Connection Store} (isAnomalyDetected : Bool)
    (hagent : c.data.agentNames.get? agentId = some agentName)
    (hvirtualhost : c.data.apache.virtualhostsNames.get? virtualhostId = some virtualhostName) :
    OrderIndependent unset agentId virtualhostId isAnomalyDetected c ↔
      NotInfluenced unset agentId virtualhostId agentName virtualhostName c.data.apache := by
  rw [orderIndependent_iff_uninfluenced unset isAnomalyDetected hagent hvirtualhost]
  exact uninfluenced_iff

/-! ### A learning session that is classified on the way -/

/-- The learning set of a session, the three nearest first: no two of it are equally far, and
all of it is read. -/
abbrev NearestFirst (agentId virtualhostId : RowId) (t : Tables) (r : Row SessionEntry)
    (near far : List (Row SessionEntry)) : Prop :=
  (learningIds agentId virtualhostId t).length ≤ 100 ∧
  (∀ id ∈ learningIds agentId virtualhostId t, (t.sessions.get? id).isSome) ∧
  ((learningSet agentId virtualhostId t).map fun a => squaredDistance a.val r.val).Nodup ∧
  (near ++ far).Perm (learningSet agentId virtualhostId t) ∧
  (near.Pairwise fun a b => squaredDistance a.val r.val ≤ squaredDistance b.val r.val) ∧
  (∀ a ∈ near, ∀ b ∈ far, squaredDistance a.val r.val ≤ squaredDistance b.val r.val) ∧
  near.length = 3

/-- The vote is that of the three. -/
lemma vote_of_nearestFirst {unset r : Row SessionEntry} {agentId virtualhostId : RowId}
    {t : Tables} (near far : List (Row SessionEntry))
    (h : NearestFirst agentId virtualhostId t r near far) :
    vote unset agentId virtualhostId t r = majority near := by
  obtain ⟨hids, hrows, hdistinct, hperm, hnear, hfar, hsize⟩ := h
  rw [vote, getSessionClassification_neighboursTable unset hrows hdistinct,
    firstHundred_eq_learningSet hids]
  exact congrArg majority (Nearest.nearest_eq
    (fun a ha b hb => List.inj_on_of_nodup_map hdistinct ha hb) hperm hnear hfar hsize)

/-- The sessions of the agent `a` and its virtualhost `v`. All but the first one are the learning
set. -/
def learningTheOthers (sessions : List SessionEntry) : Store :=
  { Store.empty with
    agentNames := UniqueTable.empty.insertOrIgnore (cString [97])
    apache := {
      Tables.empty with
      virtualhostsNames := UniqueTable.empty.insertOrIgnore (cString [118])
      sessions := sessions.foldl Table.insert Table.empty
      learningSessions := (sessions.tail.mapIdx fun i _ => (i : ℤ) + 2).foldl
        (fun (t : UniqueTable (@id LearningSession)) i => t.insertOrIgnore ⟨1, 1, i⟩)
        UniqueTable.empty } }

lemma get?_learningTheOthers (sessions : List SessionEntry) :
    (learningTheOthers sessions).agentNames.get? 1 = some (cString [97]) ∧
    (learningTheOthers sessions).apache.virtualhostsNames.get? 1 = some (cString [118]) :=
  ⟨rfl, rfl⟩

/-- Two sessions to classify. The second is in the learning set, and three others are nearer to
the first one. -/
def apart : Store :=
  learningTheOthers [sessionOfLength 2 .unknown, sessionOfLength 50 .unknown,
    sessionOfLength 1 .normal, sessionOfLength 4 .normal, sessionOfLength 7 .anomaly,
    sessionOfLength 100 .anomaly]

/-- The three nearest of the first session. -/
def nearby : List (Row SessionEntry) :=
  [⟨3, sessionOfLength 1 .normal⟩, ⟨4, sessionOfLength 4 .normal⟩, ⟨5, sessionOfLength 7 .anomaly⟩]

lemma rows_apart :
    notClassifiedRows (cString [97]) (cString [118]) apart.apache
      = [⟨1, sessionOfLength 2 .unknown⟩, ⟨2, sessionOfLength 50 .unknown⟩] ∧
    unclassifiedLearners 1 1 (cString [97]) (cString [118]) apart.apache
      = [⟨2, sessionOfLength 50 .unknown⟩] := by
  decide +kernel

/-- What the first session is classified as, and the second by the same neighbours. Once the
second one is classified, the neighbours of the first are the same. -/
lemma votes_apart :
    vote newcomer 1 1 apart.apache ⟨1, sessionOfLength 2 .unknown⟩ = .normal ∧
    vote newcomer 1 1 apart.apache ⟨2, sessionOfLength 50 .unknown⟩ = .normal ∧
    vote newcomer 1 1 (writeClassification ⟨2, sessionOfLength 50 .unknown⟩ .normal apart.apache)
      ⟨1, sessionOfLength 2 .unknown⟩ = .normal := by
  refine ⟨?_, ?_, ?_⟩
  · exact (vote_of_nearestFirst nearby [⟨6, sessionOfLength 100 .anomaly⟩]
      (by decide +kernel)).trans (by decide +kernel)
  · exact (vote_of_nearestFirst nearby.reverse [⟨6, sessionOfLength 100 .anomaly⟩]
      (by decide +kernel)).trans (by decide +kernel)
  · exact (vote_of_nearestFirst nearby
      [⟨2, sessionOfLength 50 .normal⟩, ⟨6, sessionOfLength 100 .anomaly⟩]
      (by decide +kernel)).trans (by decide +kernel)

lemma notInfluenced_apart :
    NotInfluenced newcomer 1 1 (cString [97]) (cString [118]) apart.apache := by
  intro r hr done hdone hsub hnew
  rw [rows_apart.2] at hsub
  rw [rows_apart.1] at hr
  rcases done with _ | ⟨q, rest⟩
  · rfl
  · obtain ⟨hq, hrest⟩ := List.cons_subset.mp hsub
    obtain rfl := List.mem_singleton.mp hq
    obtain rfl : rest = [] := List.eq_nil_iff_forall_not_mem.mpr fun q' hq' =>
      (List.nodup_cons.mp hdone).1 (List.mem_singleton.mp (hrest hq') ▸ hq')
    have hfirst : r = ⟨1, sessionOfLength 2 .unknown⟩ :=
      (List.mem_cons.mp hr).resolve_right fun hsecond => hnew hsecond
    have hafter : InTurn.atOnce writeClassification (vote newcomer 1 1)
        [⟨2, sessionOfLength 50 .unknown⟩] apart.apache
        = writeClassification ⟨2, sessionOfLength 50 .unknown⟩ .normal apart.apache :=
      congrArg (fun d => writeClassification ⟨2, sessionOfLength 50 .unknown⟩ d apart.apache)
        votes_apart.2.1
    rw [hafter, hfirst, votes_apart.2.2, votes_apart.1]

theorem orderIndependent_iff_apart : OrderIndependent newcomer 1 1 false ⟨apart, none⟩ := by
  obtain ⟨hagent, hvirtualhost⟩ : apart.agentNames.get? 1 = some (cString [97]) ∧
      apart.apache.virtualhostsNames.get? 1 = some (cString [118]) := get?_learningTheOthers _
  exact (orderIndependent_iff newcomer false (c := ⟨apart, none⟩) hagent hvirtualhost).mpr
    notInfluenced_apart

/-- The distances between different pairs of sessions differ. -/
def DistancesDiffer (t : Tables) : Prop :=
  ∀ a ∈ t.sessions.rows, ∀ b ∈ t.sessions.rows, ∀ a' ∈ t.sessions.rows, ∀ b' ∈ t.sessions.rows,
    a.id ≠ b.id → a'.id ≠ b'.id →
      squaredDistance a.val b.val = squaredDistance a'.val b'.val →
        (a.id = a'.id ∧ b.id = b'.id) ∨ (a.id = b'.id ∧ b.id = a'.id)

/-- Two sessions to classify. The second is in the learning set and between the first one
and an anomaly. -/
def between : Store :=
  learningTheOthers [sessionOfLength 12 .unknown, sessionOfLength 16 .unknown,
    sessionOfLength 11 .normal, sessionOfLength 19 .anomaly, sessionOfLength 1 .normal,
    sessionOfLength 25 .anomaly]

/-- The second session. -/
def middle : Row SessionEntry := ⟨2, sessionOfLength 16 .unknown⟩

/-- The first session has two normal neighbours, the second one two anomalies. Once the second
one is classified, it is a neighbour of the first. -/
lemma votes_between :
    vote newcomer 1 1 between.apache ⟨1, sessionOfLength 12 .unknown⟩ = .normal ∧
    vote newcomer 1 1 between.apache middle = .anomaly ∧
    vote newcomer 1 1 (writeClassification middle .anomaly between.apache)
      ⟨1, sessionOfLength 12 .unknown⟩ = .anomaly := by
  refine ⟨?_, ?_, ?_⟩
  · exact (vote_of_nearestFirst [⟨3, sessionOfLength 11 .normal⟩, ⟨4, sessionOfLength 19 .anomaly⟩,
      ⟨5, sessionOfLength 1 .normal⟩] [⟨6, sessionOfLength 25 .anomaly⟩]
      (by decide +kernel)).trans (by decide +kernel)
  · exact (vote_of_nearestFirst [⟨4, sessionOfLength 19 .anomaly⟩, ⟨3, sessionOfLength 11 .normal⟩,
      ⟨6, sessionOfLength 25 .anomaly⟩] [⟨5, sessionOfLength 1 .normal⟩]
      (by decide +kernel)).trans (by decide +kernel)
  · exact (vote_of_nearestFirst [⟨3, sessionOfLength 11 .normal⟩, ⟨2, sessionOfLength 16 .anomaly⟩,
      ⟨4, sessionOfLength 19 .anomaly⟩]
      [⟨5, sessionOfLength 1 .normal⟩, ⟨6, sessionOfLength 25 .anomaly⟩]
      (by decide +kernel)).trans (by decide +kernel)

/-- The first session is normal if it is classified first, and an anomaly otherwise. -/
theorem not_orderIndependent_between :
    DistancesDiffer between.apache ∧ ¬OrderIndependent newcomer 1 1 false ⟨between, none⟩ := by
  have hdistances : DistancesDiffer between.apache := by
    unfold DistancesDiffer
    decide +kernel
  obtain ⟨hagent, hvirtualhost⟩ : between.agentNames.get? 1 = some (cString [97]) ∧
      between.apache.virtualhostsNames.get? 1 = some (cString [118]) := get?_learningTheOthers _
  have hrows : notClassifiedRows (cString [97]) (cString [118]) between.apache
      = [⟨1, sessionOfLength 12 .unknown⟩, middle] := by
    decide +kernel
  refine ⟨hdistances, fun h => ?_⟩
  have huninfluenced := (orderIndependent_iff_uninfluenced newcomer false (c := ⟨between, none⟩)
    hagent hvirtualhost).mp h
  rw [hrows] at huninfluenced
  have hvote := huninfluenced ⟨1, sessionOfLength 12 .unknown⟩ (by simp) [middle]
    (List.nodup_singleton _) (by simp) (by decide)
  have hafter : InTurn.atOnce writeClassification (vote newcomer 1 1) [middle] between.apache
      = writeClassification middle .anomaly between.apache :=
    congrArg (fun d => writeClassification middle d between.apache) votes_between.2.1
  rw [hafter, votes_between.2.2, votes_between.1] at hvote
  cases hvote

end Slas.Apache
