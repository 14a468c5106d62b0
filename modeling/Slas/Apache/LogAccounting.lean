import Mathlib
import Slas.Apache.SessionPartition

/-!
Logs and sessions when a database call fails.

* `Accounted`: every used log is counted in exactly one stored session;
* `triple_addSessionStatistics`, `triple_createStatistics`: what a disturbed run
  leaves behind;
* `accounted_iff`: a run of `CreateStatistics` keeps the logs accounted for
  exactly if there is none to count, no call fails, or one fails before the
  first batch has been marked.

A batch is marked for good before its sessions are stored, which is done at the
end and in one transaction. When that fails the logs of all batches are marked
and counted nowhere; a busy database is not even reported.
-/

namespace Slas.Apache

open Database
open Prog (Triple Clean)

/-! ### Storing sessions, disturbed -/

variable {env : ℕ → Option Fault}

/-- A rollback that fails leaves the transaction open. Neither way anything of
it is left. -/
lemma triple_rollback {R : Prop} {d d' : Store} :
    Triple env (fun _ c => R ∧ c = ⟨d', some d⟩) rollback (fun _ _ c => R ∧ c.committed = d)
      (fun _ _ c => R ∧ c.committed = d) := by
  refine Triple.bind (Q := fun _ _ c => R ∧ c.committed = d) (triple_tryExec fun n c hc => ?_)
    fun ret => ?_
  · obtain ⟨hR, rfl⟩ := hc
    exact ⟨fun _ => ⟨hR, rfl⟩, fun _ _ => ⟨hR, rfl⟩⟩
  · cases ret with
    | none => exact Triple.pure fun _ _ => id
    | some code => exact fun _ _ => id

/-- The transaction of some sessions from call `m` on: all of them are stored, or
a call was disturbed and none is. -/
def StoredOrNot (env : ℕ → Option Fault) (last : ℕ) (d : Store) (c' : Connection Store) (ok : Bool)
    (n : ℕ) (c : Connection Store) : Prop :=
  (ok = true ∧ n = last ∧ Clean env last ∧ c = c') ∨ (¬Clean env last ∧ c.committed = d)

/-- What follows a statement of the transaction that failed with some code. -/
lemma triple_failed {last : ℕ} {d : Store} {c' : Connection Store} (d' : Store)
    (code : ResultCode) (p : DatabaseM Bool) :
    Triple env (fun _ c => ¬Clean env last ∧ c = ⟨d', some d⟩)
      (if some code = some .busy then do
          rollback
          pure false
        else do
          statementCheckForErrorAndRollback (some code)
          p)
      (StoredOrNot env last d c') (fun _ _ c => ¬Clean env last ∧ c.committed = d) := by
  cases code with
  | busy =>
      rw [if_pos rfl]
      exact triple_rollback.bind fun _ => Triple.pure fun _ _ h => .inr h
  | error =>
      rw [if_neg (by simp)]
      refine Triple.bind (Q := fun _ _ _ => False) ?_ fun _ _ _ h => absurd h not_false
      exact triple_rollback.bind fun _ _ _ h => h

/-- One statement of the transaction. -/
lemma triple_tryExec_clean {m : ℕ} {st : Statement Store} {c d : Connection Store}
    {E : DatabaseException → ℕ → Connection Store → Prop} (hst : c.step st = some d) :
    Triple env (fun n c₀ => n = m ∧ Clean env m ∧ c₀ = c) (tryExec [st])
      (fun ret n c₀ => match ret with
        | none => n = m + 1 ∧ Clean env (m + 1) ∧ c₀ = d
        | some _ => ¬Clean env (m + 1) ∧ c₀ = c) E := by
  refine triple_tryExec fun n c₀ hc => ?_
  obtain ⟨rfl, hclean, rfl⟩ := hc
  rw [hst]
  refine ⟨fun henv => ⟨rfl, hclean.succ henv, rfl⟩, fun fault henv => ⟨fun h => ?_, rfl⟩⟩
  rw [h n n.lt_succ_self] at henv
  cases henv

lemma triple_addSessionEntries (sessions : List SessionEntry) (m : ℕ) (d d' : Store) :
    Triple env (fun n c => n = m ∧ Clean env m ∧ c = ⟨d', some d⟩) (addSessionEntries sessions)
      (StoredOrNot env (m + sessions.length + 1) d
        ⟨{ d' with apache := insertSessions sessions d'.apache }, none⟩)
      (fun _ _ c => ¬Clean env (m + sessions.length + 1) ∧ c.committed = d) := by
  induction sessions generalizing m d' with
  | nil =>
      refine (triple_tryExec_clean (d := ⟨d', none⟩) rfl).bind fun ret => ?_
      cases ret with
      | none =>
          refine Triple.pure fun n c h => ?_
          exact .inl ⟨rfl, h⟩
      | some code => exact triple_failed d' code (pure true)
  | cons e sessions ih =>
      set d₁ : Store := { d' with apache := insertSession e d'.apache } with hd₁
      refine (triple_tryExec_clean (d := ⟨d₁, some d⟩) rfl).bind fun ret => ?_
      have hlen : m + (e :: sessions).length + 1 = m + 1 + sessions.length + 1 := by
        rw [List.length_cons]
        omega
      rw [hlen]
      cases ret with
      | none => exact ih (m + 1) d₁
      | some code =>
          refine (triple_failed d' code (addSessionEntries sessions)).weaken (fun n c h => ?_)
            (fun _ _ _ => id) (fun _ _ _ => id)
          exact ⟨fun hclean => h.1 (hclean.mono (by omega)), h.2⟩

/-- **Sessions are stored all or none**, and none only if a call was disturbed. -/
lemma triple_addSessionStatistics (sessions : List SessionEntry) (m : ℕ) (d : Store) :
    Triple env (fun n c => n = m ∧ Clean env m ∧ c = ⟨d, none⟩) (addSessionStatistics sessions)
      (StoredOrNot env (m + sessions.length + 2) d
        ⟨{ d with apache := insertSessions sessions d.apache }, none⟩)
      (fun _ _ c => ¬Clean env (m + sessions.length + 2) ∧ c.committed = d) := by
  have hlen : m + sessions.length + 2 = m + 1 + sessions.length + 1 := by omega
  rw [hlen]
  refine (triple_tryExec_clean (d := ⟨d, some d⟩) rfl).bind fun ret => ?_
  cases ret with
  | none => exact triple_addSessionEntries sessions (m + 1) d d
  | some code =>
      refine Triple.bind (Q := fun _ _ _ => False) (fun n c h => ?_) fun _ _ _ h =>
        absurd h not_false
      exact ⟨fun hclean => h.1 (hclean.mono (by omega)), by rw [h.2]; rfl⟩

/-! ### Creating statistics, disturbed -/

variable (tie : RowId ↪ ℤ) (agentName virtualhostName : Text) (s : Store)

/-- The number of calls of an undisturbed `CreateStatistics`: the count, two for
every batch, one for every session and two for their transaction. -/
def statisticsCalls (t : Tables) : ℕ :=
  let logs := unusedLogs tie agentName virtualhostName t
  1 + 2 * (parts 100 logs.length).length + (logGroups logs).length + 2

/-- The database with some logs marked. -/
def markedStore (s : Store) (logs : List (Row LogEntry)) : Store :=
  { s with apache := markUsed (logs.map (·.id)) s.apache }

lemma markedStore_nil (s : Store) : markedStore s [] = s := by
  rw [markedStore, List.map_nil, markUsed_nil]

/-- Only marks are left: none if one of the first three calls was disturbed, and
otherwise some. -/
def OnlyMarked (env : ℕ → Option Fault) (d : Store) : Prop :=
  ∃ k, d = markedStore s ((unusedLogs tie agentName virtualhostName s.apache).take k) ∧
    ((unusedLogs tie agentName virtualhostName s.apache).take k = [] → ¬Clean env 3) ∧
    ((unusedLogs tie agentName virtualhostName s.apache).take k ≠ [] →
      Clean env 3 ∧ ¬Clean env (statisticsCalls tie agentName virtualhostName s.apache))

/-- After the batches `done`, with `rest` to come. -/
structure BatchesDone (env : ℕ → Option Fault) (rest : List (ℕ × ℕ))
    (o : PrepareStatisticsAnalyzerObject) (n : ℕ) (c : Connection Store) (done : List (ℕ × ℕ)) :
    Prop where
  split : done ++ rest = parts 100 (unusedLogs tie agentName virtualhostName s.apache).length
  calls : n = 1 + 2 * done.length
  clean : Clean env n
  store : c = ⟨markedStore s ((unusedLogs tie agentName virtualhostName s.apache).take
    (done.map (·.1)).sum), none⟩
  memory : o = ((unusedLogs tie agentName virtualhostName s.apache).take
    (done.map (·.1)).sum).foldl calculateLogEntry .clear

variable {tie agentName virtualhostName s}

/-- The batches mark something once there has been one. -/
lemma BatchesDone.take_eq_nil_iff {rest done : List (ℕ × ℕ)} {o : PrepareStatisticsAnalyzerObject}
    {n : ℕ} {c : Connection Store}
    (h : BatchesDone tie agentName virtualhostName s env rest o n c done) :
    (unusedLogs tie agentName virtualhostName s.apache).take (done.map (·.1)).sum = [] ↔
      done = [] := by
  constructor
  · intro hnil
    cases done with
    | nil => rfl
    | cons part done =>
        have hmem : part ∈ parts 100 (unusedLogs tie agentName virtualhostName s.apache).length :=
          h.split ▸ List.mem_append_left _ List.mem_cons_self
        have hpos := pos_of_mem_parts (by decide) hmem
        rw [List.take_eq_nil_iff, List.map_cons, List.sum_cons] at hnil
        rcases hnil with hsum | hlogs
        · omega
        · rw [hlogs] at hmem
          exact absurd (show part ∈ ([] : List (ℕ × ℕ)) from hmem) List.not_mem_nil
  · rintro rfl
    rfl

/-- A call that fails during the batches leaves marks only. -/
lemma BatchesDone.onlyMarked {part : ℕ × ℕ} {rest done : List (ℕ × ℕ)}
    {o : PrepareStatisticsAnalyzerObject} {n m : ℕ} {c : Connection Store}
    (h : BatchesDone tie agentName virtualhostName s env (part :: rest) o n c done)
    (hm : m < n + 2) (hfault : env m ≠ none) :
    OnlyMarked tie agentName virtualhostName s env c.committed := by
  refine ⟨(done.map (·.1)).sum, by rw [h.store]; rfl, fun hnil hclean => ?_, fun hne => ?_⟩
  · have hdone := h.take_eq_nil_iff.mp hnil
    have hcalls := h.calls
    rw [hdone, List.length_nil] at hcalls
    exact hfault (hclean m (by omega))
  · have hdone : 0 < done.length :=
      List.length_pos_iff.mpr fun hdone => hne (h.take_eq_nil_iff.mpr hdone)
    have hcalls := h.calls
    have hlen := congrArg List.length h.split
    rw [List.length_append, List.length_cons] at hlen
    refine ⟨h.clean.mono (by omega), fun hclean => hfault (hclean m ?_)⟩
    rw [statisticsCalls]
    omega

/-- **A batch**: it is marked and in memory, or one of its two calls failed. -/
lemma triple_calculateStatistics (part : ℕ × ℕ) (rest : List (ℕ × ℕ))
    (o : PrepareStatisticsAnalyzerObject) :
    Triple env
      (fun n c => ∃ done,
        BatchesDone tie agentName virtualhostName s env (part :: rest) o n c done)
      (calculateStatistics tie agentName virtualhostName part.1 o)
      (fun o n c => ∃ done, BatchesDone tie agentName virtualhostName s env rest o n c done)
      (fun _ _ c => OnlyMarked tie agentName virtualhostName s env c.committed) := by
  set logs := unusedLogs tie agentName virtualhostName s.apache with hlogs
  refine Triple.bind (Q := fun batch n c => ∃ done m,
    BatchesDone tie agentName virtualhostName s env (part :: rest) o m c done ∧ n = m + 1 ∧
      env m = none ∧ batch = (logs.drop (done.map (·.1)).sum).take part.1)
    (triple_query fun n c hc => ?_) fun batch => ?_
  · obtain ⟨done, hdone⟩ := hc
    refine ⟨fun henv => ⟨done, n, hdone, rfl, henv, ?_⟩,
      fun henv => hdone.onlyMarked (by omega) henv⟩
    rw [hdone.store, ← unusedLogs_markUsed]
    rfl
  refine Triple.bind (Q := fun _ n c => ∃ done,
    BatchesDone tie agentName virtualhostName s env rest (batch.foldl calculateLogEntry o) n c done)
    (triple_write fun n c hc => ?_) fun _ => Triple.pure fun n c h => h
  obtain ⟨done, m, hdone, rfl, henv, rfl⟩ := hc
  refine ⟨fun henv' => ⟨done ++ [part], ?_, ?_, ?_, ?_, ?_⟩,
    fun henv' => hdone.onlyMarked (by omega) henv'⟩
  · rw [← hdone.split, List.append_assoc]
    rfl
  · have hcalls := hdone.calls
    rw [List.length_append, List.length_singleton]
    omega
  · exact (hdone.clean.succ henv).succ henv'
  · rw [hdone.store, List.map_append, List.sum_append, List.take_add]
    simp only [markedStore, markUsed_append_neg_one]
    simp only [markUsed_markUsed, List.map_append]
    rfl
  · rw [hdone.memory, List.map_append, List.sum_append, List.take_add, List.foldl_append]
    rfl

/-- After all batches. -/
lemma BatchesDone.all {o : PrepareStatisticsAnalyzerObject} {n : ℕ} {c : Connection Store}
    {done : List (ℕ × ℕ)} (h : BatchesDone tie agentName virtualhostName s env [] o n c done) :
    let logs := unusedLogs tie agentName virtualhostName s.apache
    done = parts 100 logs.length ∧ n = 1 + 2 * (parts 100 logs.length).length ∧ Clean env n ∧
      c = ⟨markedStore s logs, none⟩ ∧ o = logs.foldl calculateLogEntry .clear := by
  intro logs
  have hdone : done = parts 100 logs.length := by simpa using h.split
  have hall : logs.take (done.map (·.1)).sum = logs := by
    rw [hdone, sum_parts, List.take_length]
  exact ⟨hdone, hdone ▸ h.calls, h.clean, hall ▸ h.store, hall ▸ h.memory⟩

/-- When the sessions are not stored, only the marks are left. -/
lemma onlyMarked_all {n : ℕ}
    (hn : n = 1 + 2 * (parts 100 (unusedLogs tie agentName virtualhostName s.apache).length).length)
    (hclean : Clean env n)
    (hnot : ¬Clean env (statisticsCalls tie agentName virtualhostName s.apache)) :
    OnlyMarked tie agentName virtualhostName s env
      (markedStore s (unusedLogs tie agentName virtualhostName s.apache)) := by
  have hsum := sum_parts 100 (unusedLogs tie agentName virtualhostName s.apache).length
  rw [statisticsCalls] at hnot
  refine ⟨_, by rw [List.take_length], fun hnil => ?_, fun hne => ⟨?_, hnot⟩⟩
  · -- without logs there is no batch and no session
    rw [List.take_length] at hnil
    rw [hnil] at hnot
    exact hnot
  · rw [List.take_length] at hne
    refine hclean.mono ?_
    have hparts : 0 < (parts 100
        (unusedLogs tie agentName virtualhostName s.apache).length).length := by
      refine List.length_pos_iff.mpr fun hnil => hne ?_
      rw [hnil] at hsum
      exact List.length_eq_zero_iff.mp hsum.symm
    omega

/-- **What a run leaves behind**: everything, if no call was disturbed, and
otherwise marks only. -/
lemma triple_createStatistics (tie : RowId ↪ ℤ) (agentName virtualhostName : Text)
    (env : ℕ → Option Fault) (s : Store) :
    Triple env (fun n c => n = 0 ∧ c = ⟨s, none⟩)
      (createStatistics tie agentName virtualhostName .clear)
      (fun _ _ c => (Clean env (statisticsCalls tie agentName virtualhostName s.apache) ∧
          c.committed.apache = statisticsCreated tie agentName virtualhostName s.apache) ∨
        OnlyMarked tie agentName virtualhostName s env c.committed)
      (fun _ _ c => OnlyMarked tie agentName virtualhostName s env c.committed) := by
  set logs := unusedLogs tie agentName virtualhostName s.apache with hlogs
  have hcount := length_unusedLogs tie agentName virtualhostName s.apache
  rw [← hlogs] at hcount
  rw [createStatistics, createStatisticsBy]
  refine Triple.bind (Q := fun count n c => count = logs.length ∧ n = 1 ∧ Clean env 1 ∧
    c = ⟨s, none⟩) (triple_query fun n c hc => ?_) fun count => ?_
  · obtain ⟨rfl, rfl⟩ := hc
    refine ⟨fun henv => ⟨hcount.symm, rfl, (Prog.clean_zero env).succ henv, rfl⟩, fun henv => ?_⟩
    refine ⟨0, ?_, fun _ hclean => henv (hclean 0 (by decide)), fun hne => absurd rfl hne⟩
    exact (markedStore_nil s).symm
  refine Triple.assume fun hlength => ?_
  subst hlength
  refine Triple.bind (Q := fun o n c => ∃ done,
    BatchesDone tie agentName virtualhostName s env [] o n c done) ?_ fun o => ?_
  · refine (Triple.foldlM (I := fun rest o n c => ∃ done,
      BatchesDone tie agentName virtualhostName s env rest o n c done)
      (fun part rest o => triple_calculateStatistics part rest o) (parts 100 logs.length)
      .clear).weaken (fun n c hc => ?_) (fun _ _ _ => id) (fun _ _ _ => id)
    obtain ⟨rfl, hclean, rfl⟩ := hc
    refine ⟨[], rfl, rfl, hclean, ?_, rfl⟩
    exact congrArg (fun d => (⟨d, none⟩ : Connection Store)) (markedStore_nil s).symm
  intro n c hc
  obtain ⟨done, hdone⟩ := hc
  obtain ⟨-, hn, hclean, rfl, rfl⟩ := hdone.all
  have hlast : n + ((logGroups logs).map summarize).length + 2
      = statisticsCalls tie agentName virtualhostName s.apache := by
    rw [List.length_map, hn]
    rfl
  have hsave : Triple env _ _ _ _ :=
    triple_addSessionStatistics ((logGroups logs).map summarize) n (markedStore s logs)
  rw [hlast] at hsave
  rw [saveAllSessions_eq, sessions_foldl_calculateLogEntry]
  refine Triple.bind (Q := fun _ _ c =>
    (Clean env (statisticsCalls tie agentName virtualhostName s.apache) ∧
      c.committed.apache = statisticsCreated tie agentName virtualhostName s.apache) ∨
    OnlyMarked tie agentName virtualhostName s env c.committed)
    (hsave.weaken (fun _ _ => id) (fun ok m c h => ?_) fun e m c h => ?_)
    (fun ok => Triple.pure fun _ _ => id) n _ ⟨rfl, hclean, rfl⟩
  · rcases h with ⟨-, -, hall, rfl⟩ | ⟨hnot, hc⟩
    · exact .inl ⟨hall, rfl⟩
    · exact .inr (hc ▸ onlyMarked_all hn hclean hnot)
  · exact h.2 ▸ onlyMarked_all hn hclean h.1

/-! ### Accounting -/

/-- Every used log is counted in exactly one stored session. -/
def Accounted (t : Tables) : Prop :=
  ∃ gs : List LogGroup, List.Forall₂ Counts t.sessions.vals gs ∧
    (gs.flatMap Sessionizer.Group.toList).Perm (t.logs.rows.filter (·.val.usedInStatistics))

/-- A log once it has been used. -/
def setUsed (r : Row LogEntry) : Row LogEntry := ⟨r.id, { r.val with usedInStatistics := true }⟩

/-- What is counted does not depend on the mark. -/
lemma Counts.map_setUsed {v : SessionEntry} {g : LogGroup} (h : Counts v g) :
    Counts v (g.map setUsed) where
  agentName := h.agentName
  virtualhost := h.virtualhost
  clientIp := h.clientIp
  useragent := h.useragent
  sessionStart := h.sessionStart
  sessionLength := by
    rw [h.sessionLength, Sessionizer.Group.last_map]
    rfl
  requestsCount := by rw [h.requestsCount, Sessionizer.Group.toList_map, List.length_map]
  bandwidthUsage := by
    rw [h.bandwidthUsage, Sessionizer.Group.toList_map, List.map_map]
    rfl
  errorsCount := by
    rw [h.errorsCount, Sessionizer.Group.toList_map, List.countP_map]
    rfl
  errorPercentage := h.errorPercentage

/-- The used logs once some more have been marked. -/
lemma used_perm (p : Row LogEntry → Bool) (rows : List (Row LogEntry)) :
    ((rows.map fun r => (⟨r.id, { r.val with
        usedInStatistics := r.val.usedInStatistics || p r }⟩ : Row LogEntry)).filter
          (·.val.usedInStatistics)).Perm
      (rows.filter (·.val.usedInStatistics) ++
        (rows.filter fun r => !r.val.usedInStatistics && p r).map setUsed) := by
  induction rows with
  | nil => exact List.Perm.refl _
  | cons r rows ih =>
      rcases r with ⟨id, log⟩
      cases hused : log.usedInStatistics with
      | true =>
          have hlog : { log with usedInStatistics := true } = log := by rw [← hused]
          simpa [hused, hlog] using ih.cons (⟨id, log⟩ : Row LogEntry)
      | false =>
          cases hp : p ⟨id, log⟩ with
          | true =>
              simpa [hused, hp, setUsed] using
                (ih.cons (setUsed ⟨id, log⟩)).trans List.perm_middle.symm
          | false => simpa [hused, hp] using ih

lemma sum_of_counts {vs : List SessionEntry} {gs : List LogGroup}
    (h : List.Forall₂ Counts vs gs) :
    (vs.map (·.requestsCount)).sum = (gs.flatMap Sessionizer.Group.toList).length := by
  induction h with
  | nil => rfl
  | cons hv _ ih =>
      rw [List.map_cons, List.sum_cons, ih, hv.requestsCount, List.flatMap_cons,
        List.length_append, Nat.cast_add]

/-- As many logs are used as the sessions count. -/
lemma Accounted.sum_requestsCount {t : Tables} (h : Accounted t) :
    (t.sessions.vals.map (·.requestsCount)).sum
      = (t.logs.rows.filter (·.val.usedInStatistics)).length := by
  obtain ⟨gs, hcounts, hperm⟩ := h
  rw [← hperm.length_eq]
  exact sum_of_counts hcounts

/-- Storing the sessions with the marks keeps the logs accounted for. -/
lemma Accounted.statisticsCreated {t : Tables} (h : Accounted t) :
    Accounted (statisticsCreated tie agentName virtualhostName t) := by
  obtain ⟨gs, hcounts, hperm⟩ := h
  set logs := unusedLogs tie agentName virtualhostName t with hlogs
  refine ⟨gs ++ (logGroups logs).map (Sessionizer.Group.map setUsed), ?_, ?_⟩
  · rw [Apache.statisticsCreated, insertSessions_sessions]
    refine List.rel_append hcounts
      (List.forall₂_map_left_iff.mpr (List.forall₂_map_right_iff.mpr ?_))
    exact List.forall₂_same.mpr fun g _ => (counts_summarize g).map_setUsed
  · have hnew : (((logGroups logs).map (Sessionizer.Group.map setUsed)).flatMap
        Sessionizer.Group.toList).Perm
          ((t.logs.rows.filter (isUnused agentName virtualhostName)).map setUsed) := by
      have hsorted : logs.Pairwise timeLe := time_le_of_unusedLogs
      have hgroups := (sessionPartition_logGroups hsorted).partition.trans
        (Select.orderBy_perm _ _)
      rw [List.flatMap_map]
      simp only [Sessionizer.Group.toList_map]
      rw [← List.map_flatMap]
      exact hgroups.map setUsed
    have hunused : t.logs.rows.filter (fun r =>
        !r.val.usedInStatistics && isUnused agentName virtualhostName r)
          = t.logs.rows.filter (isUnused agentName virtualhostName) := by
      refine List.filter_congr fun r _ => ?_
      rw [isUnused]
      cases r.val.usedInStatistics <;> simp
    have hused := used_perm (isUnused agentName virtualhostName) t.logs.rows
    rw [hunused] at hused
    rw [Apache.statisticsCreated, markUsed_unusedLogs, insertSessions_eq, List.flatMap_append]
    exact (hperm.append hnew).trans hused.symm

/-- Marks without sessions are not accounted for. -/
lemma not_accounted_markUsed {t : Tables} (h : Accounted t) {ids : List RowId} {r : Row LogEntry}
    (hr : r ∈ t.logs.rows) (hunused : r.val.usedInStatistics = false) (hid : r.id ∈ ids) :
    ¬Accounted (markUsed ids t) := by
  intro hmarked
  have hsum := h.sum_requestsCount
  have hsum' : (t.sessions.vals.map (·.requestsCount)).sum = _ := hmarked.sum_requestsCount
  have hperm := (used_perm (fun r => ids.contains r.id) t.logs.rows).length_eq
  have hpos : 0 < (t.logs.rows.filter fun r =>
      !r.val.usedInStatistics && ids.contains r.id).length := by
    refine List.length_pos_of_mem (List.mem_filter.mpr ⟨hr, ?_⟩)
    simp [hunused, hid]
  rw [List.length_append, List.length_map] at hperm
  have heq := hsum.symm.trans hsum'
  have hlen : ((markUsed ids t).logs.rows.filter (·.val.usedInStatistics)).length = _ := hperm
  rw [hlen] at heq
  omega

/-! ### The exact condition -/

/-- What a run that began with no transaction open leaves behind. -/
def leftBehind (tie : RowId ↪ ℤ) (agentName virtualhostName : Text) (env : ℕ → Option Fault)
    (c : Connection Store) : Tables :=
  ((createStatistics tie agentName virtualhostName .clear).run env 0 c).2.2.committed.apache

/-- Everything is left behind, or marks only. -/
lemma leftBehind_cases {c : Connection Store} (hc : c.Idle) (env : ℕ → Option Fault) :
    (Clean env (statisticsCalls tie agentName virtualhostName c.data.apache) ∧
      leftBehind tie agentName virtualhostName env c
        = statisticsCreated tie agentName virtualhostName c.data.apache) ∨
    ∃ d, OnlyMarked tie agentName virtualhostName c.data env d ∧
      leftBehind tie agentName virtualhostName env c = d.apache := by
  rcases c with ⟨s, saved⟩
  obtain rfl : saved = none := hc
  have h := triple_createStatistics tie agentName virtualhostName env s 0 _ ⟨rfl, rfl⟩
  rw [leftBehind]
  rcases hrun : (createStatistics tie agentName virtualhostName .clear).run env 0 ⟨s, none⟩ with
    ⟨e | o, n, c'⟩
  · rw [hrun] at h
    exact .inr ⟨_, h, rfl⟩
  · rw [hrun] at h
    exact h.imp_right fun h => ⟨_, h, rfl⟩

/-- Before the first batch has been marked nothing is left behind. -/
lemma OnlyMarked.accounted {d : Store} (h : OnlyMarked tie agentName virtualhostName s env d)
    (hacc : Accounted s.apache) (h3 : ¬Clean env 3) : Accounted d.apache := by
  obtain ⟨k, rfl, -, hne⟩ := h
  by_cases hnil : (unusedLogs tie agentName virtualhostName s.apache).take k = []
  · rwa [hnil, markedStore_nil]
  · exact absurd (hne hnil).1 h3

/-- Once the first batch has been marked its logs are lost. -/
lemma OnlyMarked.not_accounted {d : Store} (h : OnlyMarked tie agentName virtualhostName s env d)
    (hacc : Accounted s.apache) (h3 : Clean env 3) : ¬Accounted d.apache := by
  obtain ⟨k, rfl, hnil, -⟩ := h
  have hne : (unusedLogs tie agentName virtualhostName s.apache).take k ≠ [] := fun h =>
    hnil h h3
  obtain ⟨r, hr⟩ := List.exists_mem_of_ne_nil _ hne
  obtain ⟨hrow, hunused⟩ := mem_unusedLogs.mp (List.mem_of_mem_take hr)
  rw [isUnused, Bool.and_eq_true, Bool.not_eq_true'] at hunused
  exact not_accounted_markUsed hacc hrow hunused.2 (List.mem_map_of_mem hr)

/-- Without logs there is nothing to mark. -/
lemma OnlyMarked.accounted_of_nil {d : Store}
    (h : OnlyMarked tie agentName virtualhostName s env d) (hacc : Accounted s.apache)
    (hlogs : unusedLogs tie agentName virtualhostName s.apache = []) : Accounted d.apache := by
  obtain ⟨k, rfl, -⟩ := h
  rwa [hlogs, List.take_nil, markedStore_nil]

/-- **No log is lost exactly if** there is none, a call fails before the first
batch has been marked, or none fails. -/
theorem accounted_iff (tie : RowId ↪ ℤ) (agentName virtualhostName : Text)
    (env : ℕ → Option Fault) {c : Connection Store} (hc : c.Idle)
    (hacc : Accounted c.data.apache) :
    Accounted (leftBehind tie agentName virtualhostName env c) ↔
      unusedLogs tie agentName virtualhostName c.data.apache = [] ∨ ¬Clean env 3 ∨
        Clean env (statisticsCalls tie agentName virtualhostName c.data.apache) := by
  rcases leftBehind_cases hc env with ⟨hclean, hleft⟩ | ⟨d, hd, hleft⟩
  · rw [hleft]
    exact iff_of_true hacc.statisticsCreated (.inr (.inr hclean))
  rw [hleft]
  constructor
  · intro hkept
    by_cases h3 : Clean env 3
    · exact absurd hkept (hd.not_accounted hacc h3)
    · exact .inr (.inl h3)
  · rintro (hlogs | h3 | hclean)
    · exact hd.accounted_of_nil hacc hlogs
    · exact hd.accounted hacc h3
    · obtain ⟨k, rfl, hnil, hne⟩ := id hd
      refine hd.accounted hacc fun h3 => ?_
      exact (hne fun h => hnil h h3).2 hclean

/-- No log has been used before the first visit. -/
lemma accounted_visit : Accounted visit.apache := ⟨[], List.Forall₂.nil, List.Perm.nil⟩

theorem accounted_iff_visit : Accounted (leftBehind (.refl ℤ) ⟨[97], by decide⟩ ⟨[118], by decide⟩
    (fun _ => none) ⟨visit, none⟩) ↔
      unusedLogs (.refl ℤ) ⟨[97], by decide⟩ ⟨[118], by decide⟩ visit.apache = [] ∨
        ¬Clean (fun _ => (none : Option Fault)) 3 ∨
        Clean (fun _ => (none : Option Fault))
          (statisticsCalls (.refl ℤ) ⟨[97], by decide⟩ ⟨[118], by decide⟩ visit.apache) :=
  accounted_iff (.refl ℤ) _ _ _ rfl accounted_visit

/-- The insert of the session of the visit finds the database busy. -/
def busyInsert (n : ℕ) : Option Fault := if n = 4 then some ⟨0, .busy⟩ else none

/-- One batch has been marked when its session cannot be stored. -/
theorem not_accounted_visit : (⟨visit, none⟩ : Connection Store).Idle ∧ Accounted visit.apache ∧
    ¬Accounted (leftBehind (.refl ℤ) ⟨[97], by decide⟩ ⟨[118], by decide⟩ busyInsert
      ⟨visit, none⟩) := by
  refine ⟨rfl, accounted_visit, fun hkept => ?_⟩
  have hcalls : 4 < statisticsCalls (.refl ℤ) ⟨[97], by decide⟩ ⟨[118], by decide⟩
      visit.apache := by
    rw [statisticsCalls, length_unusedLogs]
    have : (parts 100 (visit.apache.logs.rows.countP
      (isUnused ⟨[97], by decide⟩ ⟨[118], by decide⟩))).length = 1 := by decide
    omega
  rcases leftBehind_cases (c := ⟨visit, none⟩) rfl busyInsert with ⟨hclean, -⟩ | ⟨d, hd, hleft⟩
  · exact absurd (hclean 4 hcalls) (by decide)
  · rw [hleft] at hkept
    exact hd.not_accounted accounted_visit (by unfold Clean; decide) hkept

end Slas.Apache
