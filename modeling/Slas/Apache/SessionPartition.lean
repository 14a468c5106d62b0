import Mathlib
import Slas.Apache.PrepareStatistics

/-!
The sessions `CreateStatistics` stores are a partition of the logs.

* `IsSession`: logs of one client, browser and date, less than `SESSION_LENGTH`
  after the first;
* `Counts`: a row of `APACHE_SESSION_TABLE` that counts the logs of a session;
* `SessionPartition`: logs split into sessions that could not be fewer;
* `createStatistics_partition`: the rows stored count the sessions of a
  partition of the unused logs, wherever the batches end.

A session takes the logs that are in the same session as its first one. Over
logs in the order of time this is convex, which is what `Sessionizer` asks for.
-/

namespace Slas.Apache

open Database
open Sessionizer (Proper Separated groups_perm proper_of_mem_groups groups_separated)

/-- The logs of one session, in the order of time. -/
structure IsSession (g : LogGroup) : Prop where
  clientIp : ∀ r ∈ g.toList, r.val.clientIp = g.first.val.clientIp
  userAgent : ∀ r ∈ g.toList, r.val.userAgent = g.first.val.userAgent
  date : ∀ r ∈ g.toList, r.val.time.date = g.first.val.time.date
  near : ∀ r ∈ g.toList, r.val.time.time.seconds < g.first.val.time.time.seconds + sessionLength
  ordered : g.toList.Pairwise fun r r' => r.val.time ≤ r'.val.time

/-- A session that counts the logs of a group. -/
structure Counts (v : SessionEntry) (g : LogGroup) : Prop where
  agentName : v.agentName = g.first.val.agentName
  virtualhost : v.virtualhost = g.first.val.virtualhost
  clientIp : v.clientIp = g.first.val.clientIp
  useragent : v.useragent = g.first.val.userAgent
  sessionStart : v.sessionStart = g.first.val.time
  sessionLength : v.sessionLength = distance g.first.val.time.time g.last.val.time.time
  requestsCount : v.requestsCount = g.toList.length
  bandwidthUsage : v.bandwidthUsage = (g.toList.map (·.val.bytes)).sum
  errorsCount : v.errorsCount
    = g.toList.countP fun r => 400 ≤ r.val.statusCode ∧ r.val.statusCode ≤ 511
  errorPercentage : v.errorPercentage = v.errorsCount * 100 / v.requestsCount

/-- Of two sessions of one client and browser, the second starts later, an hour
later at least or on another date. -/
def Apart (g g' : LogGroup) : Prop :=
  g.first.val.clientIp = g'.first.val.clientIp → g.first.val.userAgent = g'.first.val.userAgent →
    g.first.val.time ≤ g'.first.val.time ∧
      (g.first.val.time.date ≠ g'.first.val.time.date ∨
        g.first.val.time.time.seconds + sessionLength ≤ g'.first.val.time.time.seconds)

/-- Logs split into sessions. -/
structure SessionPartition (logs : List (Row LogEntry)) (gs : List LogGroup) :
    Prop where
  partition : (gs.flatMap Sessionizer.Group.toList).Perm logs
  session : ∀ g ∈ gs, IsSession g
  apart : gs.Pairwise Apart

/-! ### Sessions of logs in the order of time -/

lemma sameSession_iff {r r' : Row LogEntry} : sameSession r r' = true ↔
    distance r.val.time.time r'.val.time.time < sessionLength ∧
      r.val.time.date = r'.val.time.date := by
  rw [sameSession, isInThisSameSession, Bool.and_eq_true, decide_eq_true_eq, decide_eq_true_eq]
  rfl

/-- Later on one date, the distance is the difference. -/
lemma distance_of_le {t u : Timestamp} (h : t ≤ u) (hdate : t.date = u.date) :
    distance t.time u.time = u.time.seconds - t.time.seconds := by
  have htime : t.time ≤ u.time := by
    rcases Timestamp.le_iff.mp h with h | ⟨-, h⟩
    · exact absurd hdate h.ne
    · exact h
  exact abs_of_nonneg (sub_nonneg.mpr (Time.le_iff_seconds.mp htime))

lemma distance_last_nonneg (t u : Time) : 0 ≤ distance t u := abs_nonneg _

/-- A date between two equal ones. -/
lemma date_eq_of_between {t u v : Timestamp} (htu : t ≤ u) (huv : u ≤ v)
    (hdate : t.date = v.date) : t.date = u.date := by
  have h₁ : t.date ≤ u.date := by
    rcases Timestamp.le_iff.mp htu with h | ⟨h, -⟩
    · exact h.le
    · exact h.le
  have h₂ : u.date ≤ v.date := by
    rcases Timestamp.le_iff.mp huv with h | ⟨h, -⟩
    · exact h.le
    · exact h.le
  exact le_antisymm h₁ (hdate ▸ h₂)

/-- Between two logs of one session there are only logs of the session. -/
lemma sameSession_convex (r r' r'' : Row LogEntry) (h : r.val.time ≤ r'.val.time)
    (h' : r'.val.time ≤ r''.val.time) (hsame : sameSession r r'' = true) :
    sameSession r r' = true := by
  obtain ⟨hdistance, hdate⟩ := sameSession_iff.mp hsame
  have hdate' := date_eq_of_between h h' hdate
  have htime := distance_of_le h' (hdate'.symm.trans hdate)
  refine sameSession_iff.mpr ⟨?_, hdate'⟩
  have hpos := distance_last_nonneg r'.val.time.time r''.val.time.time
  rw [distance_of_le (h.trans h') hdate] at hdistance
  rw [distance_of_le h hdate']
  calc r'.val.time.time.seconds - r.val.time.time.seconds
      ≤ r''.val.time.time.seconds - r.val.time.time.seconds := by omega
    _ < sessionLength := hdistance

variable {logs : List (Row LogEntry)}

/-- The order of time. -/
def timeLe (r r' : Row LogEntry) : Prop := r.val.time ≤ r'.val.time

/-- A proper group of logs in the order of time is a session. -/
lemma isSession_of_proper (hsorted : logs.Pairwise timeLe) {g : LogGroup}
    (h : Proper logId sameSession logs g) : IsSession g := by
  have hordered : g.toList.Pairwise timeLe := hsorted.sublist h.sublist
  have hid : ∀ r ∈ g.toList, logId r = logId g.first := by
    intro r hr
    rcases List.mem_cons.mp hr with rfl | hr
    · rfl
    · exact h.key r hr
  have hsame : ∀ r ∈ g.rest, _ := fun r hr => sameSession_iff.mp (h.same r hr)
  refine ⟨fun r hr => ?_, fun r hr => ?_, fun r hr => ?_, fun r hr => ?_, hordered⟩
  · exact congrArg (fun k => (ofLex k).1) (hid r hr)
  · exact congrArg (fun k => (ofLex k).2) (hid r hr)
  · rcases List.mem_cons.mp hr with rfl | hr
    · rfl
    · exact (hsame r hr).2.symm
  · rcases List.mem_cons.mp hr with rfl | hr
    · exact lt_add_of_pos_right _ (by decide)
    · have hle : g.first.val.time ≤ r.val.time := (List.pairwise_cons.mp hordered).1 r hr
      have hlt := (hsame r hr).1
      rw [distance_of_le hle (hsame r hr).2] at hlt
      omega

/-- Two groups that were separated are sessions apart. -/
lemma apart_of_separated {g g' : LogGroup}
    (h : Separated logId sameSession timeLe g g') : Apart g g' := by
  intro hclient huser
  have hid : logId g.first = logId g'.first := by
    rw [logId, logId, uniqueSessionId, uniqueSessionId, hclient, huser]
  obtain ⟨hle, hsame⟩ := h hid
  refine ⟨hle, ?_⟩
  by_cases hdate : g.first.val.time.date = g'.first.val.time.date
  · right
    have hfar : ¬distance g.first.val.time.time g'.first.val.time.time < sessionLength := by
      intro hlt
      rw [sameSession_iff.mpr ⟨hlt, hdate⟩] at hsame
      exact Bool.noConfusion hsame
    rw [distance_of_le hle hdate] at hfar
    omega
  · exact .inl hdate

/-- **The groups of logs in the order of time are sessions.** -/
lemma sessionPartition_logGroups (hsorted : logs.Pairwise timeLe) :
    SessionPartition logs (logGroups logs) where
  partition := groups_perm sameSession_convex hsorted
  session _ hg := isSession_of_proper hsorted (proper_of_mem_groups sameSession_convex hsorted hg)
  apart := (groups_separated sameSession_convex hsorted).imp fun h => apart_of_separated h

lemma counts_summarize (g : LogGroup) : Counts (summarize g) g where
  agentName := rfl
  virtualhost := rfl
  clientIp := rfl
  useragent := rfl
  sessionStart := rfl
  sessionLength := rfl
  requestsCount := rfl
  bandwidthUsage := rfl
  errorsCount := by
    simp only [summarize, isErrorCode, ge_iff_le, Bool.decide_and]
  errorPercentage := rfl

/-! ### What is stored -/

variable {tie : RowId ↪ ℤ} {agentName virtualhostName : Text}

/-- All unused logs are marked, and no other. -/
lemma markUsed_unusedLogs (t : Tables) :
    markUsed ((unusedLogs tie agentName virtualhostName t).map (·.id)) t = { t with
      logs := t.logs.update fun r => { r.val with
        usedInStatistics := r.val.usedInStatistics || isUnused agentName virtualhostName r } } := by
  refine congrArg (fun logs => { t with logs := logs }) (Table.ext_rows ?_)
  refine List.map_congr_left fun r hr => ?_
  have hmem : ((unusedLogs tie agentName virtualhostName t).map (·.id)).contains r.id
      = isUnused agentName virtualhostName r := by
    rw [Bool.eq_iff_iff, List.contains_iff_mem, List.mem_map]
    constructor
    · rintro ⟨r', hr', hid⟩
      obtain ⟨hrow, hunused⟩ := mem_unusedLogs.mp hr'
      exact Table.row_ext hrow hr hid ▸ hunused
    · exact fun hunused => ⟨r, mem_unusedLogs.mpr ⟨hr, hunused⟩, rfl⟩
  simp only [hmem]

/-- `CreateStatistics` returns; every unused log of the agent and the virtualhost
is marked as used; behind the old sessions there is one row for every session of
a partition of these logs; and batches of any other size leave the same. -/
def CreatesPartition (tie : RowId ↪ ℤ) (agentName virtualhostName : Text)
    (c : Connection Store) : Prop :=
  ∃ (sessions : Table SessionEntry) (rows : List SessionEntry) (gs : List LogGroup),
    let c' : Connection Store := ⟨{ c.data with apache := { c.data.apache with
      logs := c.data.apache.logs.update fun r => { r.val with
        usedInStatistics := r.val.usedInStatistics || isUnused agentName virtualhostName r }
      sessions := sessions } }, none⟩
    (createStatistics tie agentName virtualhostName .clear).exec c = (.ok .clear, c') ∧
    SessionPartition (unusedLogs tie agentName virtualhostName c.data.apache) gs ∧
    sessions.vals = c.data.apache.sessions.vals ++ rows ∧ List.Forall₂ Counts rows gs ∧
    ∀ maxRowsInMemory,
      (createStatisticsBy maxRowsInMemory tie agentName virtualhostName .clear).exec c
        = (.ok .clear, c')

/-- **Session building partitions the logs.** With no transaction open and no
call disturbed, `CreateStatistics` stores the sessions of a partition of the
unused logs, whatever their number and content. -/
theorem createStatistics_partition (tie : RowId ↪ ℤ) (agentName virtualhostName : Text)
    {c : Connection Store} (hc : c.Idle) : CreatesPartition tie agentName virtualhostName c := by
  set t := c.data.apache with ht
  set logs := unusedLogs tie agentName virtualhostName t with hlogs
  set sessions := (statisticsCreated tie agentName virtualhostName t).sessions with hsessions
  have hcreated : statisticsCreated tie agentName virtualhostName t = { t with
      logs := t.logs.update fun r => { r.val with
        usedInStatistics := r.val.usedInStatistics || isUnused agentName virtualhostName r }
      sessions := sessions } := by
    rw [hsessions, statisticsCreated, markUsed_unusedLogs]
    exact insertSessions_eq _ _
  have hexec : ∀ maxRowsInMemory, _ := fun maxRowsInMemory =>
    hcreated ▸ exec_createStatisticsBy maxRowsInMemory hc
  refine ⟨sessions, (logGroups logs).map summarize, logGroups logs, hexec 100,
    sessionPartition_logGroups time_le_of_unusedLogs, ?_, ?_, hexec⟩
  · exact insertSessions_sessions _ _
  · exact List.forall₂_map_left_iff.mpr (List.forall₂_same.mpr fun g _ => counts_summarize g)

/-- Two requests of one client, ten minutes apart. -/
def visit : Store :=
  let log : LogEntry := {
    agentName := cString [97]
    virtualhost := cString [118]
    clientIp := cString [49]
    time := ⟨⟨10, 0, 0, Time.checkTime_ten⟩, ⟨1, 1, 2016, Date.checkDate_newYear, Date.fits_2016⟩⟩
    request := cString [47]
    statusCode := 200
    bytes := 512
    userAgent := cString [98]
    usedInStatistics := false }
  let later : LogEntry := { log with
    time := ⟨⟨10, 10, 0, by decide⟩, ⟨1, 1, 2016, Date.checkDate_newYear, Date.fits_2016⟩⟩
    statusCode := 404 }
  let logs := (Table.empty.insert log).insert later
  { Store.empty with apache := { Tables.empty with logs } }

theorem createStatistics_partition_visit :
    CreatesPartition (.refl ℤ) ⟨[97], by decide⟩ ⟨[118], by decide⟩ ⟨visit, none⟩ :=
  createStatistics_partition (.refl ℤ) _ _ rfl

/-- The session the two requests make: its logs, errors and length. -/
example : (logGroups visit.apache.logs.rows).map (fun g =>
    ((summarize g).requestsCount, (summarize g).errorsCount, (summarize g).sessionLength))
      = [(2, 1, 600)] := by
  decide

end Slas.Apache
