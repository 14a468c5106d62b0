import Mathlib
import Slas.Apache.DBusObject
import Slas.Apache.DetectionResults

/-!
The names an Apache analysis meets.

* `prepare`, `ApacheAnalyzerObject.analyze`: the rest of the analysis,
  `PrepareStatisticsAnalyzerObject::Prepare` and `ApacheAnalyzerObject::Analyze` of
  `server/src/apache/analyzer`;
* `Reached`: the states of all runs of `AddLogEntry` messages and analyses, any call of
  which may fail;
* `NamesKnown`: the names of the logs are interned, and those of the sessions are the
  names of logs;
* `names_known`: this is so in all of them, and an analysis finds every name.

A log is stored after both of its names, and in a transaction of its own: a rollback that
takes a name back takes the log back, too.
-/

namespace Slas.Apache

open Database
open Prog (Triple)

/-! ### The source -/

/-- `PrepareStatisticsAnalyzerObject::Prepare`. `APACHE_LAST_RUN_TABLE` is not among the
tables: `due` is what `ShouldStatisticsBeCalculated` makes of it. -/
def prepare (order : NamesOrder) (tie : RowId ↪ ℤ) (due : Bool)
    (o : PrepareStatisticsAnalyzerObject) :
    DatabaseM PrepareStatisticsAnalyzerObject := do
  let should ← query fun _ => due
  if should then
    let agentNames ← getAgentNames order
    agentNames.foldlM (fun o agentName => do
      let virtualhostNames ← getVirtualhostNames order agentName
      virtualhostNames.foldlM (fun o virtualhostName =>
        createStatistics tie agentName virtualhostName o) o) o
  else pure o

/-- `DatabaseFunctions::SetLastRun`. -/
def setLastRun (timestamp : Timestamp) : DatabaseM Unit := do
  let _ ← addAndGetDateId timestamp.date
  let _ ← addAndGetTimeId timestamp.time
  write id

/-- `ApacheAnalyzerObject::Analyze`, with what is passed on to the notifier. `run` is the
answer of `ShouldRun`. -/
def ApacheAnalyzerObject.analyze (order : NamesOrder) (tie : RowId ↪ ℤ)
    (unset : Row SessionEntry) (run due : Bool) (now : Timestamp) :
      DatabaseM (Option (List KnnVirtualhostAnalyzeStatistics)) := do
  let should ← query fun _ => run
  if should then
    let _ ← prepare order tie due .clear
    let result ← Apache.analyze order unset
    setLastRun now
    pure (if result.1 then some result.2 else none)
  else pure none

/-! ### Runs -/

/-- What happens to the server. -/
inductive Event where
  | addLogEntry (message : AddLogEntry)
  | analysis (order : NamesOrder) (tie : RowId ↪ ℤ) (unset : Row SessionEntry) (run due : Bool)
      (now : Timestamp)

/-- What is done about it. A message whose time is refused does not get to the database. -/
def Event.program : Event → DatabaseM Unit
  | addLogEntry message => (ownMessageHandler message).getD (pure ())
  | analysis order tie unset run due now =>
      ApacheAnalyzerObject.analyze order tie unset run due now >>= fun _ => pure ()

/-- The states of all runs from the empty database. The environment may make any call
fail; what has not been committed is lost when the server is started again. -/
inductive Reached : Connection Store → Prop
  | empty : Reached ⟨Store.empty, none⟩
  | step {c : Connection Store} (x : Event) (env : ℕ → Option Fault) (h : Reached c) :
      Reached (x.program.run env 0 c).2.2
  | restart {c : Connection Store} (h : Reached c) : Reached ⟨c.committed, none⟩

/-! ### Known names -/

/-- There is a log with these names. -/
def HasLog (t : Tables) (agentName virtualhost : Text) : Prop :=
  ∃ l ∈ t.logs.vals, l.agentName = agentName ∧ l.virtualhost = virtualhost

/-- The names of the logs are interned, and those of the sessions are the names of logs. -/
structure NamesKnown (s : Store) : Prop where
  agentNames : ∀ l ∈ s.apache.logs.vals, l.agentName ∈ s.agentNames.vals
  virtualhosts : ∀ l ∈ s.apache.logs.vals, l.virtualhost ∈ s.apache.virtualhostsNames.vals
  sessions : ∀ e ∈ s.apache.sessions.vals, HasLog s.apache e.agentName e.virtualhost

/-- The lookups of an analysis for an agent and a virtualhost find them. -/
def LookupsSucceed (c : Connection Store) (p : Text × Text) : Prop :=
  ∃ agentId virtualhostId, (getAgentNameId p.1).exec c = (.ok agentId, c) ∧
    (getVirtualhostNameId p.2).exec c = (.ok virtualhostId, c) ∧ virtualhostId ≠ -1 ∧
      (getAgentNameById agentId).exec c = (.ok p.1, c) ∧
        (getVirtualhostNameById virtualhostId).exec c = (.ok p.2, c)

variable {s s' : Store} {env : ℕ → Option Fault}

/-- A name that is interned is found by its id. -/
lemma exists_idOf?_of_mem_vals {t : UniqueTable (@id Text)} {name : Text} (h : name ∈ t.vals) :
    ∃ i, t.idOf? name = some i ∧ t.get? i = some name := by
  obtain ⟨i, hr⟩ := Table.mem_vals.mp h
  exact ⟨i, UniqueTable.idOf?_eq_some.mpr ⟨name, hr, rfl⟩, Table.get?_eq_some.mpr hr⟩

lemma NamesKnown.hasLog_names (h : NamesKnown s) {agentName virtualhost : Text}
    (hlog : HasLog s.apache agentName virtualhost) :
    agentName ∈ s.agentNames.vals ∧ virtualhost ∈ s.apache.virtualhostsNames.vals := by
  obtain ⟨l, hl, rfl, rfl⟩ := hlog
  exact ⟨h.agentNames l hl, h.virtualhosts l hl⟩

lemma mem_virtualhosts {order : NamesOrder} {t : Tables} {p : Text × Text}
    (hp : p ∈ virtualhosts order t) : HasLog t p.1 p.2 := by
  obtain ⟨agentName, -, hp⟩ := List.mem_flatMap.mp hp
  obtain ⟨virtualhostName, hname, rfl⟩ := List.mem_map.mp hp
  exact (order.mem_virtualhostNames _ _ _).mp hname

lemma NamesKnown.lookupsSucceed {c : Connection Store} (h : NamesKnown c.data) {order : NamesOrder}
    {p : Text × Text} (hp : p ∈ Apache.virtualhosts order c.data.apache) : LookupsSucceed c p := by
  obtain ⟨hagent, hvirtualhost⟩ := h.hasLog_names (mem_virtualhosts hp)
  obtain ⟨agentId, hagentId, hagentName⟩ := exists_idOf?_of_mem_vals hagent
  obtain ⟨virtualhostId, hvirtualhostId, hvirtualhostName⟩ := exists_idOf?_of_mem_vals hvirtualhost
  refine ⟨agentId, virtualhostId, exec_getAgentNameId c hagentId, ?_, ?_,
    exec_getAgentNameById c hagentName, exec_queryFirst c hvirtualhostName⟩
  · rw [getVirtualhostNameId, exec_query, hvirtualhostId]
    rfl
  · rintro rfl
    rw [Table.get?_neg_one] at hvirtualhostName
    cases hvirtualhostName

/-! ### Storing a log -/

lemma NamesKnown.insertLog (h : NamesKnown s) {e : LogEntry}
    (hagent : e.agentName ∈ s.agentNames.vals)
    (hvirtualhost : e.virtualhost ∈ s.apache.virtualhostsNames.vals) :
    NamesKnown { s with apache := insertLog e s.apache } := by
  have hlogs : (Apache.insertLog e s.apache).logs.vals
      = s.apache.logs.vals ++ [{ e with usedInStatistics := false }] := Table.insert_vals _ _
  refine ⟨fun l hl => ?_, fun l hl => ?_, fun e' he' => ?_⟩
  · rcases List.mem_append.mp (hlogs ▸ hl) with hl | hl
    · exact h.agentNames l hl
    · rw [List.mem_singleton.mp hl]
      exact hagent
  · rcases List.mem_append.mp (hlogs ▸ hl) with hl | hl
    · exact h.virtualhosts l hl
    · rw [List.mem_singleton.mp hl]
      exact hvirtualhost
  · obtain ⟨l, hl, hnames⟩ := h.sessions e' he'
    exact ⟨l, hlogs ▸ List.mem_append_left _ hl, hnames⟩

/-- More names are interned. -/
lemma NamesKnown.mono (h : NamesKnown s)
    (hagents : ∀ name ∈ s.agentNames.vals, name ∈ s'.agentNames.vals)
    (hvirtualhosts : ∀ name ∈ s.apache.virtualhostsNames.vals, name
      ∈ s'.apache.virtualhostsNames.vals)
    (hlogs : s'.apache.logs = s.apache.logs) (hsessions : s'.apache.sessions = s.apache.sessions) :
    NamesKnown s' := by
  refine ⟨fun l hl => ?_, fun l hl => ?_, fun e he => ?_⟩
  · exact hagents _ (h.agentNames l (hlogs ▸ hl))
  · exact hvirtualhosts _ (h.virtualhosts l (hlogs ▸ hl))
  · rw [HasLog, hlogs]
    exact h.sessions e (hsessions ▸ he)

lemma keeps_addLog (e : LogEntry) : Triple env
    (fun _ c => c.All NamesKnown ∧ e.agentName ∈ c.data.agentNames.vals ∧
      e.virtualhost ∈ c.data.apache.virtualhostsNames.vals) (addLogs [e])
    (fun _ _ c => c.All NamesKnown) fun _ _ c => c.All NamesKnown := by
  set named : Store → Prop := fun s => e.agentName ∈ s.agentNames.vals ∧
    e.virtualhost ∈ s.apache.virtualhostsNames.vals with hnamed
  refine Triple.bind (triple_execSql_and (S := named) (fun f hf => ?_) (by simp)) fun _ => ?_
  · simp at hf
  have hwrite : Triple env (fun _ c => c.All NamesKnown ∧ named c.data) (writeApache (insertLog e))
      (fun _ _ c => c.All NamesKnown ∧ named c.data) fun _ _ c => c.All NamesKnown :=
    triple_write_and fun s hs hnames => ⟨hs.insertLog hnames.1 hnames.2, hnames⟩
  refine Triple.tryCatch (R := fun _ _ c => c.All NamesKnown) ?_ fun ex => ?_
  · refine Triple.bind (Q := fun _ _ c => c.All NamesKnown ∧ named c.data)
      (hwrite.bind fun _ => Triple.pure fun _ _ => id) fun _ => ?_
    refine Triple.weaken (triple_execSql_and (S := named) (fun f hf => ?_) (by simp))
      (fun _ _ => id) (fun _ _ _ h => h.1) fun _ _ _ => id
    simp at hf
  · have hrollback : StepsIn (fun _ _ => False) (execSql [.rollback]) :=
      steps_execSql fun f hf => by simp at hf
    exact Triple.bind (hrollback.keeps (fun _ _ h => h.elim) env) fun _ _ _ h => h

lemma keeps_storeLogEntry (e : LogEntry) :
    Prog.Keeps (fun c => c.All NamesKnown) (storeLogEntry e) := by
  intro env
  refine Triple.bind (Q := fun _ _ c => c.All NamesKnown ∧ e.agentName ∈ c.data.agentNames.vals)
    (triple_write fun n c hc => ⟨fun _ => ?_, fun _ => hc⟩) fun _ => ?_
  · refine ⟨⟨hc.1.mono (fun name hname => ?_) (fun _ => id) rfl rfl, hc.2⟩, ?_⟩
    · exact UniqueTable.mem_vals_insertOrIgnore.mpr (.inl hname)
    · exact UniqueTable.mem_vals_insertOrIgnore.mpr (.inr rfl)
  refine Triple.bind (triple_write_and (S := fun s => e.agentName ∈ s.agentNames.vals)
    (T := fun s => e.agentName ∈ s.agentNames.vals ∧
      e.virtualhost ∈ s.apache.virtualhostsNames.vals) fun s hs hagent => ⟨?_, hagent, ?_⟩)
    fun _ => keeps_addLog e
  · refine hs.mono (fun _ => id) (fun name hname => ?_) rfl rfl
    exact UniqueTable.mem_vals_insertOrIgnore.mpr (.inl hname)
  · exact UniqueTable.mem_vals_insertOrIgnore.mpr (.inr rfl)

/-! ### Making sessions -/

/-- The sessions in memory have the names of logs. -/
def InMemory (o : PrepareStatisticsAnalyzerObject) (s : Store) : Prop :=
  ∀ e ∈ o.state.sessions, HasLog s.apache e.agentName e.virtualhost

lemma inMemory_clear (s : Store) : InMemory .clear s := fun _ he => absurd he (by simp
  [PrepareStatisticsAnalyzerObject.clear, PrepareStatisticsAnalyzerObject.state,
    Sessionizer.State.sessions, SortedMap.values, SortedMap.empty])

/-- The sessions are those of the logs. -/
lemma InMemory.foldl {o : PrepareStatisticsAnalyzerObject} (h : InMemory o s)
    {logs : List (Row LogEntry)}
    (hlogs : ∀ r ∈ logs, HasLog s.apache r.val.agentName r.val.virtualhost) :
    InMemory (logs.foldl calculateLogEntry o) s := by
  rw [InMemory, state_foldl_calculateLogEntry]
  exact Sessionizer.all_sessions_run (fun _ _ => id) hlogs h

lemma vals_markUsed (ids : List RowId) (t : Tables) :
    ∀ l ∈ t.logs.vals, ∃ l' ∈ (markUsed ids t).logs.vals,
      l'.agentName = l.agentName ∧ l'.virtualhost = l.virtualhost := by
  intro l hl
  obtain ⟨r, hr, rfl⟩ := List.mem_map.mp hl
  exact ⟨_, List.mem_map_of_mem (List.mem_map_of_mem hr), rfl, rfl⟩

lemma HasLog.markUsed {t : Tables} {agentName virtualhost : Text}
    (h : HasLog t agentName virtualhost)
    (ids : List RowId) : HasLog (markUsed ids t) agentName virtualhost := by
  obtain ⟨l, hl, rfl, rfl⟩ := h
  exact vals_markUsed ids t l hl

lemma NamesKnown.markUsed (h : NamesKnown s) (ids : List RowId) :
    NamesKnown { s with apache := Apache.markUsed ids s.apache } := by
  have hlogs : ∀ l ∈ (Apache.markUsed ids s.apache).logs.vals, ∃ l' ∈ s.apache.logs.vals,
      l'.agentName = l.agentName ∧ l'.virtualhost = l.virtualhost := by
    intro l hl
    obtain ⟨r', hr', rfl⟩ := List.mem_map.mp hl
    obtain ⟨r, hr, rfl⟩ := List.mem_map.mp hr'
    exact ⟨r.val, List.mem_map_of_mem hr, rfl, rfl⟩
  refine ⟨fun l hl => ?_, fun l hl => ?_, fun e he => (h.sessions e he).markUsed ids⟩
  · obtain ⟨l', hl', hagent, -⟩ := hlogs l hl
    exact hagent ▸ h.agentNames l' hl'
  · obtain ⟨l', hl', -, hvirtualhost⟩ := hlogs l hl
    exact hvirtualhost ▸ h.virtualhosts l' hl'

/-- A batch. -/
lemma triple_calculateStatistics_known (tie : RowId ↪ ℤ) (agentName virtualhostName : Text)
    (count : ℕ) (o : PrepareStatisticsAnalyzerObject) : Triple env
      (fun _ c => c.All NamesKnown ∧ InMemory o c.data)
      (calculateStatistics tie agentName virtualhostName count o)
      (fun o' _ c => c.All NamesKnown ∧ InMemory o' c.data) fun _ _ c => c.All NamesKnown := by
  refine Triple.bind (Q := fun logs _ c => c.All NamesKnown ∧ InMemory o c.data ∧
    ∀ r ∈ logs, HasLog c.data.apache r.val.agentName r.val.virtualhost)
    (triple_query fun n c hc => ⟨fun _ => ⟨hc.1, hc.2, fun r hr => ?_⟩, fun _ => hc.1⟩)
    fun logs => ?_
  · have hr := List.mem_of_mem_drop (List.mem_of_mem_take hr)
    exact ⟨r.val, List.mem_map_of_mem (mem_unusedLogs.mp hr).1, rfl, rfl⟩
  refine Triple.bind (triple_write_and (S := fun s => InMemory o s ∧
      ∀ r ∈ logs, HasLog s.apache r.val.agentName r.val.virtualhost)
    (T := fun s => InMemory (logs.foldl calculateLogEntry o) s) fun s hs hlogs =>
      ⟨hs.markUsed _, ?_⟩) fun _ => Triple.pure fun _ _ => id
  exact fun e he => (hlogs.1.foldl hlogs.2 e he).markUsed _

lemma NamesKnown.insertSession (h : NamesKnown s) {e : SessionEntry}
    (he : HasLog s.apache e.agentName e.virtualhost) :
    NamesKnown { s with apache := insertSession e s.apache } := by
  refine ⟨h.agentNames, h.virtualhosts, fun e' he' => ?_⟩
  have he' : e' ∈ (s.apache.sessions.insert e).vals := he'
  rw [Table.insert_vals] at he'
  rcases List.mem_append.mp he' with he' | he'
  · exact h.sessions e' he'
  · rw [List.mem_singleton.mp he']
    exact he

lemma keeps_rollback : Prog.Keeps (fun c => c.All NamesKnown) rollback := by
  have hrollback : StepsIn (fun _ _ => False) (tryExec [.rollback]) :=
    steps_tryExec fun f hf => by simp at hf
  refine (hrollback.keeps fun _ _ h => h.elim).bind fun ret => ?_
  cases ret with
  | none => exact fun _ _ _ => id
  | some code => exact fun _ _ _ => id

/-- What follows a statement of the transaction. -/
lemma triple_after_statement {P : ℕ → Connection Store → Prop}
    (hP : ∀ n c, P n c → c.All NamesKnown)
    {p : DatabaseM Bool} (hp : Triple env P p (fun _ _ c => c.All NamesKnown)
      fun _ _ c => c.All NamesKnown) (ret : Option ResultCode) :
    Triple env P
      (if ret = some .busy then do
          rollback
          pure false
        else do
          statementCheckForErrorAndRollback ret
          p) (fun _ _ c => c.All NamesKnown) fun _ _ c => c.All NamesKnown := by
  have hrollback : Triple env P rollback (fun _ _ c => c.All NamesKnown)
      fun _ _ c => c.All NamesKnown :=
    (keeps_rollback env).weaken hP (fun _ _ _ => id) fun _ _ _ => id
  split_ifs
  · exact hrollback.bind fun _ => Triple.pure fun _ _ => id
  · cases ret with
    | none => exact hp
    | some code =>
        refine Triple.bind (Q := fun _ _ _ => False) ?_ fun _ _ _ h => h.elim
        exact hrollback.bind fun _ _ _ h => h

lemma triple_addSessionEntries_known (sessions : List SessionEntry) : Triple env
    (fun _ c => c.All NamesKnown ∧
      ∀ e ∈ sessions, HasLog c.data.apache e.agentName e.virtualhost)
    (addSessionEntries sessions) (fun _ _ c => c.All NamesKnown) fun _ _ c => c.All NamesKnown := by
  induction sessions with
  | nil =>
      refine Triple.bind (triple_tryExec_and (S := fun s => ∀ e ∈ ([] : List SessionEntry),
        HasLog s.apache e.agentName e.virtualhost) (fun f hf => ?_) (by simp)) fun ret =>
          triple_after_statement (fun _ _ h => h.1) (Triple.pure fun _ _ h => h.1) ret
      simp at hf
  | cons e sessions ih =>
      refine Triple.bind (Q := fun _ _ c => c.All NamesKnown ∧
        ∀ e ∈ sessions, HasLog c.data.apache e.agentName e.virtualhost) ?_ fun ret =>
          triple_after_statement (fun _ _ h => h.1) ih ret
      refine Triple.weaken (triple_tryExec_and (S := fun s => ∀ x ∈ e :: sessions,
        HasLog s.apache x.agentName x.virtualhost) (fun f hf s s' hs hnames hs' => ?_)
          (by simp [sessionStatement])) (fun _ _ => id)
        (fun _ _ _ h => ⟨h.1, fun x hx => h.2 x (List.mem_cons_of_mem _ hx)⟩) fun _ _ _ => id
      obtain rfl := Statement.write.inj (List.mem_singleton.mp hf)
      obtain rfl := Option.some.inj hs'
      exact ⟨hs.insertSession (hnames e List.mem_cons_self), hnames⟩

lemma triple_addSessionStatistics_known (sessions : List SessionEntry) : Triple env
    (fun _ c => c.All NamesKnown ∧
      ∀ e ∈ sessions, HasLog c.data.apache e.agentName e.virtualhost)
    (addSessionStatistics sessions) (fun _ _ c => c.All NamesKnown)
      fun _ _ c => c.All NamesKnown := by
  refine Triple.bind (triple_tryExec_and (S := fun s => ∀ e ∈ sessions,
    HasLog s.apache e.agentName e.virtualhost) (fun f hf => ?_) (by simp)) fun ret => ?_
  · simp at hf
  · cases ret with
    | none => exact triple_addSessionEntries_known sessions
    | some code => exact fun n c hc => hc.1

lemma triple_createStatistics_known (tie : RowId ↪ ℤ) (agentName virtualhostName : Text)
    (o : PrepareStatisticsAnalyzerObject) : Triple env
      (fun _ c => c.All NamesKnown ∧ InMemory o c.data)
      (createStatistics tie agentName virtualhostName o)
      (fun o' _ c => c.All NamesKnown ∧ InMemory o' c.data) fun _ _ c => c.All NamesKnown := by
  refine Triple.bind (Q := fun _ _ c => c.All NamesKnown ∧ InMemory o c.data)
    (triple_query fun n c hc => ⟨fun _ => hc, fun _ => hc.1⟩) fun count => ?_
  refine Triple.bind (Q := fun o _ c => c.All NamesKnown ∧ InMemory o c.data)
    (Triple.foldlM_mem _ (fun (part : ℕ × ℕ) _ o =>
      triple_calculateStatistics_known tie agentName virtualhostName part.1 o) o) fun o => ?_
  rw [saveAllSessions_eq]
  refine (triple_addSessionStatistics_known o.state.sessions).bind fun _ => ?_
  exact Triple.pure fun n c hc => ⟨hc, inMemory_clear c.data⟩

/-- Nothing is left in memory from one virtualhost to the next. -/
lemma triple_prepare (order : NamesOrder) (tie : RowId ↪ ℤ) (due : Bool) :
    Triple env (fun _ c => c.All NamesKnown) (prepare order tie due .clear)
      (fun _ _ c => c.All NamesKnown) fun _ _ c => c.All NamesKnown := by
  refine Triple.bind (Q := fun _ _ c => c.All NamesKnown)
    (triple_query fun n c hc => ⟨fun _ => hc, fun _ => hc⟩) fun should => ?_
  split_ifs
  · refine Triple.bind (Q := fun _ _ c => c.All NamesKnown)
      (triple_query fun n c hc => ⟨fun _ => hc, fun _ => hc⟩) fun agentNames => ?_
    refine Triple.weaken (Triple.foldlM_mem (I := fun o _ c => c.All NamesKnown ∧ InMemory o c.data)
      agentNames (fun agentName _ o => ?_) .clear) (fun _ c hc => ⟨hc, inMemory_clear c.data⟩)
      (fun _ _ _ h => h.1) fun _ _ _ => id
    refine Triple.bind (Q := fun _ _ c => c.All NamesKnown ∧ InMemory o c.data)
      (triple_query fun n c hc => ⟨fun _ => hc, fun _ => hc.1⟩) fun virtualhostNames => ?_
    exact Triple.foldlM_mem virtualhostNames (fun virtualhostName _ o =>
      triple_createStatistics_known tie agentName virtualhostName o) o
  · exact Triple.pure fun _ _ => id

/-! ### Classifying them -/

/-- What an analysis of the sessions leaves alone. -/
structure Analyzing (s₀ : Store) (c : Connection Store) : Prop where
  known : c.All NamesKnown
  agentNames : c.data.agentNames = s₀.agentNames
  virtualhostsNames : c.data.apache.virtualhostsNames = s₀.apache.virtualhostsNames
  logs : c.data.apache.logs = s₀.apache.logs

/-- The exceptions of an analysis are those of calls that fail. -/
def FoundAll (e : DatabaseException) (_ : ℕ) (c : Connection Store) : Prop :=
  e ≠ .itemNotFoundException ∧ c.All NamesKnown

variable {s₀ : Store}

lemma Analyzing.failed {c : Connection Store} (h : Analyzing s₀ c) (n : ℕ) :
    FoundAll .cantExecuteSqlStatementException n c := ⟨by decide, h.known⟩

lemma triple_query_analyzing {α : Type} (f : Store → α) : Triple env (fun _ c => Analyzing s₀ c)
    (query f) (fun _ _ c => Analyzing s₀ c) FoundAll :=
  triple_query fun _ _ hc => ⟨fun _ => hc, fun _ => hc.failed _⟩

/-- A lookup that finds what it looks for. -/
lemma triple_found {α β : Type} {f : Store → Option β} {b : β} {g : β → DatabaseM α}
    {Q : α → ℕ → Connection Store → Prop} (h : ∀ c, Analyzing s₀ c → f c.data = some b)
    (hg : Triple env (fun _ c => Analyzing s₀ c) (g b) Q FoundAll) :
    Triple env (fun _ c => Analyzing s₀ c) (queryFirst f >>= g) Q FoundAll := by
  have hfind : Triple env (fun _ c => Analyzing s₀ c) (queryFirst f)
      (fun found _ c => Analyzing s₀ c ∧ found = b) FoundAll :=
    triple_queryFirst_some fun n c hc => ⟨b, h c hc, fun _ => ⟨hc, rfl⟩, fun _ => hc.failed _⟩
  refine hfind.bind fun found => ?_
  rintro n c ⟨hc, rfl⟩
  exact hg n c hc

lemma NamesKnown.setClassification (h : NamesKnown s) (id : RowId)
    (classification : Classification) :
    NamesKnown { s with apache := setClassification id classification s.apache } := by
  refine ⟨h.agentNames, h.virtualhosts, fun e he => ?_⟩
  obtain ⟨r', hr', rfl⟩ := List.mem_map.mp he
  obtain ⟨r, hr, rfl⟩ := List.mem_map.mp hr'
  have hsession := h.sessions r.val (List.mem_map_of_mem hr)
  dsimp only
  split_ifs <;> exact hsession

lemma triple_analyzeSession (unset : Row SessionEntry) (agentId virtualhostId : RowId)
    (learningSetCount : ℕ) (o : KnnAnalyzerObject) (session : Row SessionEntry) :
    Triple env (fun _ c => Analyzing s₀ c)
      (analyzeSession unset agentId virtualhostId learningSetCount o session)
      (fun _ _ c => Analyzing s₀ c) FoundAll := by
  refine Triple.bind (Triple.foldlM_mem (I := fun _ _ c => Analyzing s₀ c) _
    (fun part _ table => ?_) _) fun table => ?_
  · refine (triple_query_analyzing _).bind fun ids => ?_
    exact Triple.foldlM_mem (I := fun _ _ c => Analyzing s₀ c) ids (fun sessionId _ table =>
      (triple_query_analyzing _).bind fun _ => Triple.pure fun _ _ => id) table
  refine Triple.bind (triple_write fun n c hc => ⟨fun _ => ?_, fun _ => hc.failed _⟩) fun _ =>
    Triple.pure fun _ _ => id
  exact ⟨⟨hc.known.1.setClassification _ _, hc.known.2⟩, hc.agentNames, hc.virtualhostsNames,
    hc.logs⟩

section Virtualhost

variable {unset : Row SessionEntry} {agentId virtualhostId : RowId}
  {agentName virtualhostName : Text}
  (hagent : s₀.agentNames.get? agentId = some agentName)
  (hvirtualhost : s₀.apache.virtualhostsNames.get? virtualhostId = some virtualhostName)

include hagent hvirtualhost

/-- The names of ids that were looked up are found again. -/
lemma triple_namesById {α : Type} {g : Text → Text → DatabaseM α}
    {Q : α → ℕ → Connection Store → Prop}
    (hg : Triple env (fun _ c => Analyzing s₀ c) (g agentName virtualhostName) Q FoundAll) :
    Triple env (fun _ c => Analyzing s₀ c) (getAgentNameById agentId >>= fun agentName =>
      getVirtualhostNameById virtualhostId >>= fun virtualhostName => g agentName virtualhostName)
      Q FoundAll := by
  refine triple_found (b := agentName) (fun c hc => ?_) (triple_found (b := virtualhostName)
    (fun c hc => ?_) hg)
  · rw [hc.agentNames]
    exact hagent
  · rw [hc.virtualhostsNames]
    exact hvirtualhost

lemma triple_analyzeSessions (limit : ℕ) (o : KnnAnalyzerObject) :
    Triple env (fun _ c => Analyzing s₀ c) (analyzeSessions unset agentId virtualhostId limit o)
      (fun _ _ c => Analyzing s₀ c) FoundAll := by
  refine Triple.bind (triple_namesById hagent hvirtualhost (triple_query_analyzing _))
    fun part => ?_
  refine (triple_query_analyzing _).bind fun learningSetCount => ?_
  exact Triple.foldlM_mem part (fun session _ o =>
    triple_analyzeSession unset agentId virtualhostId learningSetCount o session) _

lemma triple_analyzeVirtualhost (detected : Bool) : Triple env (fun _ c => Analyzing s₀ c)
    (analyzeVirtualhost unset agentId virtualhostId detected) (fun _ _ c => Analyzing s₀ c)
    FoundAll := by
  refine Triple.bind (triple_namesById hagent hvirtualhost (triple_query_analyzing _))
    fun count => ?_
  exact Triple.foldlM_mem _ (fun (part : ℕ × ℕ) _ o =>
    triple_analyzeSessions hagent hvirtualhost part.1 o) _

end Virtualhost

/-- The ids of an agent and a virtualhost of a log are found, and so are their names. -/
lemma triple_analyzeNamed {unset : Row SessionEntry} (hknown : NamesKnown s₀)
    {agentName virtualhostName : Text}
    (hlog : HasLog s₀.apache agentName virtualhostName)
    (result : Bool × List KnnVirtualhostAnalyzeStatistics) : Triple env (fun _ c => Analyzing s₀ c)
      (analyzeNamed unset agentName result virtualhostName) (fun _ _ c => Analyzing s₀ c)
      FoundAll := by
  obtain ⟨hagent, hvirtualhost⟩ := hknown.hasLog_names hlog
  obtain ⟨agentId, hagentId, hagentName⟩ := exists_idOf?_of_mem_vals hagent
  obtain ⟨virtualhostId, hvirtualhostId, hvirtualhostName⟩ := exists_idOf?_of_mem_vals hvirtualhost
  refine triple_found (b := agentId) (fun c hc => ?_) ?_
  · rw [hc.agentNames]
    exact hagentId
  refine Triple.bind (Q := fun found _ c => Analyzing s₀ c ∧ found = virtualhostId)
    (triple_query fun n c hc => ⟨fun _ => ⟨hc, ?_⟩, fun _ => hc.failed _⟩) fun found => ?_
  · rw [hc.virtualhostsNames, hvirtualhostId]
    rfl
  · rintro n c ⟨hc, rfl⟩
    exact (triple_analyzeVirtualhost hagentName hvirtualhostName result.1).bind
      (fun _ => Triple.pure fun _ _ => id) n c hc

/-- **The analysis of the sessions finds every name it looks up.** -/
lemma triple_analyze (order : NamesOrder) (unset : Row SessionEntry) (hknown : NamesKnown s₀) :
    Triple env (fun _ c => Analyzing s₀ c) (Apache.analyze order unset)
      (fun _ _ c => Analyzing s₀ c) FoundAll := by
  refine Triple.bind (triple_query_analyzing _) fun agentNames => ?_
  refine Triple.foldlM_mem (I := fun _ _ c => Analyzing s₀ c) agentNames
    (fun agentName _ result => ?_) (false, [])
  refine Triple.bind (Q := fun names _ c => Analyzing s₀ c ∧
    ∀ virtualhostName ∈ names, HasLog s₀.apache agentName virtualhostName)
    (triple_query fun n c hc => ⟨fun _ => ⟨hc, fun virtualhostName hname => ?_⟩,
      fun _ => hc.failed _⟩) fun names => ?_
  · rw [hc.logs] at hname
    exact (order.mem_virtualhostNames _ _ _).mp hname
  · rintro n c ⟨hc, hnames⟩
    exact Triple.foldlM_mem (I := fun _ _ c => Analyzing s₀ c) names
      (fun virtualhostName hname result =>
      triple_analyzeNamed hknown (hnames virtualhostName hname) result) result n c hc

/-! ### Runs keep the names -/

lemma keeps_setLastRun (timestamp : Timestamp) :
    Prog.Keeps (fun c => c.All NamesKnown) (setLastRun timestamp) := by
  have hsteps : StepsIn (fun s s' => NamesKnown s → NamesKnown s') (setLastRun timestamp) := by
    refine Prog.Steps.bind ?_ fun _ => Prog.Steps.bind ?_ fun _ => steps_write fun _ => id
    · refine (steps_query _).bind fun i => ?_
      split_ifs
      · exact (steps_write fun s h => h.mono (fun _ => id) (fun _ => id) rfl rfl).bind fun _ =>
          steps_query _
      · exact Prog.Steps.pure i
    · refine (steps_query _).bind fun i => ?_
      split_ifs
      · exact (steps_write fun s h => h.mono (fun _ => id) (fun _ => id) rfl rfl).bind fun _ =>
          steps_query _
      · exact Prog.Steps.pure i
  exact hsteps.keeps fun _ _ => id

lemma keeps_event (x : Event) : Prog.Keeps (fun c => c.All NamesKnown) x.program := by
  cases x with
  | addLogEntry message =>
      rw [Event.program, ownMessageHandler]
      cases message.logEntry? with
      | none => exact fun env => Triple.pure fun _ _ => id
      | some e => exact keeps_storeLogEntry e
  | analysis order tie unset run due now =>
      refine Prog.Keeps.bind (fun env => ?_) fun _ env => Triple.pure fun _ _ => id
      refine Triple.bind (Q := fun _ _ c => c.All NamesKnown)
        (triple_query fun n c hc => ⟨fun _ => hc, fun _ => hc⟩) fun should => ?_
      split_ifs
      · refine (triple_prepare order tie due).bind fun _ => ?_
        refine Triple.bind (Q := fun _ _ c => c.All NamesKnown) (fun n c hc => ?_) fun result =>
          (keeps_setLastRun now env).bind fun _ => Triple.pure fun _ _ => id
        exact (triple_analyze order unset hc.1).weaken (fun _ _ => id)
          (fun _ _ _ h => h.known) (fun _ _ _ h => h.2) n c ⟨hc, rfl, rfl, rfl⟩
      · exact Triple.pure fun _ _ => id

lemma Reached.known {c : Connection Store} (h : Reached c) : c.All NamesKnown := by
  induction h with
  | empty =>
      exact ⟨⟨fun _ hl => absurd hl List.not_mem_nil, fun _ hl => absurd hl List.not_mem_nil,
        fun _ he => absurd he List.not_mem_nil⟩, fun _ hd => nomatch hd⟩
  | step x env _ ih => exact (keeps_event x).run env 0 ih
  | restart _ ih => exact ih.committed

/-- **An Apache analysis never meets an unknown name**, whatever failed before and
whatever fails in it. -/
theorem names_known {c : Connection Store} (h : Reached c) : NamesKnown c.data ∧
    ∀ order, (∀ p ∈ virtualhosts order c.data.apache, LookupsSucceed c p) ∧ ∀ unset env n,
      ((Apache.analyze order unset).run env n c).1 ≠ .error .itemNotFoundException := by
  have hknown := h.known
  refine ⟨hknown.1, fun order => ⟨fun p => hknown.1.lookupsSucceed, fun unset env n herror => ?_⟩⟩
  rcases hrun : (Apache.analyze order unset).run env n c with ⟨r, n', c'⟩
  rw [hrun] at herror
  obtain rfl : r = _ := herror
  exact ((triple_analyze order unset hknown.1).of_error ⟨hknown, rfl, rfl, rfl⟩ hrun).1 rfl

/-- A request at noon of the first of January. -/
def someLogEntry : AddLogEntry where
  agentName := cString [97]
  virtualhost := cString [118]
  clientIp := cString [49]
  hour := 12
  minute := 0
  second := 0
  day := 1
  month := 1
  year := 2016
  request := ⟨[71], by decide⟩
  statusCode := 200
  bytes := 512
  userAgent := ⟨[117], by decide⟩

theorem names_known_oneLog :
    let c := ((Event.addLogEntry someLogEntry).program.run (fun _ => none) 0
      (⟨Store.empty, none⟩ : Connection Store)).2.2
    NamesKnown c.data ∧ ∀ order, (∀ p ∈ virtualhosts order c.data.apache, LookupsSucceed c p) ∧
      ∀ unset env n, ((Apache.analyze order unset).run env n c).1 ≠ .error .itemNotFoundException :=
  names_known (.step (.addLogEntry someLogEntry) (fun _ => none) .empty)

/-- The log is there, and an analysis meets its names. -/
example : virtualhosts .sorted ((Event.addLogEntry someLogEntry).program.run (fun _ => none) 0
    (⟨Store.empty, none⟩ : Connection Store)).2.2.data.apache
      = [(someLogEntry.agentName, someLogEntry.virtualhost)] := by decide +kernel

end Slas.Apache
