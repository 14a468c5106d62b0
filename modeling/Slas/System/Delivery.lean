import Mathlib
import Slas.Agent.AcceptedEntries
import Slas.Agent.DBusThread
import Slas.Lib.RemoteCalls
import Slas.System.Handlers

/-!
The way of a log from the agents to the tables of the server:
`agent/src/dbus/dbus_thread.cpp`, the two D-Bus commands and proxies of the agent,
`libslas/src/dbus/bus.cpp`, and the handlers of the two D-Bus objects of the server.

* `Entry`, `Message`: what an agent forwards, and the method calls;
* `System`, `Step`: the agents, their messages on the bus and the server, and each of
  their steps;
* `Reachable`: the states of all runs, and of those in which nothing fails;
* `Entry.Timed`: the handler does not throw on an entry before it stores it;
* `Delivered`: what was received is stored at most once and in order, and what is
  missing is still on the agent or is one of the calls that were given up;
* `delivered`: in all states of all runs, whatever fails;
* `Entry.OfTimedText`: what the receivers of an agent make of a text, unless it is a line
  of Apache without a timestamp.

An exception of a handler leaves `Bus::Loop`, and the server ends. A server that is
killed between two calls of a handler leaves what a failing call leaves. All of this is
about runs in which no other thread of the server has a transaction open while a handler
makes a call, as `Others` has it.
-/

namespace Slas.Delivery

open Agent (State Command OthersStep LoopStep)
open Database
open Prog (Interrupted)
open RemoteCalls (Caller)

/-! ### Messages -/

/-- What a D-Bus command of an agent forwards. -/
inductive Entry where
  | bash (entry : Agent.BashLogEntry)
  | apache (entry : Agent.ApacheLogEntry)
  deriving DecidableEq

/-- `BashProxy::AddLogEntry`: the arguments of the message, the strings passed as
`c_str()`. -/
def bashMessage (entry : Agent.BashLogEntry) : Bash.AddLogEntry :=
  { agentName := cString entry.agentName
    hour := entry.utcTime.hour
    minute := entry.utcTime.minute
    second := entry.utcTime.second
    day := entry.utcTime.day
    month := entry.utcTime.month
    year := entry.utcTime.year
    userId := entry.userId
    command := cString entry.command }

/-- `OwnMessageHandler` of the object the message of an entry is for; `none` if it throws
before it uses the database. -/
def Entry.handler? : Entry → Option (DatabaseM Unit)
  | .bash entry => Bash.ownMessageHandler (bashMessage entry)
  | .apache entry => Apache.ownMessageHandler entry.message

/-- The server sets the time of the entry. -/
def Entry.Timed (entry : Entry) : Prop := entry.handler?.isSome

/-! ### The agents, the bus and the server -/

variable {ι R : Type}

/-- An agent: its D-Bus thread, and the calls that thread makes. -/
structure AgentState (R : Type) where
  thread : State R Entry
  calls : Caller Entry

/-- All agents, and the server: whether it is there, its database, and a record of the
messages its handlers returned from, in order. -/
structure System (ι R : Type) where
  agents : ι → AgentState R
  running : Bool
  store : Store
  handled : List (ι × Entry)

/-- The server has been started on an empty database, and no agent has done anything. -/
def System.initial : System ι R := ⟨fun _ => ⟨.initial, .initial⟩, true, Store.empty, []⟩

/-- The steps of an agent. `Execute` sends the message and blocks until there is a reply,
or an error in place of it. -/
inductive AgentStep (calm : Prop) (up : Bool) : AgentState R → AgentState R → Prop
  | others (a : AgentState R) {thread : State R Entry} (h : OthersStep a.thread thread) :
      AgentStep calm up a { a with thread := thread }
  | loop (a : AgentState R) {thread : State R Entry} (h : LoopStep a.thread thread)
      (hplace : a.thread.place.taken = []) : AgentStep calm up a { a with thread := thread }
  | send (a : AgentState R) {command : Command R Entry} (h : a.thread.place = .execute command)
      (hpending : a.calls.pending = none) :
      AgentStep calm up a { a with calls := a.calls.send up command.command }
  | reply (a : AgentState R) {n : ℕ} {thread : State R Entry} (hpending : a.calls.pending = some n)
      (hn : n ∈ a.calls.replies) (h : LoopStep a.thread thread) :
      AgentStep calm up a ⟨thread, a.calls.answered⟩
  | giveUp (a : AgentState R) {n : ℕ} {thread : State R Entry} (hcalm : ¬calm)
      (hpending : a.calls.pending = some n) (h : LoopStep a.thread thread) :
      AgentStep calm up a ⟨thread, a.calls.giveUp⟩
  | lose (a : AgentState R) {inFlight : List (ℕ × Entry)} {replies : List ℕ} (hcalm : ¬calm)
      (hflight : inFlight.Sublist a.calls.inFlight) (hreplies : replies.Sublist a.calls.replies) :
      AgentStep calm up a { a with calls := a.calls.lose inFlight replies }

/-- The faults that may be put on the calls of a handler. -/
def may (calm : Prop) (fault : Option Fault) : Prop := calm → fault = none

/-- The server is gone, and with it the messages that were on their way to it. -/
def System.down (store : Store) (σ : System ι R) : System ι R :=
  { σ with
    agents := fun i => { σ.agents i with
      calls := (σ.agents i).calls.lose [] (σ.agents i).calls.replies }
    running := false
    store := store }

variable [DecidableEq ι]

/-- An agent has changed. -/
def System.withAgent (σ : System ι R) (i : ι) (a : AgentState R) : System ι R :=
  { σ with agents := Function.update σ.agents i a }

/-- A message of an agent has been handled and is replied to. -/
def System.handle (σ : System ι R) (i : ι) (n : ℕ) (e : Entry) (rest : List (ℕ × Entry))
    (store : Store) : System ι R :=
  { σ.withAgent i { σ.agents i with calls := (σ.agents i).calls.handle n rest } with
    store := store
    handled := σ.handled ++ [(i, e)] }

/-- All steps. In a calm run nothing fails: no call of the database, no message, no
waiting for a reply, and nobody stops the server. In all runs the handlers make their calls
outside the transactions of the other threads. -/
inductive Step (calm : Prop) : System ι R → System ι R → Prop
  | agent (σ : System ι R) (i : ι) {a : AgentState R}
      (h : AgentStep calm σ.running (σ.agents i) a) : Step calm σ (σ.withAgent i a)
  | handle (σ : System ι R) (i : ι) {n : ℕ} {e : Entry} {rest : List (ℕ × Entry)}
      {p : DatabaseM Unit} {c : Connection Store} (hrunning : σ.running = true)
      (hflight : (σ.agents i).calls.inFlight = (n, e) :: rest) (hp : e.handler? = some p)
      (hrun : Interrupted Others (may calm) p ⟨σ.store, none⟩ (.ok ()) c) :
      Step calm σ (σ.handle i n e rest c.data)
  | throw (σ : System ι R) (i : ι) {n : ℕ} {e : Entry} {rest : List (ℕ × Entry)}
      {p : DatabaseM Unit} {ex : DatabaseException} {c : Connection Store}
      (hrunning : σ.running = true)
      (hflight : (σ.agents i).calls.inFlight = (n, e) :: rest) (hp : e.handler? = some p)
      (hrun : Interrupted Others (may calm) p ⟨σ.store, none⟩ (.error ex) c) :
      Step calm σ (σ.down c.committed)
  | throwTime (σ : System ι R) (i : ι) {n : ℕ} {e : Entry} {rest : List (ℕ × Entry)}
      (hrunning : σ.running = true)
      (hflight : (σ.agents i).calls.inFlight = (n, e) :: rest) (hp : e.handler? = none) :
      Step calm σ (σ.down σ.store)
  | stop (σ : System ι R) (hcalm : ¬calm) : Step calm σ (σ.down σ.store)
  | start (σ : System ι R) (hrunning : σ.running = false) :
      Step calm σ { σ with running := true }
  | others (σ : System ι R) {s : Store} (h : Kept σ.store s) : Step calm σ { σ with store := s }

/-- The operations of the bash side are such steps, whatever fails in them. -/
lemma Step.operation {calm : Prop} (σ : System ι R) {x : Bash.Operation}
    (hadd : ¬∃ e, x = .addLog e)
    (hothers : ¬∃ sts hsts, x = .others sts hsts) (env : ℕ → Option Fault) :
    Step calm σ { σ with store := (x.program.run env 0 ⟨σ.store, none⟩).2.2.data } :=
  .others σ ((keeps_operation hadd hothers σ.store).run env 0
    (s := ⟨σ.store, none⟩) ⟨.refl _, by simp⟩).1

/-- The states of all runs. -/
inductive Reachable (calm : Prop) : System ι R → Prop
  | initial : Reachable calm .initial
  | step {σ σ' : System ι R} (h : Reachable calm σ) (hstep : Step calm σ σ') : Reachable calm σ'

/-- The entries of an agent whose messages were handled, in order. -/
def System.handledOf (σ : System ι R) (i : ι) : List Entry :=
  (σ.handled.filter fun p => p.1 = i).map Prod.snd

/-- The entries an agent has received, in order. -/
def System.received (σ : System ι R) (i : ι) : List Entry :=
  (σ.agents i).thread.added.map (·.command)

/-- How many of them its thread has not executed yet. -/
def System.waiting (σ : System ι R) (i : ι) : ℕ :=
  (σ.agents i).thread.place.taken.length + (σ.agents i).thread.commands.length

/-! ### What is promised -/

/-- The entry `Scripts::AddLog` is called with. -/
def Entry.bash? : Entry → Option BashLogEntry
  | .bash entry => Bash.AddLogEntry.logEntry? (bashMessage entry)
  | .apache _ => none

/-- The entry `AddLogs` is called with. -/
def Entry.apache? : Entry → Option Apache.LogEntry
  | .bash _ => none
  | .apache entry => entry.message.logEntry?

/-- The tables hold the logs of these entries and no others, in this order, and the names
of a log of bash are found under its ids. -/
structure Tabled (entries : List Entry) (s : Store) : Prop where
  bash : List.Forall₂ (Bash.HoldsNames s) ((entries.filterMap Entry.bash?).filter (Bash.Storable ·))
    s.bash.logs.vals
  apache : apacheLogs s = entries.filterMap Entry.apache?

section Handlers

variable {calm : Prop} {e : Entry} {entries : List Entry} {s : Store} {c : Connection Store}
  {p : DatabaseM Unit}

lemma Tabled.kept {s' : Store} (h : Tabled entries s) (hkept : Kept s s') : Tabled entries s' := by
  refine ⟨?_, hkept.apacheLogs.trans h.apache⟩
  rw [hkept.bashLogs]
  exact h.bash.imp fun _ _ => holdsNames_of_grows hkept.names

/-- A log of bash that is stored. -/
lemma Tabled.bashLogAdded {s' : Store} {logEntry : BashLogEntry} (h : Tabled entries s)
    (hadded : BashLogAdded logEntry s s') (he : e.bash? = some logEntry) (hnone : e.apache? = none)
    (hst : Bash.Storable logEntry) : Tabled (entries ++ [e]) s' := by
  obtain ⟨l, hlogs, hl⟩ := hadded.bashLogs
  refine ⟨?_, ?_⟩
  · rw [hlogs]
    simp only [List.filterMap_append, List.filter_append, List.filterMap_cons, he,
      List.filterMap_nil, List.filter_singleton, decide_eq_true hst, cond_true]
    exact List.rel_append (h.bash.imp fun _ _ => holdsNames_of_grows hadded.names)
      (.cons hl .nil)
  · rw [hadded.apacheLogs, h.apache]
    simp [hnone]

/-- A log of bash whose command is blank. -/
lemma Tabled.blank {s' : Store} {logEntry : BashLogEntry} (h : Tabled entries s)
    (hkept : Kept s s') (he : e.bash? = some logEntry) (hnone : e.apache? = none)
    (hst : ¬Bash.Storable logEntry) : Tabled (entries ++ [e]) s' := by
  have htabled := h.kept hkept
  refine ⟨?_, ?_⟩
  · simpa [he, hst] using htabled.bash
  · simpa [hnone] using htabled.apache

lemma asAdded_of_apache? {logEntry : Apache.LogEntry} (h : e.apache? = some logEntry) :
    asAdded logEntry = logEntry := by
  cases e with
  | bash entry => cases h
  | apache entry =>
      obtain ⟨time, -, rfl⟩ := Option.map_eq_some_iff.mp h
      rfl

lemma Tabled.apacheLogAdded {s' : Store} {logEntry : Apache.LogEntry} (h : Tabled entries s)
    (hadded : ApacheLogAdded logEntry s s') (he : e.apache? = some logEntry)
    (hnone : e.bash? = none) : Tabled (entries ++ [e]) s' := by
  refine ⟨?_, ?_⟩
  · rw [hadded.bashLogs]
    simpa [hnone] using h.bash.imp fun _ _ => holdsNames_of_grows hadded.names
  · rw [hadded.apacheLogs, h.apache, asAdded_of_apache? he]
    simp [he]

/-- The handler of an entry of bash, and of one of Apache. -/
lemma handler?_cases (hp : e.handler? = some p) :
    (∃ logEntry, e.bash? = some logEntry ∧ e.apache? = none ∧ p = Bash.Scripts.addLog logEntry) ∨
      ∃ logEntry, e.apache? = some logEntry ∧ e.bash? = none ∧
        p = Apache.storeLogEntry logEntry := by
  cases e with
  | bash entry =>
      obtain ⟨logEntry, hentry, rfl⟩ := Option.map_eq_some_iff.mp hp
      exact .inl ⟨logEntry, hentry, rfl, rfl⟩
  | apache entry =>
      obtain ⟨logEntry, hentry, rfl⟩ := Option.map_eq_some_iff.mp hp
      exact .inr ⟨logEntry, hentry, rfl, rfl⟩

lemma at_start (s : Store) : At (Kept s) ⟨s, none⟩ := ⟨rfl, .refl s⟩

/-- A blank command is not stored. -/
lemma addLog_of_not_storable {logEntry : BashLogEntry} (h : ¬Bash.Storable logEntry) :
    Bash.Scripts.addLog logEntry = pure () := by
  rw [Bash.Scripts.addLog, if_pos (not_not.mp h)]

/-- **A handler that returns** has stored its entry. -/
lemma handler_ok (entries : List Entry) (hplain : PlainCommands s) (hp : e.handler? = some p)
    (hrun : Interrupted Others (may calm) p ⟨s, none⟩ (.ok ()) c) :
    PlainCommands c.data ∧ (Tabled entries s → Tabled (entries ++ [e]) c.data) := by
  rcases handler?_cases hp with ⟨logEntry, he, hnone, rfl⟩ | ⟨logEntry, he, hnone, rfl⟩
  · by_cases hst : Bash.Storable logEntry
    · have hadded := (assured_addLog logEntry hplain hst _ _ _ (at_start s) hrun).2
      exact ⟨hadded.plain, fun h => h.bashLogAdded hadded he hnone hst⟩
    · rw [addLog_of_not_storable hst] at hrun
      cases hrun with
      | pure hothers =>
          exact ⟨hothers.kept.plain hplain, fun h => h.blank hothers.kept he hnone hst⟩
  · have hadded := (assured_storeLogEntry logEntry _ _ _ (at_start s) hrun).2
    exact ⟨hadded.plain hplain, fun h => h.apacheLogAdded hadded he hnone⟩

/-- **A handler that throws** has stored nothing, and a call of it has failed. -/
lemma handler_error (hplain : PlainCommands s) (hp : e.handler? = some p) {ex : DatabaseException}
    (hrun : Interrupted Others (may calm) p ⟨s, none⟩ (.error ex) c) :
    Kept s c.committed ∧ ¬calm := by
  have hcalm : ∀ {s₀ : Store} {c : Connection Store}, Lost (may calm) s₀ c → ¬calm := by
    intro s₀ c hlost hcalm
    obtain ⟨fault, hfault⟩ := hlost.faulty
    cases hfault hcalm
  rcases handler?_cases hp with ⟨logEntry, he, hnone, rfl⟩ | ⟨logEntry, he, hnone, rfl⟩
  · by_cases hst : Bash.Storable logEntry
    · have hlost : Lost (may calm) s c :=
        .inl (assured_addLog logEntry hplain hst _ _ _ (at_start s) hrun)
      exact ⟨hlost.kept, hcalm hlost⟩
    · rw [addLog_of_not_storable hst] at hrun
      cases hrun
  · have hlost : Lost (may calm) s c := assured_storeLogEntry logEntry _ _ _ (at_start s) hrun
    exact ⟨hlost.kept, hcalm hlost⟩

end Handlers

/-! ### The agents -/

/-- The thread has executed the commands whose calls have ended, and its pending call is
that of the command it executes. -/
structure AgentInv (a : AgentState R) (handled : List Entry) : Prop where
  thread : Agent.Inv a.thread
  calls : a.calls.Accounted handled
  sent : a.calls.sent = a.thread.executed.map (·.command) ++
    if a.calls.pending.isSome then a.thread.place.taken.map (·.command) else []
  pending : a.calls.pending.isSome → ∃ command, a.thread.place = .execute command

section Agents

variable {a a' : AgentState R} {handled : List Entry} {thread : State R Entry} {calm : Prop}
  {up : Bool}

lemma agentInv_initial : AgentInv (⟨.initial, .initial⟩ : AgentState R) [] :=
  ⟨Agent.inv_initial, Caller.accounted_initial, rfl, by simp [Caller.initial]⟩

/-- What was sent was received, in this order. -/
lemma AgentInv.prefix_sent (h : AgentInv a handled) :
    a.calls.sent <+: a.thread.added.map (·.command) := by
  rw [h.sent, h.thread.places, List.map_append, List.map_append]
  split_ifs
  · exact List.prefix_append _ _
  · rw [List.append_nil, List.append_assoc]
    exact List.prefix_append _ _

/-- The calls that have ended are those of the commands that were executed. -/
lemma AgentInv.length_sent (h : AgentInv a handled) :
    a.calls.sent.length = a.thread.executed.length + a.calls.calling := by
  rw [h.sent, Caller.calling, List.length_append, List.length_map]
  split_ifs with hpending
  · obtain ⟨command, hplace⟩ := h.pending hpending
    rw [hplace]
    rfl
  · rfl

/-- The end of a call is the end of the command. -/
lemma executed_of_loopStep {command : Command R Entry} (hplace : a.thread.place = .execute command)
    (hstep : LoopStep a.thread thread) : thread.executed = a.thread.executed ++ [command] := by
  cases hstep with
  | execute h =>
      rw [hplace] at h
      rw [Agent.Place.execute.inj h]
  | startLoop h => rw [hplace] at h; cases h
  | whileRunning h => rw [hplace] at h; cases h
  | whileAvailable h => rw [hplace] at h; cases h
  | getCommand h _ => rw [hplace] at h; cases h
  | usleep h => rw [hplace] at h; cases h

/-- The call has ended. -/
lemma AgentInv.ended (h : AgentInv a handled) {calls : Caller Entry}
    (hcalls : calls.Accounted handled)
    (hsome : a.calls.pending.isSome) (hnone : calls.pending = none)
    (hsent : calls.sent = a.calls.sent) (hstep : LoopStep a.thread thread) :
    AgentInv ⟨thread, calls⟩ handled := by
  obtain ⟨command, hplace⟩ := h.pending hsome
  refine ⟨h.thread.loop hstep, hcalls, ?_, fun hpending => ?_⟩
  · have hold := h.sent
    rw [if_pos hsome, hplace] at hold
    rw [hsent, hold, executed_of_loopStep hplace hstep, hnone]
    simp [Agent.Place.taken]
  · rw [hnone] at hpending
    cases hpending

/-- A step of the thread that leaves what was executed, and the command being executed. -/
lemma AgentInv.thread_step (h : AgentInv a handled) (hthread : Agent.Inv thread)
    (hexecuted : thread.executed = a.thread.executed)
    (hplace : a.calls.pending.isSome → thread.place = a.thread.place) :
    AgentInv { a with thread := thread } handled := by
  refine ⟨hthread, h.calls, ?_, fun hpending => ?_⟩
  · show a.calls.sent = thread.executed.map _ ++ _
    rw [hexecuted, h.sent]
    by_cases hpending : a.calls.pending.isSome
    · rw [if_pos hpending, if_pos hpending, hplace hpending]
    · rw [if_neg hpending, if_neg hpending]
  · obtain ⟨command, hcommand⟩ := h.pending hpending
    exact ⟨command, (hplace hpending).trans hcommand⟩

/-- **Every step of an agent keeps the invariant.** -/
lemma AgentInv.step (h : AgentInv a handled) (hstep : AgentStep calm up a a') :
    AgentInv a' handled := by
  cases hstep with
  | others hothers =>
      refine h.thread_step (h.thread.others hothers) ?_ fun _ => ?_ <;> cases hothers <;> rfl
  | loop hloop htaken =>
      have hnot : ¬a.calls.pending.isSome := fun hpending => by
        obtain ⟨command, hplace⟩ := h.pending hpending
        rw [hplace] at htaken
        cases htaken
      refine h.thread_step (h.thread.loop hloop) ?_ fun hpending => absurd hpending hnot
      cases hloop with
      | execute hplace =>
          rw [hplace] at htaken
          cases htaken
      | _ => rfl
  | @send command hplace hpending =>
      refine ⟨h.thread, h.calls.send hpending, ?_, fun _ => ⟨command, hplace⟩⟩
      have hsent := h.sent
      rw [hpending] at hsent
      show a.calls.sent ++ [command.command] = _ ++ a.thread.place.taken.map _
      rw [hsent, hplace]
      simp [Agent.Place.taken]
  | reply hpending hn hloop =>
      exact h.ended (h.calls.answered hpending hn) (by simp [hpending]) rfl rfl hloop
  | giveUp hcalm hpending hloop =>
      exact h.ended (h.calls.giveUp hpending) (by simp [hpending]) rfl rfl hloop
  | lose hcalm hflight hreplies =>
      exact ⟨h.thread, h.calls.lose hflight hreplies, h.sent, h.pending⟩

/-- The server handles a message. -/
lemma AgentInv.handle (h : AgentInv a handled) {n : ℕ} {e : Entry} {rest : List (ℕ × Entry)}
    (hflight : a.calls.inFlight = (n, e) :: rest) :
    AgentInv { a with calls := a.calls.handle n rest } (handled ++ [e]) :=
  ⟨h.thread, h.calls.handle hflight, h.sent, h.pending⟩

/-- The server is gone. -/
lemma AgentInv.down (h : AgentInv a handled) :
    AgentInv { a with calls := a.calls.lose [] a.calls.replies } handled :=
  ⟨h.thread, h.calls.lose (List.nil_sublist _) (List.Sublist.refl _), h.sent, h.pending⟩

end Agents

/-! ### The invariant of all runs -/

/-- Every agent and the tables, and no command has white space. -/
structure Inv (σ : System ι R) : Prop where
  agents : ∀ i, AgentInv (σ.agents i) (σ.handledOf i)
  tables : Tabled (σ.handled.map Prod.snd) σ.store
  plain : PlainCommands σ.store

section Runs

variable {calm : Prop} {σ σ' : System ι R}

lemma tabled_empty : Tabled [] Store.empty := ⟨.nil, rfl⟩

lemma inv_initial : Inv (.initial : System ι R) where
  agents _ := agentInv_initial
  tables := tabled_empty
  plain r hr := absurd hr (by simp [System.initial, Store.empty, Bash.Tables.empty])

/-- What is handled of one agent. -/
lemma handledOf_handle (σ : System ι R) (i j : ι) {n : ℕ} {e : Entry} {rest : List (ℕ × Entry)}
    {s : Store} : (σ.handle i n e rest s).handledOf j
      = if j = i then σ.handledOf j ++ [e] else σ.handledOf j := by
  rw [System.handledOf, System.handledOf]
  show ((σ.handled ++ [(i, e)]).filter fun p => p.1 = j).map Prod.snd = _
  rw [List.filter_append, List.map_append]
  by_cases hij : j = i
  · simp [hij]
  · simp [hij, Ne.symm hij]

lemma Inv.down (h : Inv σ) {s : Store} (hkept : Kept σ.store s) : Inv (σ.down s) where
  agents i := (h.agents i).down
  tables := h.tables.kept hkept
  plain := hkept.plain h.plain

/-- **Every step keeps the invariant.** -/
lemma Inv.step (h : Inv σ) (hstep : Step calm σ σ') : Inv σ' := by
  cases hstep with
  | @agent i a hagent =>
      refine ⟨fun j => ?_, h.tables, h.plain⟩
      show AgentInv (Function.update σ.agents i a j) (σ.handledOf j)
      by_cases hij : j = i
      · subst hij
        rw [Function.update_self]
        exact (h.agents j).step hagent
      · rw [Function.update_of_ne hij]
        exact h.agents j
  | @handle i n e rest p c hrunning hflight hp hrun =>
      obtain ⟨hplain, htables⟩ := handler_ok (σ.handled.map Prod.snd) h.plain hp hrun
      refine ⟨fun j => ?_, ?_, hplain⟩
      · rw [handledOf_handle]
        show AgentInv (Function.update σ.agents i _ j) _
        by_cases hij : j = i
        · subst hij
          rw [Function.update_self, if_pos rfl]
          exact (h.agents j).handle hflight
        · rw [Function.update_of_ne hij, if_neg hij]
          exact h.agents j
      · show Tabled ((σ.handled ++ [(i, e)]).map Prod.snd) c.data
        rw [List.map_append]
        exact htables h.tables
  | throw i hrunning hflight hp hrun => exact h.down (handler_error h.plain hp hrun).1
  | throwTime i hrunning hflight hp => exact h.down (.refl _)
  | stop hcalm => exact h.down (.refl _)
  | start hrunning => exact ⟨h.agents, h.tables, h.plain⟩
  | others hkept => exact ⟨h.agents, h.tables.kept hkept, hkept.plain h.plain⟩

lemma Reachable.inv (h : Reachable calm σ) : Inv σ := by
  induction h with
  | initial => exact inv_initial
  | step _ hstep ih => exact ih.step hstep

/-- The number of entries an agent has received. -/
lemma Inv.length_received (h : Inv σ) (i : ι) :
    (σ.received i).length = (σ.agents i).thread.executed.length + σ.waiting i := by
  rw [System.received, List.length_map, (h.agents i).thread.places, List.length_append,
    List.length_append, System.waiting, Nat.add_assoc]

end Runs

/-! ### What the receivers make of a text -/

/-- What the receivers of an agent make of a text, unless it is a line of Apache without a
timestamp. -/
inductive Entry.OfTimedText : Entry → Prop
  | bash {agentName : Str} {now : Agent.Tm} {utcTime : Agent.Timestamp} {uid : UInt32}
      (text : Text) (h : now.utcTime = .ok utcTime) :
      Entry.OfTimedText (.bash { agentName, utcTime, userId := uid, command := text.bytes })
  | apache {agentName : Str} {entry : Agent.ApacheLogEntry} (text : Text)
      (h : Agent.newLogEntry agentName text = .ok (some entry)) (htimed : ¬Agent.Untimed text) :
      Entry.OfTimedText (.apache entry)

lemma timed_bash_iff {entry : Agent.BashLogEntry} :
    (Entry.bash entry).Timed ↔ entry.utcTime.Checked := by
  rw [Entry.Timed, Entry.handler?, Bash.ownMessageHandler, Option.isSome_map,
    Bash.AddLogEntry.logEntry?, Option.isSome_map, Bash.AddLogEntry.utcTime?,
    Timestamp.isSome_create?]
  rfl

/-- **The server sets the time of such an entry.** -/
lemma Entry.OfTimedText.timed {e : Entry} (h : e.OfTimedText) : e.Timed := by
  cases h with
  | bash text h => exact timed_bash_iff.mpr (Agent.Timestamp.set_eq_ok_iff.mp h).2
  | apache text h htimed => exact Agent.accepted_iff_not_untimed.mpr htimed _ h

section Receivers

variable {τ : Type}

/-- An exception leaves what the loop for Bash has added. -/
lemma bashOutcome_error {rounds : ℕ} {agentName : Str} {client : Agent.BashClient τ}
    {queue queue' : List Agent.BashLogEntry} {exception : Agent.Exception}
    (h : (Agent.bashOutcome rounds agentName client).run queue = .error exception queue') :
    queue' = queue := by
  simp only [Agent.bashOutcome, Calls.run_bind_eq_error_iff, Calls.run_ofExcept_eq_ok_iff,
    Calls.run_ofExcept_eq_error_iff] at h
  rcases h with ⟨-, rfl⟩ | ⟨text, _, ⟨-, rfl⟩, ⟨-, rfl⟩ | ⟨utcTime, _, ⟨-, rfl⟩, h⟩⟩
  · rfl
  · rfl
  · cases h

/-- The loop for Bash makes nothing else. -/
lemma ofTimedText_of_mem_serveBash {rounds : ℕ} {agentName : Str}
    {events : List (Network.Event (Agent.BashClient τ))} {entry : Agent.BashLogEntry}
    (h : entry ∈ Network.left
      ((Network.startLoop (Agent.serveBash rounds agentName) events).run { state := [] })) :
    (Entry.bash entry).OfTimedText := by
  refine Network.startLoop_keeps (Agent.serves_bash rounds agentName)
    (P := fun queue => ∀ entry ∈ queue, (Entry.bash entry).OfTimedText) ?_ (r := { state := [] })
    (by simp) entry h
  intro client _ queue hqueue queue' houtcome new hnew
  rcases houtcome with hok | ⟨exception, herror⟩
  · obtain ⟨text, utcTime, -, htime, rfl⟩ := Agent.bashOutcome_eq_ok_iff.mp hok
    rcases List.mem_append.mp hnew with hold | hnew
    · exact hqueue new hold
    · rw [List.mem_singleton.mp hnew]
      exact .bash text htime
  · obtain rfl := bashOutcome_error herror
    exact hqueue new hnew

/-- Nor does the loop for Apache, if it receives no line without a timestamp. -/
lemma ofTimedText_of_mem_serveApache {rounds : ℕ} {agentName : Str}
    {events : List (Network.Event (Network.Client τ))} {entry : Agent.ApacheLogEntry}
    (htimed : ∀ client ∈ Network.clients events, ∀ text, Agent.Sends client text →
      ¬Agent.Untimed text)
    (h : entry ∈ Network.left
      ((Network.startLoop (Agent.serveApache rounds agentName) events).run { state := [] })) :
    (Entry.apache entry).OfTimedText := by
  obtain ⟨client, hclient, text, hsends, hnew⟩ := Agent.exists_text_of_mem_queue h
  exact .apache text hnew (htimed client hclient text hsends)

end Receivers

/-! ### A run -/

/-- Ten o'clock on the first of January 2016. -/
def someTime : Agent.Timestamp := { hour := 10, day := 1, month := 1, year := 2016 }

lemma exists_utcTime : ∃ tm : Agent.Tm, tm.utcTime = .ok someTime := by
  refine ⟨⟨10, 0, 0, 1, 0, 116, ?_, ?_, ?_, ?_, ?_, ?_⟩, ?_⟩
  · decide
  · decide
  · decide
  · decide
  · decide
  · decide
  · exact Agent.Timestamp.set_eq_ok_iff.mpr ⟨rfl, by decide⟩

/-- `ls` on the agent `a`. -/
def someEntry : Entry :=
  .bash { agentName := [97], utcTime := someTime, userId := 0, command := [108, 115] }

lemma someEntry_ofTimedText : someEntry.OfTimedText := by
  obtain ⟨tm, htm⟩ := exists_utcTime
  exact .bash (cString [108, 115]) htm

lemma exists_logEntry? : ∃ logEntry, someEntry.handler? = some (Bash.Scripts.addLog logEntry) := by
  obtain ⟨p, hp⟩ := Option.isSome_iff_exists.mp someEntry_ofTimedText.timed
  rcases handler?_cases hp with ⟨logEntry, -, -, rfl⟩ | ⟨logEntry, hnone, -⟩
  · exact ⟨logEntry, hp⟩
  · cases hnone

/-- A step of the only agent. -/
lemma Reachable.agentStep {a a' : AgentState Unit}
    (h : Reachable True ((.initial : System Unit Unit).withAgent () a))
    (hstep : AgentStep True true a a') :
    Reachable True ((.initial : System Unit Unit).withAgent () a') := by
  have hagent : AgentStep True true
      (Function.update (System.initial : System Unit Unit).agents () a ()) a' := by
    rwa [Function.update_self]
  have hnext := h.step (.agent _ () hagent)
  rwa [System.withAgent, System.withAgent, Function.update_idem] at hnext

/-- The thread while it executes the command. -/
def executing : State Unit Entry := ⟨[], true, .execute ⟨(), someEntry⟩, [⟨(), someEntry⟩], []⟩

/-- The entry is received, sent and handled. -/
def afterRun (store : Store) : System Unit Unit :=
  ((System.initial : System Unit Unit).withAgent ()
    ⟨executing, .send true someEntry .initial⟩).handle
    () 0 someEntry [] store

lemma exists_reachable_afterRun : ∃ store, Reachable True (afterRun store) := by
  have hstart : Reachable True
      ((.initial : System Unit Unit).withAgent () ⟨.initial, .initial⟩) := by
    have hsame : (System.initial : System Unit Unit).withAgent () ⟨.initial, .initial⟩
        = .initial := by
      rw [System.withAgent, show (⟨.initial, .initial⟩ : AgentState Unit)
        = (System.initial : System Unit Unit).agents () from rfl, Function.update_eq_self]
    rw [hsame]
    exact .initial
  have hadded := hstart.agentStep (.others _ (.addCommand _ () someEntry))
  have hstarted := hadded.agentStep (.loop _ (.startLoop _ rfl) rfl)
  have hrunning := hstarted.agentStep (.loop _ (.whileRunning _ rfl) rfl)
  have havailable := hrunning.agentStep (.loop _ (.whileAvailable _ rfl) rfl)
  have htaken := havailable.agentStep (.loop _ (.getCommand _ rfl rfl) rfl)
  have hsent := htaken.agentStep (.send _ rfl rfl)
  obtain ⟨logEntry, hhandler⟩ := exists_logEntry?
  exact ⟨_, hsent.step (.handle _ () rfl rfl hhandler (Prog.interrupted_of_exec Others.refl
    (fun _ => rfl) (Bash.Scripts.exec_addLog logEntry _)))⟩

end Slas.Delivery
