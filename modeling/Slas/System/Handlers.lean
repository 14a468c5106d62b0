import Mathlib
import Slas.Apache.DBusObject
import Slas.Bash.DBusObject
import Slas.Bash.LogIntegrity
import Slas.Bash.Operation
import Slas.Database.InternedIds
import Slas.Lib.Interrupted

/-!
The handlers of the two D-Bus objects while the other threads of the server use the
database.

* `Kept`: what the other threads leave as it is, however they go on: the logs, and
  the ids that names have been given; `kept_of_writes`: they do;
* `Others`: the other threads, on the connection that all threads share;
* `assured_write`, `assured_query`, `assured_queryFirst`, `assured_add`: the calls of
  a handler in between;
* `assured_addLog`: `Scripts::AddLog` adds the row of its entry, or throws and adds
  none;
* `assured_storeLogEntry`: the same of the handler for Apache logs.

The other threads are taken to keep their transactions to themselves: none is open when a
handler makes a call, and none of them ends the transaction of a handler. All threads share
one connection, and nothing in the server sees to this: `Slas.Apache.Writers` has what
happens otherwise.
-/

namespace Slas.Delivery

open Database
open Prog (Assured Stable)

/-! ### What the other threads keep -/

/-- No command has white space, as none has that `Scripts::AddLog` adds. -/
def PlainCommands (s : Store) : Prop :=
  ∀ r ∈ s.bash.commands.rows, ∀ b ∈ r.val.bytes, Bash.isspace b = false

/-- An entry as it was when it was added. -/
def asAdded (e : Apache.LogEntry) : Apache.LogEntry := { e with usedInStatistics := false }

/-- The logs of `APACHE_LOGS_TABLE`, whatever has been counted of them. -/
def apacheLogs (s : Store) : List Apache.LogEntry := s.apache.logs.vals.map asAdded

/-- Names keep their ids, and the logs are those of before. -/
structure Kept (s s' : Store) : Prop where
  names : Grows s s'
  bashLogs : s'.bash.logs.vals = s.bash.logs.vals
  apacheLogs : apacheLogs s' = apacheLogs s
  plain : PlainCommands s → PlainCommands s'

lemma Kept.refl (s : Store) : Kept s s := ⟨.refl s, rfl, rfl, id⟩

lemma Kept.trans {s₁ s₂ s₃ : Store} (h : Kept s₁ s₂) (h' : Kept s₂ s₃) : Kept s₁ s₃ :=
  ⟨h.names.trans h'.names, h'.bashLogs.trans h.bashLogs, h'.apacheLogs.trans h.apacheLogs,
    h'.plain ∘ h.plain⟩

/-- The rest of the server on the connection between two calls of a handler. This assumes that
it has no transaction of its own open when the handler makes its next call. -/
structure Others (c c' : Connection Store) : Prop where
  saved : c'.saved = c.saved
  kept : Kept c.data c'.data

lemma Others.refl (c : Connection Store) : Others c c := ⟨rfl, .refl _⟩

/-- **The operations of the bash side keep the logs**, unless they add one. -/
lemma kept_of_writes {x : Bash.Operation} {s s' : Store} (h : x.Writes s s')
    (hadd : ¬∃ e, x = .addLog e) (hothers : ¬∃ sts hsts, x = .others sts hsts) : Kept s s' := by
  have hdates : ∀ {s s' : Store} {dates : UniqueTable (@id Date)} {bash : Bash.Tables},
      s' = { s with dates := dates, bash := bash } → s.dates.rows ⊆ dates.rows →
      bash.commands = s.bash.commands → bash.systemUsers = s.bash.systemUsers →
      bash.logs = s.bash.logs → Kept s s' := by
    rintro s _ dates bash rfl hsub hcommands husers hlogs
    refine ⟨fun k => ?_, congrArg Table.vals hlogs, rfl, fun hplain r hr => hplain r ?_⟩
    · cases k with
      | dates => exact hsub
      | systemUsers => exact (congrArg (·.rows) husers).symm ▸ List.Subset.refl _
      | commands => exact (congrArg (·.rows) hcommands).symm ▸ List.Subset.refl _
      | _ => exact List.Subset.refl _
    · rwa [← hcommands]
  cases x with
  | addLog e => exact absurd ⟨e, rfl⟩ hadd
  | createDailySystemStatistics => exact hdates h (List.Subset.refl _) rfl rfl rfl
  | createStatistics today => exact hdates h.1 (List.Subset.refl _) rfl rfl rfl
  | train => exact hdates h (List.Subset.refl _) rfl rfl rfl
  | analyze debug networks => exact hdates h.1 (List.Subset.refl _) rfl rfl rfl
  | request r => exact hdates h.others (List.Subset.refl _) rfl rfl rfl
  | getCommandsStatistics agentNameId beginDate endDate => exact hdates h.1 h.2 rfl rfl rfl
  | others sts hsts => exact absurd ⟨sts, hsts, rfl⟩ hothers

/-- So do they as a whole, whatever fails in them. -/
lemma keeps_operation {x : Bash.Operation} (hadd : ¬∃ e, x = .addLog e)
    (hothers : ¬∃ sts hsts, x = .others sts hsts) (s₀ : Store) :
    Prog.Keeps (fun c : Connection Store => c.All (Kept s₀)) x.program :=
  (Bash.steps_operation x).keeps fun _ _ hwrites hkept =>
    hkept.trans (kept_of_writes hwrites hadd hothers)

/-! ### The calls of a handler -/

/-- No transaction is open, and a condition on the data. -/
def At (A : Store → Prop) (c : Connection Store) : Prop := c.saved = none ∧ A c.data

/-- A fault may be put on a call. -/
def Faulty (may : Option Fault → Prop) : Prop := ∃ fault, may (some fault)

variable {α : Type} {may : Option Fault → Prop} {s₀ : Store} {A B : Store → Prop}

lemma stable_at (hA : Stable Kept A) : Stable Others (At A) :=
  fun _ _ hothers h => ⟨hothers.saved.trans h.1, hA _ _ hothers.kept h.2⟩

lemma stable_and {R : Store → Prop} (hA : Stable Kept A) (hR : Stable Kept R) :
    Stable Kept fun s => A s ∧ R s :=
  fun s s' hkept h => ⟨hA s s' hkept h.1, hR s s' hkept h.2⟩

lemma stable_kept (s₀ : Store) : Stable Kept (Kept s₀) := fun _ _ hkept h => h.trans hkept

/-- Something has failed, and nothing has been added but names. -/
def Failed (may : Option Fault → Prop) (s₀ : Store) (c : Connection Store) : Prop :=
  Faulty may ∧ At (Kept s₀) c

lemma stable_failed : Stable Others (Failed may s₀) :=
  fun _ _ hothers h => ⟨h.1, stable_at (stable_kept s₀) _ _ hothers h.2⟩

/-- What a handler knows before it adds its log. -/
structure Since (s₀ : Store) (A : Store → Prop) : Prop where
  stable : Stable Kept A
  kept : ∀ s, A s → Kept s₀ s

lemma Since.start (s₀ : Store) : Since s₀ (Kept s₀) := ⟨stable_kept s₀, fun _ => id⟩

lemma Since.and {R : Store → Prop} (hA : Since s₀ A) (hR : Stable Kept R) :
    Since s₀ fun s => A s ∧ R s := ⟨stable_and hA.stable hR, fun s h => hA.kept s h.1⟩

lemma Since.failed (hA : Since s₀ A) {fault : Fault} (hmay : may (some fault))
    {c : Connection Store}
    (h : At A c) : Failed may s₀ c := ⟨⟨fault, hmay⟩, h.1, hA.kept _ h.2⟩

/-- A write. -/
lemma assured_write (hA : Since s₀ A) (hB : Stable Kept B) {f : Store → Store}
    (h : ∀ s, A s → B (f s)) :
    Assured Others may (At A) (write f) (fun _ => At B) fun _ => Failed may s₀ := by
  refine .lift (stable_at hA.stable) (fun _ => stable_at hB) (fun _ => stable_failed) ?_
  intro c fault hmay hc
  cases fault with
  | none => exact ⟨hc.1, h _ hc.2⟩
  | some fault =>
      simp only [Option.map_some, Connection.execute_singleton_fault]
      exact hA.failed hmay hc

/-- A `select`. -/
lemma assured_query (hA : Since s₀ A) {f : Store → α} {R : α → Store → Prop}
    (hR : ∀ a, Stable Kept (R a)) (h : ∀ s, A s → R (f s) s) :
    Assured Others may (At A) (query f) (fun a => At fun s => A s ∧ R a s)
      fun _ => Failed may s₀ := by
  refine .lift (stable_at hA.stable) (fun a => stable_at (stable_and hA.stable (hR a)))
    (fun _ => stable_failed) ?_
  intro c fault hmay hc
  cases fault with
  | none => exact ⟨hc.1, hc.2, h _ hc.2⟩
  | some fault => exact hA.failed hmay hc

/-- A `select` that finds a row. -/
lemma assured_queryFirst (hA : Since s₀ A) {f : Store → Option α} {R : α → Store → Prop}
    (hR : ∀ a, Stable Kept (R a)) (h : ∀ s, A s → ∃ a, f s = some a ∧ R a s) :
    Assured Others may (At A) (queryFirst f) (fun a => At fun s => A s ∧ R a s)
      fun _ => Failed may s₀ := by
  refine .lift (stable_at hA.stable) (fun a => stable_at (stable_and hA.stable (hR a)))
    (fun _ => stable_failed) ?_
  intro c fault hmay hc
  obtain ⟨a, ha, hRa⟩ := h _ hc.2
  cases fault with
  | none =>
      rw [ha]
      exact ⟨hc.1, hc.2, hRa⟩
  | some fault =>
      rw [ha]
      exact hA.failed hmay hc

/-! ### Names -/

/-- A value has an id. -/
def Named (k : NameTable) (v : k.Value) (s : Store) : Prop := ∃ id, (k.table s).idOf? v = some id

/-- An id leads to a value. -/
def Refers (k : NameTable) (v : k.Value) (id : RowId) (s : Store) : Prop :=
  (k.table s).get? id = some v

lemma stable_named (k : NameTable) (v : k.Value) : Stable Kept (Named k v) := by
  rintro s s' hkept ⟨id, hid⟩
  obtain ⟨w, hw, hkey⟩ := UniqueTable.idOf?_eq_some.mp hid
  exact ⟨id, UniqueTable.idOf?_eq_some.mpr ⟨w, hkept.names k hw, hkey⟩⟩

lemma refers_of_grows (k : NameTable) {v : k.Value} {id : RowId} {s s' : Store}
    (hgrows : Grows s s')
    (h : Refers k v id s) :
      Refers k v id s' := Table.get?_eq_some.mpr (hgrows k (Table.get?_eq_some.mp h))

lemma stable_refers (k : NameTable) (v : k.Value) (id : RowId) : Stable Kept (Refers k v id) :=
  fun _ _ hkept => refers_of_grows k hkept.names

/-- The id of a value leads to it. -/
lemma refers_of_idOf? {k : NameTable} {v : k.Value} {s : Store} {id : RowId}
    (h : (k.table s).idOf? v = some id) : Refers k v id s := by
  obtain ⟨w, hw, rfl⟩ := UniqueTable.idOf?_eq_some.mp h
  exact Table.get?_eq_some.mpr hw

/-- Adding a name keeps the logs, and the names of before. -/
lemma kept_insert (k : NameTable) (v : k.Value) (s : Store)
    (hplain : PlainCommands s → PlainCommands (k.insert v s)) : Kept s (k.insert v s) := by
  refine ⟨grows_insert k v s, ?_, ?_, hplain⟩ <;> cases k <;> rfl

/-- **A function that adds a value.** -/
lemma assured_add (k : NameTable) (v : k.Value) (hA : Since s₀ A)
    (hplain : ∀ s, PlainCommands s → PlainCommands (k.insert v s)) :
    Assured Others may (At A) (k.add v) (fun _ => At fun s => A s ∧ Named k v s)
      fun _ => Failed may s₀ := by
  rw [k.add_eq]
  exact assured_write hA (stable_and hA.stable (stable_named k v)) fun s hs =>
    ⟨hA.stable _ _ (kept_insert k v s (hplain s)) hs, exists_idOf?_insert k v s⟩

/-- A lookup that returns `-1` if there is no id, of a value that has one. -/
lemma assured_getD (k : NameTable) (v : k.Value) (hA : Since s₀ A) (h : ∀ s, A s → Named k v s) :
    Assured Others may (At A) (query fun s => ((k.table s).idOf? v).getD (-1))
      (fun id => At fun s => A s ∧ Refers k v id s) fun _ => Failed may s₀ := by
  refine assured_query hA (stable_refers k v) fun s hs => ?_
  obtain ⟨id, hid⟩ := h s hs
  rw [hid]
  exact refers_of_idOf? hid

/-! ### `Scripts::AddLog` -/

/-- One more row of `BASH_LOGS_TABLE`, that of an entry. -/
structure BashLogAdded (e : BashLogEntry) (s s' : Store) : Prop where
  names : Grows s s'
  bashLogs : ∃ l, s'.bash.logs.vals = s.bash.logs.vals ++ [l] ∧ Bash.HoldsNames s' e l
  apacheLogs : apacheLogs s' = apacheLogs s
  plain : PlainCommands s'

/-- What is known once the names of an entry have been added. -/
structure Interned (e : BashLogEntry) (s : Store) : Prop where
  date : Named .dates e.utcTime.date s
  time : Named .times e.utcTime.time s
  agentName : Named .agentNames e.agentName s
  user : Named .systemUsers e.uid s
  command : Named .commands (Bash.stripCommand e.command) s

/-- The id of the command of an entry, as it is looked up. -/
def RefersToCommand (e : BashLogEntry) (id : RowId) (s : Store) : Prop :=
  if Bash.stripCommand e.command = e.command
  then s.bash.commands.get? id = some (Bash.stripCommand e.command) else id = -1

lemma refersToCommand_of_grows {e : BashLogEntry} {id : RowId} {s s' : Store} (hgrows : Grows s s')
    (h : RefersToCommand e id s) : RefersToCommand e id s' := by
  rw [RefersToCommand] at h ⊢
  split_ifs at h ⊢
  · exact refers_of_grows .commands hgrows h
  · exact h

lemma stable_refersToCommand (e : BashLogEntry) (id : RowId) :
    Stable Kept (RefersToCommand e id) := fun _ _ hkept => refersToCommand_of_grows hkept.names

/-- Adding a name that is no command. -/
lemma plain_insert (k : NameTable) (hk : k ≠ .commands) (v : k.Value) {s : Store}
    (h : PlainCommands s) : PlainCommands (k.insert v s) := by
  cases k with
  | commands => exact absurd rfl hk
  | _ => exact h

/-- Adding a command without white space. -/
lemma plain_insert_command {command : Text} (hcommand : ∀ b ∈ command.bytes, Bash.isspace b = false)
    {s : Store} (h : PlainCommands s) : PlainCommands (NameTable.commands.insert command s) := by
  intro r hr
  rcases UniqueTable.of_mem_insertOrIgnore hr with hr | hr
  · exact h r hr
  · rw [hr]
    exact hcommand

section AddLog

variable (e : BashLogEntry)

/-- The lookup of the command, under the name it came with. -/
lemma assured_getCommandId (hplain : PlainCommands s₀) (hA : Since s₀ A)
    (hcommand : ∀ s, A s → Named .commands (Bash.stripCommand e.command) s) :
    Assured Others may (At A) (Bash.Raw.getCommandId e.command)
      (fun id => At fun s => A s ∧ RefersToCommand e id s) fun _ => Failed may s₀ := by
  show Assured Others may (At A) (query fun s => (s.bash.commands.idOf? e.command).getD (-1)) _ _
  refine assured_query hA (stable_refersToCommand e) fun s hs => ?_
  rw [RefersToCommand]
  split_ifs with hstrip
  · obtain ⟨id, hid⟩ := hcommand s hs
    rw [hstrip] at hid ⊢
    rw [show s.bash.commands.idOf? e.command = some id from hid]
    exact refers_of_idOf? (k := .commands) hid
  · -- a command with white space is not in the table
    have hnone : s.bash.commands.idOf? e.command = none := by
      refine UniqueTable.idOf?_eq_none.mpr fun r hr hkey => hstrip ?_
      rw [Bash.stripCommand_eq_self_iff, ← show r.val = e.command from hkey]
      exact (hA.kept s hs).plain hplain r hr
    rw [hnone, Option.getD_none]

/-- The row of an entry is added. -/
lemma bashLogAdded_insert {l : Bash.Log} {s : Store} (hkept : Kept s₀ s) (hplain : PlainCommands s₀)
    (hl : Bash.HoldsNames s e l) :
    BashLogAdded e s₀ { s with bash := { s.bash with logs := s.bash.logs.insert l } } where
  names := hkept.names.trans fun k => by cases k <;> exact List.Subset.refl _
  bashLogs := ⟨l, by rw [Table.insert_vals, hkept.bashLogs], hl.withLogs _⟩
  apacheLogs := hkept.apacheLogs
  plain := hkept.plain hplain

/-- What a log refers to stays there. -/
lemma holdsNames_of_grows {e : BashLogEntry} {l : Bash.Log} {s s' : Store} (h : Grows s s')
    (hl : Bash.HoldsNames s e l) : Bash.HoldsNames s' e l where
  agentName := refers_of_grows .agentNames h hl.agentName
  date := refers_of_grows .dates h hl.date
  time := refers_of_grows .times h hl.time
  user := refers_of_grows .systemUsers h hl.user
  command := refersToCommand_of_grows h hl.command

lemma stable_bashLogAdded : Stable Kept (BashLogAdded e s₀) := by
  intro s s' hkept h
  obtain ⟨l, hlogs, hl⟩ := h.bashLogs
  exact ⟨h.names.trans hkept.names,
    ⟨l, hkept.bashLogs.trans hlogs, holdsNames_of_grows hkept.names hl⟩,
    hkept.apacheLogs.trans h.apacheLogs, hkept.plain h.plain⟩

/-- `DatabaseFunctions::AddLog`, once the names have been added. -/
lemma assured_bashAddLog (hplain : PlainCommands s₀) (hA : Since s₀ A)
    (hinterned : ∀ s, A s → Interned e s) :
    Assured Others may (At A) (Bash.addLog e) (fun _ => At (BashLogAdded e s₀))
      fun _ => Failed may s₀ := by
  refine .bind Others.refl (assured_queryFirst hA (stable_refers .agentNames e.agentName)
    fun s hs => ?_) fun agentNameId => ?_
  · obtain ⟨id, hid⟩ := (hinterned s hs).agentName
    exact ⟨id, hid, refers_of_idOf? hid⟩
  have hA := hA.and (stable_refers .agentNames e.agentName agentNameId)
  refine .bind Others.refl (assured_getD .dates e.utcTime.date hA
    fun s hs => (hinterned s hs.1).date) fun dateId => ?_
  have hA := hA.and (stable_refers .dates e.utcTime.date dateId)
  refine .bind Others.refl (assured_getD .times e.utcTime.time hA
    fun s hs => (hinterned s hs.1.1).time) fun timeId => ?_
  have hA := hA.and (stable_refers .times e.utcTime.time timeId)
  refine .bind Others.refl (assured_getD .systemUsers e.uid hA
    fun s hs => (hinterned s hs.1.1.1).user) fun userId => ?_
  have hA := hA.and (stable_refers .systemUsers e.uid userId)
  refine .bind Others.refl (assured_getCommandId e hplain hA
    fun s hs => (hinterned s hs.1.1.1.1).command) fun commandId => ?_
  have hA := hA.and (stable_refersToCommand e commandId)
  refine assured_write hA (stable_bashLogAdded e) fun s hs => ?_
  refine bashLogAdded_insert e (hA.kept s hs) hplain ?_
  obtain ⟨⟨⟨⟨⟨-, hagent⟩, hdate⟩, htime⟩, huser⟩, hcommand⟩ := hs
  exact ⟨hagent, hdate, htime, huser, hcommand⟩

/-- **`Scripts::AddLog`** of an entry that is stored. -/
lemma assured_addLog (hplain : PlainCommands s₀) (he : Bash.Storable e) :
    Assured Others may (At (Kept s₀)) (Bash.Scripts.addLog e) (fun _ => At (BashLogAdded e s₀))
      fun _ => Failed may s₀ := by
  rw [Bash.Scripts.addLog, if_neg he]
  have hA := Since.start s₀
  refine .bind Others.refl (assured_add .dates e.utcTime.date hA
    fun s => plain_insert .dates (by simp) _) fun _ => ?_
  have hA := hA.and (stable_named .dates e.utcTime.date)
  refine .bind Others.refl (assured_add .times e.utcTime.time hA
    fun s => plain_insert .times (by simp) _) fun _ => ?_
  have hA := hA.and (stable_named .times e.utcTime.time)
  refine .bind Others.refl (assured_add .agentNames e.agentName hA
    fun s => plain_insert .agentNames (by simp) _) fun _ => ?_
  have hA := hA.and (stable_named .agentNames e.agentName)
  refine .bind Others.refl (assured_add .systemUsers e.uid hA
    fun s => plain_insert .systemUsers (by simp) _) fun _ => ?_
  have hA := hA.and (stable_named .systemUsers e.uid)
  refine .bind Others.refl (assured_add .commands (Bash.stripCommand e.command) hA
    fun s => plain_insert_command fun b => Bash.isspace_of_mem_stripCommand) fun _ => ?_
  have hA := hA.and (stable_named .commands (Bash.stripCommand e.command))
  refine assured_bashAddLog e hplain hA fun s hs => ?_
  obtain ⟨⟨⟨⟨⟨-, hdate⟩, htime⟩, hagent⟩, huser⟩, hcommand⟩ := hs
  exact ⟨hdate, htime, hagent, huser, hcommand⟩

end AddLog

/-! ### The handler for Apache logs -/

/-- One more row of `APACHE_LOGS_TABLE`, that of an entry. -/
structure ApacheLogAdded (e : Apache.LogEntry) (s s' : Store) : Prop where
  names : Grows s s'
  bashLogs : s'.bash.logs.vals = s.bash.logs.vals
  apacheLogs : apacheLogs s' = apacheLogs s ++ [asAdded e]
  plain : PlainCommands s → PlainCommands s'

section StoreLogEntry

variable (e : Apache.LogEntry)

lemma stable_apacheLogAdded : Stable Kept (ApacheLogAdded e s₀) := fun _ _ hkept h =>
  ⟨h.names.trans hkept.names, hkept.bashLogs.trans h.bashLogs,
    hkept.apacheLogs.trans h.apacheLogs, hkept.plain ∘ h.plain⟩

/-- The row of an entry is added. -/
lemma apacheLogAdded_insertLog {s : Store} (hkept : Kept s₀ s) :
    ApacheLogAdded e s₀ { s with apache := Apache.insertLog e s.apache } where
  names := hkept.names.trans fun k => by cases k <;> exact List.Subset.refl _
  bashLogs := hkept.bashLogs
  apacheLogs := by
    rw [← hkept.apacheLogs]
    show ((s.apache.logs.insert (asAdded e)).vals).map asAdded = _
    rw [Table.insert_vals, List.map_append]
    rfl
  plain := hkept.plain

/-- A transaction of the handler is open, and a condition on the data. What a rollback
brings back is as it was but for names. -/
def Within (s₀ : Store) (A : Store → Prop) (c : Connection Store) : Prop :=
  ∃ d, c.saved = some d ∧ Kept s₀ d ∧ A c.data

lemma stable_within (hA : Stable Kept A) : Stable Others (Within s₀ A) := by
  rintro c c' hothers ⟨d, hd, hkept, h⟩
  exact ⟨d, hothers.saved.trans hd, hkept, hA _ _ hothers.kept h⟩

/-- Something has failed in a transaction. -/
def FailedWithin (may : Option Fault → Prop) (s₀ : Store) (c : Connection Store) : Prop :=
  Faulty may ∧ Within s₀ (fun _ => True) c

lemma stable_failedWithin : Stable Others (FailedWithin may s₀) := fun _ _ hothers h =>
  ⟨h.1, stable_within (fun _ _ _ => id) _ _ hothers h.2⟩

/-- Something has failed, in the transaction or out of it. -/
def Lost (may : Option Fault → Prop) (s₀ : Store) (c : Connection Store) : Prop :=
  Failed may s₀ c ∨ FailedWithin may s₀ c

lemma Lost.faulty {c : Connection Store} (h : Lost may s₀ c) :
    Faulty may := h.elim And.left And.left

/-- No log is there once the connection is lost. -/
lemma Lost.kept {c : Connection Store} (h : Lost may s₀ c) : Kept s₀ c.committed := by
  rcases h with ⟨-, hidle, hkept⟩ | ⟨-, d, hd, hkept, -⟩
  · rwa [Connection.committed, hidle]
  · rwa [Connection.committed_of_saved hd]

lemma assured_begin (hA : Since s₀ A) : Assured Others may (At A) (execSql [.begin])
    (fun _ => Within s₀ A) fun _ => Failed may s₀ := by
  refine .lift (stable_at hA.stable) (fun _ => stable_within hA.stable) (fun _ => stable_failed) ?_
  intro c fault hmay hc
  cases fault with
  | none =>
      simp only [Option.map_none, Connection.execute_none, Connection.step, hc.1, if_true]
      exact ⟨c.data, rfl, hA.kept _ hc.2, hc.2⟩
  | some fault =>
      simp only [Option.map_some, Connection.execute_singleton_fault]
      exact hA.failed hmay hc

lemma assured_writeWithin (hA : Stable Kept A) (hB : Stable Kept B) {f : Store → Store}
    (h : ∀ s, A s → B (f s)) : Assured Others may (Within s₀ A) (write f)
      (fun _ => Within s₀ B) fun _ => FailedWithin may s₀ := by
  refine .lift (stable_within hA) (fun _ => stable_within hB) (fun _ => stable_failedWithin) ?_
  rintro c fault hmay ⟨d, hd, hkept, hc⟩
  cases fault with
  | none => exact ⟨d, hd, hkept, h _ hc⟩
  | some fault =>
      simp only [Option.map_some, Connection.execute_singleton_fault]
      exact ⟨⟨fault, hmay⟩, d, hd, hkept, trivial⟩

lemma assured_commit (hA : Stable Kept A) : Assured Others may (Within s₀ A) (execSql [.commit])
    (fun _ => At A) fun _ => FailedWithin may s₀ := by
  refine .lift (stable_within hA) (fun _ => stable_at hA) (fun _ => stable_failedWithin) ?_
  rintro c fault hmay ⟨d, hd, hkept, hc⟩
  cases fault with
  | none =>
      simp only [Option.map_none, Connection.execute_none, Connection.step, hd]
      exact ⟨rfl, hc⟩
  | some fault =>
      simp only [Option.map_some, Connection.execute_singleton_fault]
      exact ⟨⟨fault, hmay⟩, d, hd, hkept, trivial⟩

/-- The end of `AddLogs` where something has failed. -/
lemma assured_rollback {ex : DatabaseException} {Q : Unit → Connection Store → Prop} :
    Assured Others may (FailedWithin may s₀) (execSql [.rollback] >>= fun _ => throw ex)
      Q fun _ => Lost may s₀ := by
  refine .bind Others.refl (Q := fun _ => Failed may s₀) (.lift stable_failedWithin
    (fun _ => stable_failed) (fun _ c c' hothers h => ?_) ?_) fun _ =>
      .throw stable_failed fun _ => .inl
  · exact h.imp (stable_failed c c' hothers) (stable_failedWithin c c' hothers)
  · rintro c fault - ⟨hfaulty, d, hd, hkept, h⟩
    cases fault with
    | none =>
        simp only [Option.map_none, Connection.execute_none, Connection.step, hd]
        exact ⟨hfaulty, rfl, hkept⟩
    | some fault =>
        simp only [Option.map_some, Connection.execute_singleton_fault]
        exact .inr ⟨hfaulty, d, hd, hkept, h⟩

/-- **`AddLogs`** of one entry. -/
lemma assured_addLogs (hA : Since s₀ A) : Assured Others may (At A) (Apache.addLogs [e])
    (fun _ => At (ApacheLogAdded e s₀)) fun _ => Lost may s₀ := by
  have hadded : Stable Kept (ApacheLogAdded e s₀) := stable_apacheLogAdded e
  refine .bind Others.refl ((assured_begin hA).weaken (fun _ => id) (fun _ _ => id)
    fun _ _ => .inl) fun _ => ?_
  refine .tryCatch Others.refl (.bind Others.refl ?_ fun _ => assured_commit hadded)
    fun _ => assured_rollback
  refine .bind Others.refl (assured_writeWithin hA.stable hadded fun s hs =>
    apacheLogAdded_insertLog e (hA.kept s hs)) fun _ => ?_
  exact .pure (stable_within hadded) fun _ => id

/-- **The handler for Apache logs**, once the time has been set. -/
lemma assured_storeLogEntry : Assured Others may (At (Kept s₀)) (Apache.storeLogEntry e)
    (fun _ => At (ApacheLogAdded e s₀)) fun _ => Lost may s₀ := by
  have hA := Since.start s₀
  refine .bind Others.refl ((assured_add .agentNames e.agentName hA
    fun s => plain_insert .agentNames (by simp) _).weaken (fun _ => id) (fun _ _ => id)
      fun _ _ => .inl) fun _ => ?_
  have hA := hA.and (stable_named .agentNames e.agentName)
  refine .bind Others.refl ((assured_add .virtualhostsNames e.virtualhost hA
    fun s => plain_insert .virtualhostsNames (by simp) _).weaken (fun _ => id) (fun _ _ => id)
      fun _ _ => .inl) fun _ => ?_
  exact assured_addLogs e (hA.and (stable_named .virtualhostsNames e.virtualhost))

end StoreLogEntry

end Slas.Delivery
