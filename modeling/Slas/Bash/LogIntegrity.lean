import Mathlib
import Slas.Bash.AddLog

/-!
Referential integrity of `BASH_LOGS_TABLE` over every sequence of
`Scripts::AddLog` calls on an empty database.

* `Holds`: a row refers to rows that hold the names of an entry;
* `Integrity`: the rows are those of the entries that are not blank, in order;
* `log_integrity_iff`: the table has integrity exactly if no entry that is
  stored has white space in its command.

The invariant is `Stored`: everything but the command is always right, and the
command is right or `-1`, since no name in `BASH_COMMAND_TABLE` has white space.
-/

namespace Slas.Bash

open Database

/-- The rows a log refers to exist and hold the names of the entry, its command
without white space and its user as a `UID`, which no other user has
(`BashLogEntry.uid_eq_iff`). -/
structure Holds (s : Store) (e : BashLogEntry) (l : Log) : Prop where
  agentName : s.agentNames.get? l.agentNameId = some e.agentName
  date : s.dates.get? l.dateId = some e.utcTime.date
  time : s.times.get? l.timeId = some e.utcTime.time
  user : s.bash.systemUsers.get? l.userId = some e.uid
  command : s.bash.commands.get? l.commandId = some (stripCommand e.command)

/-- The entries `Scripts::AddLog` stores. -/
def Storable (e : BashLogEntry) : Prop := (stripCommand e.command).bytes ≠ []

instance (e : BashLogEntry) : Decidable (Storable e) := inferInstanceAs (Decidable ¬_)

/-- One row for every entry whose command is not all white space, and every row
holds the names of its entry. -/
def Integrity (entries : List BashLogEntry) (s : Store) : Prop :=
  List.Forall₂ (Holds s) (entries.filter (Storable ·)) s.bash.logs.vals

/-- The command of the entry has no white space, or nothing else. -/
def PlainCommand (e : BashLogEntry) : Prop :=
  Storable e → ∀ b ∈ e.command.bytes, isspace b = false

/-! ### The invariant -/

lemma stripCommand_eq_self_iff {command : Text} :
    stripCommand command = command ↔ ∀ b ∈ command.bytes, isspace b = false := by
  constructor
  · intro h b hb
    rw [← h, stripCommand, Text.filter_bytes, List.mem_filter] at hb
    simpa using hb.2
  · intro h
    apply Text.ext_bytes
    rw [stripCommand, Text.filter_bytes, List.filter_eq_self]
    simpa using h

lemma isspace_of_mem_stripCommand {command : Text} {b : UInt8}
    (hb : b ∈ (stripCommand command).bytes) : isspace b = false := by
  rw [stripCommand, Text.filter_bytes, List.mem_filter] at hb
  simpa using hb.2

/-- What holds of the row of an entry whatever its command is. -/
structure HoldsNames (s : Store) (e : BashLogEntry) (l : Log) : Prop where
  agentName : s.agentNames.get? l.agentNameId = some e.agentName
  date : s.dates.get? l.dateId = some e.utcTime.date
  time : s.times.get? l.timeId = some e.utcTime.time
  user : s.bash.systemUsers.get? l.userId = some e.uid
  command : if stripCommand e.command = e.command
    then s.bash.commands.get? l.commandId = some (stripCommand e.command)
    else l.commandId = -1

/-- The state after some entries: their rows, and commands without white space. -/
structure Stored (entries : List BashLogEntry) (s : Store) : Prop where
  rows : List.Forall₂ (HoldsNames s) (entries.filter (Storable ·)) s.bash.logs.vals
  plain : ∀ r ∈ s.bash.commands.rows, ∀ b ∈ r.val.bytes, isspace b = false

lemma stored_empty : Stored [] Store.empty :=
  ⟨List.Forall₂.nil, fun r hr => absurd hr (by simp [Store.empty, Tables.empty])⟩

/-- Interning the names of another entry keeps what a row refers to. -/
lemma HoldsNames.internEntry {s : Store} {e : BashLogEntry} {l : Log} (h : HoldsNames s e l)
    (e' : BashLogEntry) : HoldsNames (internEntry e' s) e l where
  agentName := UniqueTable.get?_insertOrIgnore _ h.agentName
  date := UniqueTable.get?_insertOrIgnore _ h.date
  time := by
    show (s.times.insertOrReplace _).get? _ = _
    rw [UniqueTable.insertOrReplace_eq_insertOrIgnore]
    exact UniqueTable.get?_insertOrIgnore _ h.time
  user := UniqueTable.get?_insertOrIgnore _ h.user
  command := by
    have hcommand := h.command
    split_ifs at hcommand ⊢
    · exact UniqueTable.get?_insertOrIgnore _ hcommand
    · exact hcommand

/-- The logs themselves are not referred to. -/
lemma HoldsNames.withLogs {s : Store} {e : BashLogEntry} {l : Log} (h : HoldsNames s e l)
    (logs : Table Log) :
    HoldsNames { s with bash := { s.bash with logs := logs } } e l :=
  ⟨h.agentName, h.date, h.time, h.user, h.command⟩

/-- Interning adds no command with white space. -/
lemma plain_internEntry {s : Store}
    (h : ∀ r ∈ s.bash.commands.rows, ∀ b ∈ r.val.bytes, isspace b = false) (e : BashLogEntry) :
    ∀ r ∈ (internEntry e s).bash.commands.rows, ∀ b ∈ r.val.bytes, isspace b = false := by
  intro r hr
  rcases UniqueTable.of_mem_insertOrIgnore hr with hr | hr
  · exact h r hr
  · rw [hr]
    exact fun b hb => isspace_of_mem_stripCommand hb

/-- The row an entry gets once its names have been interned. -/
lemma holdsNames_logOf {s : Store}
    (h : ∀ r ∈ s.bash.commands.rows, ∀ b ∈ r.val.bytes, isspace b = false) (e : BashLogEntry) :
    HoldsNames (internEntry e s) e (logOf (internEntry e s) e) where
  agentName := UniqueTable.get?_idOf?_insertOrIgnore _ _
  date := UniqueTable.get?_idOf?_insertOrIgnore _ _
  time := by
    show (s.times.insertOrReplace _).get? (((s.times.insertOrReplace _).idOf? _).getD (-1)) = _
    rw [UniqueTable.insertOrReplace_eq_insertOrIgnore]
    exact UniqueTable.get?_idOf?_insertOrIgnore _ _
  user := UniqueTable.get?_idOf?_insertOrIgnore _ _
  command := by
    show if _ then (s.bash.commands.insertOrIgnore (stripCommand e.command)).get?
        (((s.bash.commands.insertOrIgnore (stripCommand e.command)).idOf? e.command).getD (-1)) = _
      else ((s.bash.commands.insertOrIgnore (stripCommand e.command)).idOf? e.command).getD (-1) = _
    split_ifs with hplain
    · rw [hplain]
      exact UniqueTable.get?_idOf?_insertOrIgnore _ _
    · -- a command with white space is not in the table, so the lookup misses
      have hnone : (s.bash.commands.insertOrIgnore (stripCommand e.command)).idOf? e.command
          = none := by
        refine UniqueTable.idOf?_eq_none.mpr fun r hr hkey => hplain ?_
        rw [stripCommand_eq_self_iff, ← show r.val = e.command from hkey]
        exact plain_internEntry h e r hr
      rw [hnone, Option.getD_none]

/-- One entry keeps the invariant. -/
lemma Stored.addEntry {entries : List BashLogEntry} {s : Store} (h : Stored entries s)
    (e : BashLogEntry) : Stored (entries ++ [e]) (addEntry e s) := by
  by_cases hblank : (stripCommand e.command).bytes = []
  · have hnot : ¬Storable e := fun hne => hne hblank
    rw [Bash.addEntry, if_pos hblank]
    exact ⟨by simpa [hnot] using h.rows, h.plain⟩
  · have hst : Storable e := hblank
    rw [Bash.addEntry, if_neg hblank]
    refine ⟨?_, plain_internEntry h.plain e⟩
    rw [List.filter_append, List.filter_singleton, decide_eq_true hst, cond_true]
    simp only [Table.insert_vals]
    refine List.rel_append (h.rows.imp fun _ _ hl => ?_) (List.Forall₂.cons ?_ List.Forall₂.nil)
    · exact (hl.internEntry e).withLogs _
    · exact (holdsNames_logOf h.plain e).withLogs _

/-- **Any sequence of entries returns and leaves their rows.** -/
lemma exec_forM_addLog (entries : List BashLogEntry) :
    ∃ s, (entries.forM Scripts.addLog).exec ⟨Store.empty, none⟩ = (.ok (), ⟨s, none⟩) ∧
      Stored entries s := by
  obtain ⟨c, hrun, hidle, hstored⟩ := Prog.exec_forM entries Scripts.addLog
    (fun done (c : Connection Store) => c.saved = none ∧ Stored done c.data)
    (fun done e _ c hc => ⟨_, Scripts.exec_addLog e c, hc.1, hc.2.addEntry e⟩)
    (s := ⟨Store.empty, none⟩) ⟨rfl, stored_empty⟩
  refine ⟨c.data, ?_, hstored⟩
  rw [hrun, ← hidle]

/-- A relation that comes down to a property of its left side. -/
lemma forall₂_iff_forall {α β : Type} {R S : α → β → Prop} {P : α → Prop} {xs : List α}
    {ys : List β} (h : List.Forall₂ R xs ys)
    (hiff : ∀ x ∈ xs, ∀ y, R x y → (S x y ↔ P x)) : List.Forall₂ S xs ys ↔ ∀ x ∈ xs, P x := by
  induction h with
  | nil => simp
  | cons hxy _ ih =>
      rw [List.forall₂_cons, List.forall_mem_cons, hiff _ List.mem_cons_self _ hxy,
        ih fun x hx => hiff x (List.mem_cons_of_mem _ hx)]

/-- The command is right unless it had white space. -/
lemma HoldsNames.holds_iff {s : Store} {e : BashLogEntry} {l : Log} (h : HoldsNames s e l) :
    Holds s e l ↔ stripCommand e.command = e.command := by
  have hcommand := h.command
  constructor
  · intro hl
    by_contra hne
    rw [if_neg hne] at hcommand
    have hmissing := hl.command
    rw [hcommand, Table.get?_neg_one] at hmissing
    exact Option.some_ne_none _ hmissing.symm
  · intro hplain
    rw [if_pos hplain] at hcommand
    exact ⟨h.agentName, h.date, h.time, h.user, hcommand⟩

/-- Under the invariant, integrity is a matter of the commands alone. -/
lemma Stored.integrity_iff {entries : List BashLogEntry} {s : Store} (h : Stored entries s) :
    Integrity entries s ↔ ∀ e ∈ entries, PlainCommand e := by
  rw [Integrity, forall₂_iff_forall h.rows fun e _ l hl => hl.holds_iff]
  simp only [List.mem_filter, decide_eq_true_eq, and_imp, stripCommand_eq_self_iff, PlainCommand]

/-- **Referential integrity of the logs.** After any entries the rows of
`BASH_LOGS_TABLE` are as they should be exactly if no entry that is stored has
white space in its command. -/
theorem log_integrity_iff (entries : List BashLogEntry) :
    ∃ s, (entries.forM Scripts.addLog).exec ⟨Store.empty, none⟩ = (.ok (), ⟨s, none⟩) ∧
      (Integrity entries s ↔ ∀ e ∈ entries, PlainCommand e) := by
  obtain ⟨s, hrun, hstored⟩ := exec_forM_addLog entries
  exact ⟨s, hrun, hstored.integrity_iff⟩

/-- The entry `ls -l` of user `0` on the agent `a`. -/
def listing : BashLogEntry where
  agentName := cString [97]
  utcTime := ⟨⟨10, 0, 0, Time.checkTime_ten⟩, ⟨1, 1, 2016, Date.checkDate_newYear, Date.fits_2016⟩⟩
  userId := 0
  command := ⟨[108, 115, 32, 45, 108], by decide⟩

/-- One entry with an argument: its row refers to no command. -/
theorem not_log_integrity_listing :
    ¬∃ s, ([listing].forM Scripts.addLog).exec ⟨Store.empty, none⟩ = (.ok (), ⟨s, none⟩) ∧
      Integrity [listing] s := by
  rintro ⟨s, hrun, hintegrity⟩
  obtain ⟨s', hrun', hstored⟩ := exec_forM_addLog [listing]
  obtain rfl : s = s' := by
    have := hrun.symm.trans hrun'
    simpa using this
  have hplain := hstored.integrity_iff.mp hintegrity listing List.mem_cons_self (by decide)
  exact absurd (hplain 32 (by decide)) (by decide)

end Slas.Bash
