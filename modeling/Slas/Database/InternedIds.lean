import Mathlib
import Slas.Apache.DatabaseFunctions
import Slas.Bash.RawDatabaseFunctions
import Slas.Database.GeneralDatabaseFunctions

/-!
The tables that hand out ids for values: times, dates, agent names, virtualhost names,
system users and commands.

* `NameTable`: the six tables, each with its functions `add`, `getId` and `getById`;
* `HasId`: a value has been given an id, as the functions of its table see it;
* `Call`, `Runs`: the calls that add values, one after another, any of which may fail;
* `Faithful`: what is asked of the ids of two moments of a run;
* `interned_ids`: it holds of every run.
-/

namespace Slas.Database

open Apache (addVirtualhostName getVirtualhostNameId getVirtualhostNameById
  addAndGetVirtualhostNameId)
open Bash.Raw (addSystemUser getSystemUserId getSystemUserById addCommand getCommandId
  getCommandNameById)

/-! ### The tables and their functions -/

/-- A table that hands out ids. -/
inductive NameTable where
  | times
  | dates
  | agentNames
  | virtualhostsNames
  | systemUsers
  | commands

namespace NameTable

/-- What the table keeps. -/
def Value : NameTable → Type
  | times => Time
  | dates => Date
  | systemUsers => ℤ
  | agentNames | virtualhostsNames | commands => Text

instance : (k : NameTable) → DecidableEq k.Value
  | times => inferInstanceAs (DecidableEq Time)
  | dates => inferInstanceAs (DecidableEq Date)
  | systemUsers => inferInstanceAs (DecidableEq ℤ)
  | agentNames | virtualhostsNames | commands => inferInstanceAs (DecidableEq Text)

def table : (k : NameTable) → Store → UniqueTable (@id k.Value)
  | times, s => s.times
  | dates, s => s.dates
  | agentNames, s => s.agentNames
  | virtualhostsNames, s => s.apache.virtualhostsNames
  | systemUsers, s => s.bash.systemUsers
  | commands, s => s.bash.commands

/-- The function that adds a value. -/
def add : (k : NameTable) → k.Value → DatabaseM Unit
  | times => addTime
  | dates => addDate
  | agentNames => addAgentName
  | virtualhostsNames => addVirtualhostName
  | systemUsers => addSystemUser
  | commands => addCommand

/-- The function that looks the id of a value up. -/
def getId : (k : NameTable) → k.Value → DatabaseM RowId
  | times => getTimeId
  | dates => getDateId
  | agentNames => getAgentNameId
  | virtualhostsNames => getVirtualhostNameId
  | systemUsers => getSystemUserId
  | commands => getCommandId

/-- The function that looks a value up by its id. -/
def getById : (k : NameTable) → RowId → DatabaseM k.Value
  | times => getTimeById
  | dates => getDateById
  | agentNames => getAgentNameById
  | virtualhostsNames => getVirtualhostNameById
  | systemUsers => getSystemUserById
  | commands => getCommandNameById

/-- The id a value is given: it is what the lookup returns, and not the `-1` some of the
lookups return when there is none. -/
def HasId (k : NameTable) (c : Connection Store) (v : k.Value) (id : RowId) : Prop :=
  (k.getId v).exec c = (.ok id, c) ∧ id ≠ -1

/-! ### What the functions see -/

section Functions

variable {α : Type} [DecidableEq α] {t : Store → UniqueTable (@id α)} {c : Connection Store}

lemma ne_neg_one_of_idOf? {v : α} {i : RowId} (h : (t c.data).idOf? v = some i) : i ≠ -1 := by
  obtain ⟨w, hw, -⟩ := UniqueTable.idOf?_eq_some.mp h
  have hpos : 0 < i := (t c.data).positive _ hw
  rintro rfl
  exact absurd hpos (by decide)

/-- A lookup that returns `-1` when there is no id. -/
lemma exec_query_getD {v : α} {i : RowId} :
    ((query fun s => ((t s).idOf? v).getD (-1)).exec c = (.ok i, c) ∧ i ≠ -1) ↔
      (t c.data).idOf? v = some i := by
  rw [exec_query]
  cases hid : (t c.data).idOf? v with
  | none =>
      simp only [Option.getD_none, Prod.mk.injEq, Except.ok.injEq, and_true, reduceCtorEq,
        iff_false]
      exact fun h => h.2 h.1.symm
  | some j =>
      simp only [Option.getD_some, Prod.mk.injEq, Except.ok.injEq, and_true, Option.some.injEq]
      constructor
      · exact And.left
      · rintro rfl
        exact ⟨rfl, ne_neg_one_of_idOf? hid⟩

/-- A lookup that throws when there is none. -/
lemma exec_queryFirst_idOf? {v : α} {i : RowId} :
    ((queryFirst fun s => (t s).idOf? v).exec c = (.ok i, c) ∧ i ≠ -1) ↔
      (t c.data).idOf? v = some i := by
  cases hid : (t c.data).idOf? v with
  | none =>
      rw [exec_queryFirst_none c hid]
      simp
  | some j =>
      rw [exec_queryFirst c hid]
      simp only [Prod.mk.injEq, Except.ok.injEq, and_true, Option.some.injEq]
      constructor
      · exact And.left
      · rintro rfl
        exact ⟨rfl, ne_neg_one_of_idOf? hid⟩

variable {k : NameTable} {v : k.Value} {i : RowId}

/-- The name of an agent that has no id is an exception. -/
lemma getId_eq (k : NameTable) (v : k.Value) :
    k.getId v = query (fun s => ((k.table s).idOf? v).getD (-1)) ∨
      k.getId v = queryFirst fun s => (k.table s).idOf? v := by
  cases k with
  | agentNames => exact .inr rfl
  | _ => exact .inl rfl

lemma hasId_iff : k.HasId c v i ↔ (k.table c.data).idOf? v = some i := by
  rw [HasId]
  rcases k.getId_eq v with hget | hget
  · rw [hget]
    exact exec_query_getD
  · rw [hget]
    exact exec_queryFirst_idOf?

lemma exec_getById (h : (k.table c.data).get? i = some v) : (k.getById i).exec c = (.ok v, c) := by
  cases k with
  | times => exact exec_getTimeById c h
  | dates => exact exec_getDateById c h
  | agentNames => exact exec_getAgentNameById c h
  | virtualhostsNames => exact exec_queryFirst (f := fun s => s.apache.virtualhostsNames.get? i) c h
  | systemUsers => exact exec_queryFirst (f := fun s => s.bash.systemUsers.get? i) c h
  | commands => exact exec_queryFirst (f := fun s => s.bash.commands.get? i) c h

end Functions

end NameTable

/-! ### Runs -/

/-- A call that adds a value. -/
inductive Call where
  | add (k : NameTable) (v : k.Value)
  | addAndGetTimeId (time : Time)
  | addAndGetDateId (date : Date)
  | addAndGetAgentNameId (name : Text)
  | addAndGetVirtualhostNameId (name : Text)

namespace Call

/-- The code of a call, with the id it returns, if it returns one. -/
def program : Call → DatabaseM (Option RowId)
  | add k v => k.add v >>= fun _ => pure none
  | addAndGetTimeId time => some <$> Database.addAndGetTimeId time
  | addAndGetDateId date => some <$> Database.addAndGetDateId date
  | addAndGetAgentNameId name => some <$> Database.addAndGetAgentNameId name
  | addAndGetVirtualhostNameId name => some <$> Apache.addAndGetVirtualhostNameId name

/-- The table a call adds to. -/
def nameTable : Call → NameTable
  | add k _ => k
  | addAndGetTimeId _ => .times
  | addAndGetDateId _ => .dates
  | addAndGetAgentNameId _ => .agentNames
  | addAndGetVirtualhostNameId _ => .virtualhostsNames

/-- The value it adds. -/
def value : (x : Call) → x.nameTable.Value
  | add _ v => v
  | addAndGetTimeId time => time
  | addAndGetDateId date => date
  | addAndGetAgentNameId name => name
  | addAndGetVirtualhostNameId name => name

end Call

/-- What calls make of a connection, one after another. Any of their statements may
fail. -/
inductive Runs (c : Connection Store) : Connection Store → Prop
  | refl : Runs c c
  | call {c' : Connection Store} (x : Call) (env : ℕ → Option Fault) (n : ℕ) (h : Runs c c') :
      Runs c (x.program.run env n c').2.2

/-! ### What is asked of the ids -/

/-- The ids of an earlier moment are those of a later one: different values have
different ids, they keep them, and an id leads back to its value. And a call that has
returned has given its value an id, the one it returns. -/
structure Faithful (c c' : Connection Store) : Prop where
  different : ∀ (k : NameTable) v w i, k.HasId c v i → k.HasId c w i → v = w
  kept : ∀ (k : NameTable) v i, k.HasId c v i → k.HasId c' v i
  lookup : ∀ (k : NameTable) v i, k.HasId c v i → (k.getById i).exec c' = (.ok v, c')
  obtained : ∀ (x : Call) env n n' i c'', x.program.run env n c' = (.ok i, n', c'') →
    ∃ j, x.nameTable.HasId c'' x.value j ∧ ∀ j' ∈ i, j' = j

/-! ### Every table only grows -/

/-- No table has lost a row. -/
def Grows (s s' : Store) : Prop := ∀ k : NameTable, (k.table s).rows ⊆ (k.table s').rows

lemma Grows.refl (s : Store) : Grows s s := fun _ => List.Subset.refl _

lemma Grows.trans {s₁ s₂ s₃ : Store} (h : Grows s₁ s₂) (h' : Grows s₂ s₃) : Grows s₁ s₃ :=
  fun k => List.Subset.trans (h k) (h' k)

/-- The rows of a value that is its own key are replaced by themselves. -/
lemma subset_insertOrReplace {α : Type} [DecidableEq α] (t : UniqueTable (@id α)) (v : α) :
    t.rows ⊆ (t.insertOrReplace v).rows := by
  intro r hr
  refine (t.perm_insertOrReplace v).mem_iff.mpr ?_
  by_cases hv : r.val = v
  · -- the row is deleted and inserted again under its id
    have hid : t.idOf? (id v) = some r.id := UniqueTable.idOf?_eq_some.mpr ⟨r.val, hr, hv⟩
    rw [hid, Option.getD_some, ← hv]
    exact List.mem_cons_self
  · exact List.mem_cons_of_mem _ (List.mem_filter.mpr ⟨hr, decide_eq_true hv⟩)

/-- What the functions that add a value do. -/
def NameTable.insert : (k : NameTable) → k.Value → Store → Store
  | times, v, s => { s with times := s.times.insertOrReplace v }
  | dates, v, s => { s with dates := s.dates.insertOrIgnore v }
  | agentNames, v, s => { s with agentNames := s.agentNames.insertOrIgnore v }
  | virtualhostsNames, v, s =>
      { s with apache := { s.apache with
        virtualhostsNames := s.apache.virtualhostsNames.insertOrIgnore v } }
  | systemUsers, v, s =>
      { s with bash := { s.bash with systemUsers := s.bash.systemUsers.insertOrIgnore v } }
  | commands, v, s => { s with bash :=
      { s.bash with commands := s.bash.commands.insertOrIgnore v } }

lemma NameTable.add_eq (k : NameTable) (v : k.Value) : k.add v = write (k.insert v) := by
  cases k <;> rfl

/-- **An insertion** takes no row away. -/
lemma grows_insert (k : NameTable) (v : k.Value) (s : Store) : Grows s (k.insert v s) := by
  intro j
  cases k with
  | times =>
      cases j with
      | times => exact subset_insertOrReplace s.times v
      | _ => exact List.Subset.refl _
  | dates =>
      cases j with
      | dates => exact fun _ => UniqueTable.mem_insertOrIgnore v
      | _ => exact List.Subset.refl _
  | agentNames =>
      cases j with
      | agentNames => exact fun _ => UniqueTable.mem_insertOrIgnore v
      | _ => exact List.Subset.refl _
  | virtualhostsNames =>
      cases j with
      | virtualhostsNames => exact fun _ => UniqueTable.mem_insertOrIgnore v
      | _ => exact List.Subset.refl _
  | systemUsers =>
      cases j with
      | systemUsers => exact fun _ => UniqueTable.mem_insertOrIgnore v
      | _ => exact List.Subset.refl _
  | commands =>
      cases j with
      | commands => exact fun _ => UniqueTable.mem_insertOrIgnore v
      | _ => exact List.Subset.refl _

/-- It gives its value an id. -/
lemma exists_idOf?_insert (k : NameTable) (v : k.Value) (s : Store) :
    ∃ i, (k.table (k.insert v s)).idOf? v = some i := by
  cases k with
  | times => exact ⟨_, UniqueTable.idOf?_insertOrReplace s.times v⟩
  | dates => exact s.dates.exists_idOf?_insertOrIgnore v
  | agentNames => exact s.agentNames.exists_idOf?_insertOrIgnore v
  | virtualhostsNames => exact s.apache.virtualhostsNames.exists_idOf?_insertOrIgnore v
  | systemUsers => exact s.bash.systemUsers.exists_idOf?_insertOrIgnore v
  | commands => exact s.bash.commands.exists_idOf?_insertOrIgnore v

/-! ### The calls -/

section Calls

variable {env : ℕ → Option Fault}

/-- No call takes a row away, whatever fails in it. -/
abbrev GrowsIn {α : Type} (p : DatabaseM α) : Prop :=
  Prog.Steps (fun c c' : Connection Store => Grows c.data c'.data) p

lemma Reads.grows {α : Type} {p : DatabaseM α} (h : Reads p) : GrowsIn p :=
  h.mono fun c _ hc => hc ▸ Grows.refl c.data

lemma grows_add (k : NameTable) (v : k.Value) : GrowsIn (k.add v) := by
  rw [k.add_eq]
  refine Prog.Steps.lift fun fault c => ?_
  cases fault with
  | none => exact grows_insert k v c.data
  | some fault =>
      simp only [Option.map_some, Connection.execute_singleton_fault]
      exact Grows.refl c.data

lemma reads_getId (k : NameTable) (v : k.Value) : Reads (k.getId v) := by
  rcases k.getId_eq v with hget | hget
  · exact hget ▸ reads_query _
  · exact hget ▸ reads_queryFirst _

/-- The functions that look an id up before they add its value. -/
lemma grows_checkThenAdd (k : NameTable) (v : k.Value) : GrowsIn (do
    let i ← k.getId v
    if i = -1 then do
      k.add v
      k.getId v
    else pure i) := by
  refine (reads_getId k v).grows.bind fun i => ?_
  split_ifs
  · exact (grows_add k v).bind fun _ => (reads_getId k v).grows
  · exact Prog.Steps.pure i

lemma grows_program (x : Call) : GrowsIn x.program := by
  have hsome : ∀ {p : DatabaseM RowId}, GrowsIn p → GrowsIn (some <$> p) := fun hp => by
    rw [map_eq_pure_bind]
    exact hp.bind fun i => Prog.Steps.pure _
  cases x with
  | add k v => exact (grows_add k v).bind fun _ => Prog.Steps.pure _
  | addAndGetTimeId time => exact hsome (grows_checkThenAdd .times time)
  | addAndGetDateId date => exact hsome (grows_checkThenAdd .dates date)
  | addAndGetAgentNameId name =>
      exact hsome ((grows_add .agentNames name).bind fun _ => (reads_getId .agentNames name).grows)
  | addAndGetVirtualhostNameId name => exact hsome (grows_checkThenAdd .virtualhostsNames name)

/-- A value that has been added has an id. -/
lemma triple_add (k : NameTable) (v : k.Value) :
    Prog.Triple env (fun _ _ => True) (k.add v)
      (fun _ _ c => ∃ i, (k.table c.data).idOf? v = some i) fun _ _ _ => True := by
  rw [k.add_eq]
  exact triple_write fun _ c _ => ⟨fun _ => exists_idOf?_insert k v c.data, fun _ => trivial⟩

/-- A lookup of a value that has an id. -/
lemma triple_getId {k : NameTable} {v : k.Value} :
    Prog.Triple env (fun _ c => ∃ i, (k.table c.data).idOf? v = some i) (k.getId v)
      (fun i _ c => (k.table c.data).idOf? v = some i) fun _ _ _ => True := by
  rcases k.getId_eq v with hget | hget
  · rw [hget]
    refine triple_query fun _ c hc => ⟨fun _ => ?_, fun _ => trivial⟩
    obtain ⟨i, hi⟩ := hc
    rw [hi, Option.getD_some]
  · rw [hget]
    exact triple_queryFirst fun _ c _ => ⟨fun _ => id, fun _ => trivial⟩

/-- A lookup that tells whether there is one. -/
lemma triple_findId {k : NameTable} {v : k.Value} :
    Prog.Triple env (fun _ _ => True) (k.getId v)
      (fun i _ c => i = -1 ∨ (k.table c.data).idOf? v = some i) fun _ _ _ => True := by
  rcases k.getId_eq v with hget | hget
  · rw [hget]
    refine triple_query fun _ c _ => ⟨fun _ => ?_, fun _ => trivial⟩
    cases (k.table c.data).idOf? v with
    | none => exact .inl rfl
    | some i => exact .inr rfl
  · rw [hget]
    exact triple_queryFirst fun _ c _ => ⟨fun _ => .inr, fun _ => trivial⟩

lemma triple_checkThenAdd (k : NameTable) (v : k.Value) :
    Prog.Triple env (fun _ _ => True) (do
      let i ← k.getId v
      if i = -1 then do
        k.add v
        k.getId v
      else pure i) (fun i _ c => (k.table c.data).idOf? v = some i) fun _ _ _ => True := by
  refine triple_findId.bind fun i => ?_
  split_ifs with hi
  · refine Prog.Triple.weaken (triple_add k v |>.bind fun _ => triple_getId) ?_ ?_ ?_
    · exact fun _ _ _ => trivial
    · exact fun _ _ _ => id
    · exact fun _ _ _ => id
  · exact Prog.Triple.pure fun _ _ h => h.resolve_left hi

/-- **A call that has returned** has given its value an id, the one it returns. -/
lemma triple_program (x : Call) :
    Prog.Triple env (fun _ _ => True) x.program
      (fun i _ c => ∃ j, (x.nameTable.table c.data).idOf? x.value = some j ∧ ∀ j' ∈ i, j' = j)
      fun _ _ _ => True := by
  have hsome : ∀ {p : DatabaseM RowId} {k : NameTable} {v : k.Value},
      Prog.Triple env (fun _ _ => True) p (fun i _ c => (k.table c.data).idOf? v = some i)
        (fun _ _ _ => True) →
      Prog.Triple env (fun _ _ => True) (some <$> p) (fun i _ c => ∃ j,
        (k.table c.data).idOf? v = some j ∧ ∀ j' ∈ i, j' = j) fun _ _ _ => True := by
    intro p k v hp
    rw [map_eq_pure_bind]
    refine hp.bind fun i => Prog.Triple.pure fun _ c hi => ⟨i, hi, ?_⟩
    rintro j' hj'
    exact (Option.some.inj hj').symm
  cases x with
  | add k v =>
      refine (triple_add k v).bind fun _ => Prog.Triple.pure fun _ c hc => ?_
      obtain ⟨i, hi⟩ := hc
      exact ⟨i, hi, fun _ h => nomatch h⟩
  | addAndGetTimeId time => exact hsome (triple_checkThenAdd .times time)
  | addAndGetDateId date => exact hsome (triple_checkThenAdd .dates date)
  | addAndGetAgentNameId name =>
      exact hsome ((triple_add .agentNames name).bind fun _ => triple_getId)
  | addAndGetVirtualhostNameId name => exact hsome (triple_checkThenAdd .virtualhostsNames name)

end Calls

/-! ### Whole runs -/

lemma Runs.grows {c c' : Connection Store} (h : Runs c c') : Grows c.data c'.data := by
  induction h with
  | refl => exact Grows.refl _
  | call x env n _ ih =>
      have hkeeps : Prog.Keeps (fun d : Connection Store => Grows c.data d.data) x.program :=
        (grows_program x).keeps fun _ _ hstep h => h.trans hstep
      exact hkeeps.run env n ih

/-- **Ids are stable and faithful** from any moment of a run to any later one. -/
theorem interned_ids {c c' : Connection Store} (h : Runs c c') : Faithful c c' where
  different k v w i hv hw := by
    obtain ⟨a, ha, rfl⟩ := UniqueTable.idOf?_eq_some.mp (NameTable.hasId_iff.mp hv)
    obtain ⟨b, hb, rfl⟩ := UniqueTable.idOf?_eq_some.mp (NameTable.hasId_iff.mp hw)
    exact congrArg Row.val (Table.row_ext ha hb rfl)
  kept k v i hv := by
    obtain ⟨a, ha, rfl⟩ := UniqueTable.idOf?_eq_some.mp (NameTable.hasId_iff.mp hv)
    exact NameTable.hasId_iff.mpr (UniqueTable.idOf?_eq_some.mpr ⟨a, h.grows k ha, rfl⟩)
  lookup k v i hv := by
    obtain ⟨a, ha, rfl⟩ := UniqueTable.idOf?_eq_some.mp (NameTable.hasId_iff.mp hv)
    exact NameTable.exec_getById (Table.get?_eq_some.mpr (h.grows k ha))
  obtained x env n n' i c'' hrun := by
    obtain ⟨j, hj, hi⟩ := (triple_program x).of_ok trivial hrun
    exact ⟨j, NameTable.hasId_iff.mpr hj, hi⟩

/-- A database with one time, which has the id `1`. -/
def oneTime : Connection Store :=
  ((Call.add .times ⟨0, 0, 0, Time.checkTime_midnight⟩).program.run (fun _ => none) 0
    ⟨Store.empty, none⟩).2.2

/-- The time is inserted again. -/
theorem interned_ids_again : NameTable.times.HasId
    ((Call.add .times ⟨0, 0, 0, by decide⟩).program.run (fun _ => none) 0 oneTime).2.2
    ⟨0, 0, 0, by decide⟩ 1 :=
  (interned_ids (Runs.refl.call (.add .times ⟨0, 0, 0, by decide⟩) (fun _ => none) 0)).kept .times
    ⟨0, 0, 0, by decide⟩ 1 (NameTable.hasId_iff.mpr (by decide +kernel))

end Slas.Database
