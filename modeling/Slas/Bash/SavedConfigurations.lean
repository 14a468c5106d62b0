import Mathlib
import Slas.Bash.Operation

/-!
Reading the saved configurations back, `Scripts::GetAnomalyDetectionConfigurations` of
`server/src/bash/domain/scripts.cpp`.

* `Scripts.getAnomalyDetectionConfigurations`: the source;
* `WebRun`: the runs of the web commands and of the logs, in which any statement may
  fail, with the dates last saved for every agent;
* `ReadBack`: every configured agent is listed once, with these dates;
* `configurations_read_back`: this is so throughout a run that saves configurations
  with interned dates only.

The invariant is `Resolved`: the ids in a row of `BASH_ANOMALY_DETECTION_CONFIGURATION_TABLE`
stand for names and dates that are there. Only a save writes such a row, and the id it
takes for a date that is not interned stands for none.
-/

namespace Slas.Bash

open Database
open Prog (Triple)

/-! ### The source -/

/-- `bash::domain::type::AnomalyDetectionConfiguration`. -/
structure Domain.AnomalyDetectionConfiguration where
  id : RowId
  agentName : Text
  agentNameId : RowId
  beginDate : Date
  endDate : Date

/-- The body of the loop of `Scripts::GetAnomalyDetectionConfigurations`. -/
def Scripts.nameConfiguration (configurations : List Domain.AnomalyDetectionConfiguration)
    (config : Configuration) : DatabaseM (List Domain.AnomalyDetectionConfiguration) := do
  let agentName ← getAgentNameById config.agentNameId
  pure (configurations ++ [⟨config.id, agentName, config.agentNameId, config.beginDate,
    config.endDate⟩])

/-- `Scripts::GetAnomalyDetectionConfigurations`. -/
def Scripts.getAnomalyDetectionConfigurations :
    DatabaseM (List Domain.AnomalyDetectionConfiguration) := do
  let rawConfigurations ← Bash.getAnomalyDetectionConfigurations
  rawConfigurations.foldlM Scripts.nameConfiguration []

/-! ### Runs -/

/-- What the web commands and the D-Bus thread do. A configuration is saved for an
agent that is there. -/
def Operation.OfWeb (s : Store) : Operation → Prop
  | addLog _ => True
  | request (.saveConfiguration _ agentNameId _ _) => (s.agentNames.get? agentNameId).isSome
  | request _ => True
  | getCommandsStatistics _ _ _ => True
  | _ => False

/-- The dates last saved for every agent. A save is successful if
`Scripts::SaveConfiguration` returns. -/
def Operation.lastSaves (env : ℕ → Option Fault) (c : Connection Store)
    (saves : RowId → Option (Date × Date)) : Operation → RowId → Option (Date × Date)
  | request (.saveConfiguration _ agentNameId beginDate endDate) =>
      match ((Scripts.saveConfiguration agentNameId beginDate endDate).run env 0 c).1 with
      | .ok _ => Function.update saves agentNameId (some (beginDate, endDate))
      | .error _ => saves
  | _ => saves

/-- The dates of a configuration that is saved have been interned. -/
def Operation.SavesInterned (s : Store) : Operation → Prop
  | request (.saveConfiguration _ _ beginDate endDate) =>
      beginDate ∈ s.dates.vals ∧ endDate ∈ s.dates.vals
  | _ => True

/-- The runs of the web commands and of the logs from the empty database whose steps
meet a condition on the data they start from. -/
inductive WebRun (meets : Store → Operation → Prop) :
    (RowId → Option (Date × Date)) → Connection Store → Prop
  | empty : WebRun meets (fun _ => none) ⟨Store.empty, none⟩
  | step {saves : RowId → Option (Date × Date)} {c : Connection Store} (x : Operation)
      (env : ℕ → Option Fault) (h : WebRun meets saves c) (hweb : x.OfWeb c.data)
      (hx : meets c.data x) : WebRun meets (x.lastSaves env c saves) (x.program.run env 0 c).2.2

/-! ### What is read back -/

/-- Every configured agent is listed once, with the dates last saved for it. -/
structure ListsSaved (saves : RowId → Option (Date × Date)) (s : Store)
    (found : List (RowId × Date × Date)) : Prop where
  once : (found.map (·.1)).Nodup
  configured : ∀ agentNameId,
    agentNameId ∈ found.map (·.1) ↔ (s.bash.configurations.idOf? agentNameId).isSome
  dates : ∀ x ∈ found, saves x.1 = some x.2

/-- Both functions return, and list what was saved. -/
structure ReadBack (saves : RowId → Option (Date × Date)) (c : Connection Store) : Prop where
  database : ∃ configurations, getAnomalyDetectionConfigurations.exec c = (.ok configurations, c) ∧
    ListsSaved saves c.data (configurations.map fun k => (k.agentNameId, k.beginDate, k.endDate))
  scripts : ∃ configurations,
    Scripts.getAnomalyDetectionConfigurations.exec c = (.ok configurations, c) ∧
    ListsSaved saves c.data (configurations.map fun k => (k.agentNameId, k.beginDate, k.endDate))

/-- The ids in the row of a configuration stand for its agent and the dates saved. -/
def Resolved (saves : RowId → Option (Date × Date)) (s : Store) : Prop :=
  ∀ r ∈ s.bash.configurations.rows, (s.agentNames.get? r.val.agentNameId).isSome ∧
    ∃ beginDate endDate, s.dates.get? r.val.beginDateId = some beginDate ∧
      s.dates.get? r.val.endDateId = some endDate ∧
      saves r.val.agentNameId = some (beginDate, endDate)

variable {saves : RowId → Option (Date × Date)} {s s' : Store} {c : Connection Store}

/-- A list of the agents of the rows, with what was saved for each. -/
lemma listsSaved_of_map {found : List (RowId × Date × Date)}
    (h : found.map (fun x => (x.1, some x.2))
      = s.bash.configurations.rows.map fun r => (r.val.agentNameId, saves r.val.agentNameId)) :
    ListsSaved saves s found := by
  have hagents : found.map (·.1) = s.bash.configurations.vals.map (·.agentNameId) := by
    have := congrArg (List.map Prod.fst) h
    rw [List.map_map, List.map_map] at this
    rw [Table.vals, List.map_map]
    exact this
  refine ⟨?_, fun agentNameId => ?_, fun x hx => ?_⟩
  · rw [hagents]
    exact s.bash.configurations.nodup_keys
  · rw [hagents, Option.isSome_iff_exists]
    constructor
    · intro hmem
      obtain ⟨v, hv, rfl⟩ := List.mem_map.mp hmem
      obtain ⟨id, hr⟩ := Table.mem_vals.mp hv
      exact ⟨id, UniqueTable.idOf?_eq_some.mpr ⟨v, hr, rfl⟩⟩
    · rintro ⟨id, hid⟩
      obtain ⟨v, hr, rfl⟩ := UniqueTable.idOf?_eq_some.mp hid
      exact List.mem_map_of_mem (Table.mem_vals.mpr ⟨id, hr⟩)
  · have hmem := List.mem_map_of_mem (f := fun x => (x.1, some x.2)) hx
    rw [h] at hmem
    obtain ⟨r, -, heq⟩ := List.mem_map.mp hmem
    obtain ⟨hagent, hsaves⟩ := Prod.mk.inj heq
    rw [← hagent, hsaves]

/-- A configuration read from its row is what was saved. -/
lemma Resolved.entry_of_readFrom (h : Resolved saves s) {r : Row AnomalyDetectionConfiguration}
    (hr : r ∈ s.bash.configurations.rows) {k : Configuration} (hk : k.ReadFrom s r) :
    (k.agentNameId, some (k.beginDate, k.endDate))
      = (r.val.agentNameId, saves r.val.agentNameId) := by
  obtain ⟨-, beginDate, endDate, hbegin, hend, hsaves⟩ := h r hr
  obtain ⟨-, hagent, -⟩ : k.id = r.id ∧ k.agentNameId = r.val.agentNameId ∧ _ := by
    simpa [Configuration.key] using hk.key
  rw [hagent, hsaves, Option.some.inj (hk.beginDate.symm.trans hbegin),
    Option.some.inj (hk.endDate.symm.trans hend)]

lemma Resolved.map_configurations (h : Resolved saves s) {configurations : List Configuration}
    (hread : List.Forall₂ (Configuration.ReadFrom s) s.bash.configurations.rows configurations) :
    configurations.map (fun k => (k.agentNameId, some (k.beginDate, k.endDate)))
      = s.bash.configurations.rows.map fun r => (r.val.agentNameId, saves r.val.agentNameId) := by
  suffices hgen : ∀ rows ⊆ s.bash.configurations.rows,
      List.Forall₂ (Configuration.ReadFrom s) rows configurations →
        configurations.map (fun k => (k.agentNameId, some (k.beginDate, k.endDate)))
          = rows.map fun r => (r.val.agentNameId, saves r.val.agentNameId) from
    hgen _ (List.Subset.refl _) hread
  clear hread
  intro rows hrows hread
  induction hread with
  | nil => rfl
  | cons hk _ ih =>
      obtain ⟨hr, hrows⟩ := List.cons_subset.mp hrows
      rw [List.map_cons, List.map_cons, h.entry_of_readFrom hr hk, ih hrows]

/-- The loop that looks up the names of the agents. -/
lemma exec_nameConfigurations {configurations : List Configuration}
    (h : ∀ k ∈ configurations, (c.data.agentNames.get? k.agentNameId).isSome) :
    ∃ named, (configurations.foldlM Scripts.nameConfiguration []).exec c = (.ok named, c) ∧
      named.map (fun k => (k.agentNameId, k.beginDate, k.endDate))
        = configurations.map fun k => (k.agentNameId, k.beginDate, k.endDate) := by
  obtain ⟨named, s, hrun, rfl, hnamed⟩ := Prog.exec_foldlM configurations Scripts.nameConfiguration
    (fun done named s => s = c ∧ named.map (fun k => (k.agentNameId, k.beginDate, k.endDate))
      = done.map fun k => (k.agentNameId, k.beginDate, k.endDate))
    (by
      rintro done k hearlier named s ⟨rfl, hnamed⟩
      obtain ⟨agentName, hname⟩ := Option.isSome_iff_exists.mp (h k (hearlier.subset (by simp)))
      refine ⟨_, s, Prog.exec_bind_ok (exec_getAgentNameById s hname), rfl, ?_⟩
      rw [List.map_append, List.map_append, hnamed]
      rfl)
    (b := []) (s := c) ⟨rfl, rfl⟩
  exact ⟨named, hrun, hnamed⟩

/-- **What is resolved is read back.** -/
lemma Resolved.readBack (h : Resolved saves c.data) : ReadBack saves c := by
  obtain ⟨configurations, hrun, hread⟩ := exec_getAnomalyDetectionConfigurations_read
    (c := c) fun r hr => by
      obtain ⟨-, beginDate, endDate, hbegin, hend, -⟩ := h r hr
      exact ⟨Option.isSome_iff_exists.mpr ⟨_, hbegin⟩, Option.isSome_iff_exists.mpr ⟨_, hend⟩⟩
  have hmap := h.map_configurations hread
  have hlists : ListsSaved saves c.data
      (configurations.map fun k => (k.agentNameId, k.beginDate, k.endDate)) := by
    refine listsSaved_of_map ?_
    rw [List.map_map]
    exact hmap
  have hnames : ∀ k ∈ configurations, (c.data.agentNames.get? k.agentNameId).isSome := by
    intro k hk
    have hmem := List.mem_map_of_mem
      (f := fun k : Configuration => (k.agentNameId, some (k.beginDate, k.endDate))) hk
    rw [hmap] at hmem
    obtain ⟨r, hr, heq⟩ := List.mem_map.mp hmem
    rw [← (Prod.mk.inj heq).1]
    exact (h r hr).1
  obtain ⟨named, hnamed, hsame⟩ := exec_nameConfigurations hnames
  exact ⟨⟨configurations, hrun, hlists⟩,
    ⟨named, (Prog.exec_bind_ok hrun).trans hnamed, hsame ▸ hlists⟩⟩

/-! ### The invariant -/

lemma get?_mono {α : Type} {t t' : Table α} (hsub : t.rows ⊆ t'.rows) {id : RowId} {v : α}
    (h : t.get? id = some v) : t'.get? id = some v :=
  Table.get?_eq_some.mpr (hsub (Table.get?_eq_some.mp h))

/-- Names and dates stay, and every configuration was there with its agent and its
dates. -/
structure Leaves (s s' : Store) : Prop where
  agentNames : s.agentNames.rows ⊆ s'.agentNames.rows
  dates : s.dates.rows ⊆ s'.dates.rows
  configurations : ∀ r' ∈ s'.bash.configurations.rows, ∃ r ∈ s.bash.configurations.rows,
    r.val.agentNameId = r'.val.agentNameId ∧ r.val.beginDateId = r'.val.beginDateId ∧
      r.val.endDateId = r'.val.endDateId

lemma Resolved.leaves (h : Resolved saves s) (hleaves : Leaves s s') : Resolved saves s' := by
  intro r' hr'
  obtain ⟨r, hr, hagent, hbeginId, hendId⟩ := hleaves.configurations r' hr'
  obtain ⟨hname, beginDate, endDate, hbegin, hend, hsaves⟩ := h r hr
  obtain ⟨name, hname⟩ := Option.isSome_iff_exists.mp hname
  rw [← hagent, ← hbeginId, ← hendId]
  exact ⟨Option.isSome_iff_exists.mpr ⟨name, get?_mono hleaves.agentNames hname⟩, beginDate,
    endDate, get?_mono hleaves.dates hbegin, get?_mono hleaves.dates hend, hsaves⟩

lemma SelectionWrites.leaves (h : SelectionWrites s s') : Leaves s s' := by
  refine ⟨?_, ?_, fun r' hr' => ?_⟩
  · rw [h.others]
    exact List.Subset.refl _
  · rw [h.others]
    exact List.Subset.refl _
  · obtain ⟨r, hr, -, hsame⟩ := h.configurations r' hr'
    exact ⟨r, hr, hsame⟩

/-- The configuration itself is stored, or nothing is. -/
lemma triple_saveConfiguration (env : ℕ → Option Fault) (agentNameId : RowId)
    (beginDate endDate : Date) : Triple env (fun _ d => d = c)
      (Scripts.saveConfiguration agentNameId beginDate endDate)
      (fun _ _ d => d.data = { c.data with
        bash := withConfiguration c.data agentNameId beginDate endDate })
      fun _ _ d => d.data = c.data := by
  refine Triple.bind (Q := fun id _ d => d = c ∧ id = (c.data.dates.idOf? beginDate).getD (-1))
    (triple_query ?_) fun beginDateId => ?_
  · rintro n d rfl
    exact ⟨fun _ => ⟨rfl, rfl⟩, fun _ => rfl⟩
  refine Triple.bind (Q := fun id _ d => d = c ∧
    beginDateId = (c.data.dates.idOf? beginDate).getD (-1) ∧
      id = (c.data.dates.idOf? endDate).getD (-1)) (triple_query ?_) fun endDateId => ?_
  · rintro n d ⟨rfl, hbegin⟩
    exact ⟨fun _ => ⟨rfl, hbegin, rfl⟩, fun _ => rfl⟩
  · refine triple_write ?_
    rintro n d ⟨rfl, rfl, rfl⟩
    exact ⟨fun _ => rfl, fun _ => rfl⟩

/-- A configuration saved with interned dates. -/
lemma Resolved.withConfiguration (h : Resolved saves s) {agentNameId : RowId}
    {beginDate endDate : Date} (hagent : (s.agentNames.get? agentNameId).isSome)
    (hbegin : beginDate ∈ s.dates.vals) (hend : endDate ∈ s.dates.vals) :
    Resolved (Function.update saves agentNameId (some (beginDate, endDate)))
      { s with bash := withConfiguration s agentNameId beginDate endDate } := by
  have hget : ∀ date ∈ s.dates.vals, s.dates.get? ((s.dates.idOf? date).getD (-1)) = some date := by
    intro date hdate
    obtain ⟨id, hr⟩ := Table.mem_vals.mp hdate
    have hid : s.dates.idOf? date = some id := UniqueTable.idOf?_eq_some.mpr ⟨date, hr, rfl⟩
    rw [hid]
    exact Table.get?_eq_some.mpr hr
  intro r hr
  rcases UniqueTable.of_mem_insertOrReplace hr with hval | ⟨hr, hne⟩
  · rw [hval]
    exact ⟨hagent, beginDate, endDate, hget beginDate hbegin, hget endDate hend,
      Function.update_self ..⟩
  · obtain ⟨hname, dates⟩ := h r hr
    refine ⟨hname, ?_⟩
    rwa [Function.update_of_ne hne]

/-- A program whose writes leave the configurations, however it is disturbed. -/
lemma Resolved.run (h : Resolved saves c.data) {R : Store → Store → Prop} {p : DatabaseM Unit}
    (hp : AdvancesIn R p) (hR : ∀ s s', R s s' → Leaves s s') (env : ℕ → Option Fault) (n : ℕ) :
    Resolved saves (p.run env n c).2.2.data :=
  (AdvancesIn.keeps hp (P := Resolved saves) fun s s' hs h => h.leaves (hR s s' hs)).run env n h

/-- Saving a configuration. -/
lemma Resolved.saveConfiguration (h : Resolved saves c.data) {order : Raw.SummaryOrder}
    {agentNameId : RowId}
    {beginDate endDate : Date} (env : ℕ → Option Fault)
    (hweb : (Operation.request
    (.saveConfiguration order agentNameId beginDate endDate)).OfWeb c.data)
    (hx : (Operation.request (.saveConfiguration order agentNameId beginDate endDate)).SavesInterned
      c.data) :
    Resolved ((Operation.request (.saveConfiguration order agentNameId beginDate
        endDate)).lastSaves env c saves)
      ((Request.saveConfiguration order agentNameId beginDate endDate).program.run env 0
        c).2.2.data := by
  have hstored := triple_saveConfiguration env (c := c) agentNameId beginDate endDate 0 c rfl
  show Resolved _ ((Scripts.saveConfiguration agentNameId beginDate endDate >>= fun _ => _).run
    env 0 c).2.2.data
  rw [Prog.run_bind, Operation.lastSaves]
  rcases hrun : (Scripts.saveConfiguration agentNameId beginDate endDate).run env 0 c
    with ⟨e | a, n, d⟩
  · rw [hrun] at hstored
    exact hstored ▸ h
  · rw [hrun] at hstored
    have hsaved := hstored ▸ h.withConfiguration hweb hx.1 hx.2
    exact hsaved.run (advances_afterSave order agentNameId beginDate endDate)
      (fun s s' => SelectionWrites.leaves) env n

/-- No other request saves one. -/
lemma lastSaves_request {request : Request} {env : ℕ → Option Fault}
    (hne : ∀ order agentNameId beginDate endDate,
      request ≠ .saveConfiguration order agentNameId beginDate endDate) :
    (Operation.request request).lastSaves env c saves = saves := by
  cases request with
  | saveConfiguration order agentNameId beginDate endDate => exact absurd rfl (hne _ _ _ _)
  | _ => rfl

/-- One step of a run. -/
lemma Resolved.step (h : Resolved saves c.data) {x : Operation} (env : ℕ → Option Fault)
    (hweb : x.OfWeb c.data) (hx : x.SavesInterned c.data) :
    Resolved (x.lastSaves env c saves) (x.program.run env 0 c).2.2.data := by
  cases x with
  | addLog e =>
      refine h.run (advances_addLog e) (fun s s' hs => ?_) env 0
      obtain ⟨⟨heq, hdates, -⟩, hagents⟩ := hs
      refine ⟨hagents, hdates, fun r hr => ⟨r, ?_, rfl, rfl, rfl⟩⟩
      rw [heq] at hr
      exact hr
  | getCommandsStatistics agentNameId beginDate endDate =>
      refine h.run ((advances_getCommandsStatistics agentNameId beginDate endDate).bind
        fun _ => Prog.Steps.pure ()) (fun s s' hs => ?_) env 0
      obtain ⟨heq, hdates⟩ := hs
      refine ⟨?_, hdates, fun r hr => ⟨r, ?_, rfl, rfl, rfl⟩⟩
      · rw [heq]
        exact List.Subset.refl _
      · rw [heq] at hr
        exact hr
  | request request =>
      by_cases hsave : ∃ order agentNameId beginDate endDate,
        request = .saveConfiguration order agentNameId beginDate endDate
      · obtain ⟨order, agentNameId, beginDate, endDate, rfl⟩ := hsave
        exact h.saveConfiguration env hweb hx
      · have hne : ∀ order agentNameId beginDate endDate,
            request ≠ .saveConfiguration order agentNameId beginDate endDate :=
          fun order agentNameId beginDate endDate heq =>
            hsave ⟨order, agentNameId, beginDate, endDate, heq⟩
        rw [lastSaves_request hne]
        exact h.run (advances_program hne) (fun s s' => SelectionWrites.leaves) env 0
  | _ => exact hweb.elim

lemma WebRun.resolved (h : WebRun (fun s x => x.SavesInterned s) saves c) :
    Resolved saves c.data := by
  induction h with
  | empty => exact fun r hr => absurd hr List.not_mem_nil
  | step x env _ hweb hx ih => exact ih.step env hweb hx

/-- **Saved configurations can always be read back** if they are saved with interned
dates only. -/
theorem configurations_read_back (h : WebRun (fun s x => x.SavesInterned s) saves c) :
    ReadBack saves c := h.resolved.readBack

/-- The state a step leaves when nothing fails. -/
def undisturbed (c : Connection Store) (x : Operation) : Connection Store :=
  (x.program.run (fun _ => none) 0 c).2.2

/-- After the first log of an agent. -/
def afterLog : Connection Store := undisturbed ⟨Store.empty, none⟩ (.addLog someLogEntry)

/-- A log of another agent, of the day after it. -/
def otherLogEntry : BashLogEntry where
  agentName := cString [98]
  utcTime := ⟨someLogEntry.utcTime.time, dayAfterLog⟩
  userId := 1000
  command := cString [108, 115]

/-- After the logs of both agents. -/
def afterLogs : Connection Store := undisturbed afterLog (.addLog otherLogEntry)

/-- The configuration of an agent, from the day of the first log to another. -/
def saveUntil (agentNameId : RowId) (endDate : Date) : Operation :=
  .request (.saveConfiguration .stable agentNameId someLogEntry.utcTime.date endDate)

/-- The agent of the first log is the one with the id `1`. -/
lemma isSome_get?_afterLog : (afterLog.data.agentNames.get? 1).isSome = true := by decide +kernel

/-- Both agents are configured, the second one until the day of its log. -/
theorem configurations_read_back_twoAgents : ∃ saves c,
    WebRun (fun s x => x.SavesInterned s) saves c ∧ ReadBack saves c ∧
      saves 1 = some (someLogEntry.utcTime.date, someLogEntry.utcTime.date) ∧
      saves 2 = some (someLogEntry.utcTime.date, dayAfterLog) := by
  have hlogs : WebRun (fun s x => x.SavesInterned s) (fun _ => none) afterLogs :=
    (WebRun.empty.step (.addLog someLogEntry) (fun _ => none) trivial trivial).step
      (.addLog otherLogEntry) (fun _ => none) trivial trivial
  have hfirst := hlogs.step (saveUntil 1 someLogEntry.utcTime.date) (fun _ => none)
    (by decide +kernel : (afterLogs.data.agentNames.get? 1).isSome = true)
    (by decide +kernel : someLogEntry.utcTime.date ∈ afterLogs.data.dates.vals ∧
      someLogEntry.utcTime.date ∈ afterLogs.data.dates.vals)
  set c := undisturbed afterLogs (saveUntil 1 someLogEntry.utcTime.date) with hc
  have hboth := hfirst.step (saveUntil 2 dayAfterLog) (fun _ => none)
    (by decide +kernel : (c.data.agentNames.get? 2).isSome = true)
    (by decide +kernel : someLogEntry.utcTime.date ∈ c.data.dates.vals ∧
      dayAfterLog ∈ c.data.dates.vals)
  exact ⟨_, _, hboth, configurations_read_back hboth, rfl, rfl⟩

/-- Saved until a day nobody has seen yet, it cannot be read back, and with it none. -/
theorem not_configurations_read_back :
    ¬∀ saves c, WebRun (fun _ _ => True) saves c → ReadBack saves c := by
  intro h
  have hlog : WebRun (fun _ _ => True) (fun _ => none) afterLog :=
    WebRun.empty.step (.addLog someLogEntry) (fun _ => none) trivial trivial
  obtain ⟨configurations, hrun, -⟩ := (h _ _ (hlog.step (saveUntil 1 dayAfterLog) (fun _ => none)
    isSome_get?_afterLog trivial)).database
  set c := undisturbed afterLog (saveUntil 1 dayAfterLog) with hc
  have hmissing : ∃ r ∈ c.data.bash.configurations.rows,
      (c.data.dates.get? r.val.endDateId).isNone := by
    rw [hc]
    decide +kernel
  obtain ⟨r, hr, hnone⟩ := hmissing
  have herror := exec_getAnomalyDetectionConfigurations_error (c := c) ⟨r, hr, fun hdated => by
    rw [Option.isNone_iff_eq_none] at hnone
    exact absurd hdated.2 (by simp [hnone])⟩
  exact absurd (congrArg Prod.fst (hrun.symm.trans herror)) (by simp)

end Slas.Bash
