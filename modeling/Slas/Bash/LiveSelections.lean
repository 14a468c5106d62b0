import Mathlib
import Slas.Bash.Operation

/-!
The configurations that the selections belong to.

* `Live`: every row of `BASH_SELECTED_COMMANDS_TABLE` and of
  `BASH_ANOMALY_DETECTION_CONFIGURATION_SELECTED_STATISTICS_TABLE` is of a configuration
  that is there, and what a new configuration will be called by is not in use;
* `selections_live`: this is so throughout a run in which commands are saved for
  configurations that are there.

The tables declare foreign keys, which nothing enforces. The default commands are joined
with the configurations, and the statistics are selected for a configuration that has just
been found; the commands saved by the web are inserted for whatever id they came with.
-/

namespace Slas.Bash

open Database
open Prog (Triple)

/-! ### What selections belong to -/

/-- The ids of the configurations. -/
def configurationIds (s : Store) : List RowId := s.bash.configurations.rows.map (·.id)

/-- No selection is without its configuration. -/
structure Attached (s : Store) : Prop where
  commands : ∀ v ∈ s.bash.selectedCommands.vals, v.configurationId ∈ configurationIds s
  statistics : ∀ v ∈ s.bash.selectedStatistics.vals, v.configurationId ∈ configurationIds s

/-- Neither is a new configuration born with one: an agent that has none will get it
under an id that no selection has. -/
structure Live (s : Store) : Prop extends Attached s where
  fresh : ∀ agentNameId, s.bash.configurations.idOf? agentNameId = none →
    (∀ v ∈ s.bash.selectedCommands.vals, v.configurationId ≠ configurationIdOf s agentNameId) ∧
      ∀ v ∈ s.bash.selectedStatistics.vals, v.configurationId ≠ configurationIdOf s agentNameId

/-- Commands are saved for a configuration that is there, if any are. -/
def Operation.SavesForExisting (s : Store) : Operation → Prop
  | request (.saveSelectedCommands configurationId commandNamesIds) =>
      commandNamesIds = [] ∨ Scripts.selectedCommandsLimit < commandNamesIds.length ∨
        configurationId ∈ configurationIds s
  | _ => True

variable {order : Raw.SummaryOrder} {s s' : Store} {configurationId : RowId}

/-- The next id is not in use. -/
lemma Attached.live (h : Attached s) : Live s := by
  refine ⟨h, fun agentNameId hnone => ?_⟩
  have hnext : ∀ id ∈ configurationIds s, id ≠ configurationIdOf s agentNameId := by
    intro id hid
    obtain ⟨r, hr, rfl⟩ := List.mem_map.mp hid
    rw [configurationIdOf, hnone]
    exact (Table.lt_nextId hr).ne
  exact ⟨fun v hv => hnext _ (h.commands v hv), fun v hv => hnext _ (h.statistics v hv)⟩

/-! ### Writes -/

lemma Attached.mono (h : Attached s)
    (hcommands : ∀ v ∈ s'.bash.selectedCommands.vals,
      v ∈ s.bash.selectedCommands.vals ∨ v.configurationId ∈ configurationIds s')
    (hstatistics : ∀ v ∈ s'.bash.selectedStatistics.vals,
      v ∈ s.bash.selectedStatistics.vals ∨ v.configurationId ∈ configurationIds s')
    (hids : configurationIds s ⊆ configurationIds s') : Attached s' where
  commands v hv := (hcommands v hv).elim (fun hv => hids (h.commands v hv)) id
  statistics v hv := (hstatistics v hv).elim (fun hv => hids (h.statistics v hv)) id

lemma Attached.of_eq (h : Attached s)
    (hcommands : s'.bash.selectedCommands = s.bash.selectedCommands)
    (hstatistics : s'.bash.selectedStatistics = s.bash.selectedStatistics)
    (hids : configurationIds s' = configurationIds s) : Attached s' := by
  refine h.mono (fun v hv => .inl (hcommands ▸ hv)) (fun v hv => .inl (hstatistics ▸ hv)) ?_
  rw [hids]
  exact List.Subset.refl _

/-- A configuration that is saved keeps its id, and those of the others stay. -/
lemma subset_ids_insertOrReplace {α κ : Type} {key : α → κ} [DecidableEq κ] (t : UniqueTable key)
    (v : α) : t.rows.map (·.id) ⊆ (t.insertOrReplace v).rows.map (·.id) := by
  intro id hid
  obtain ⟨r, hr, rfl⟩ := List.mem_map.mp hid
  rw [((t.perm_insertOrReplace v).map _).mem_iff, List.map_cons, List.mem_cons]
  by_cases hkey : key r.val = key v
  · left
    rw [UniqueTable.idOf?_eq_some.mpr ⟨r.val, hr, hkey⟩]
    rfl
  · exact .inr (List.mem_map_of_mem (List.mem_filter.mpr ⟨hr, decide_eq_true hkey⟩))

lemma mem_vals_of_mem_delete {α κ : Type} {key : α → κ} {t : UniqueTable key} {keep : Row α → Bool}
    {v : α} (hv : v ∈ (t.delete keep).vals) : v ∈ t.vals := by
  obtain ⟨r, hr, rfl⟩ := List.mem_map.mp hv
  exact List.mem_map_of_mem (List.mem_filter.mp hr).1

/-- A program whose every write keeps the selections attached. -/
abbrev KeepsAttached (p : DatabaseM Unit) : Prop :=
  StepsIn (fun s s' => Attached s → Attached s') p

lemma keepsAttached_removeAllCommands (configurationId : RowId) :
    KeepsAttached (Raw.removeAllCommandsFromConfiguration configurationId) :=
  steps_write fun _ h => h.mono (fun _ hv => .inl (mem_vals_of_mem_delete hv)) (fun _ hv => .inl hv)
    (List.Subset.refl _)

/-- The default commands are those of a configuration that is there. -/
lemma mem_configurationIds_of_defaultCommands {v : SelectedCommand}
    (hv : v ∈ Raw.defaultCommands order s.bash configurationId) :
    v.configurationId ∈ configurationIds s := by
  obtain ⟨p, hp, rfl⟩ := List.mem_map.mp hv
  have hp := (order.perm _).mem_iff.mp (List.mem_of_mem_drop (List.mem_of_mem_take hp))
  obtain ⟨-, hmem, -⟩ := Select.mem_join.mp (List.mem_filter.mp hp).1
  exact List.mem_map_of_mem hmem

lemma keepsAttached_addDefaultCommands (configurationId : RowId) :
    KeepsAttached (Raw.addDefaultCommandsToConfiguration order configurationId) := by
  refine steps_execSql fun f hf s s' hs h => ?_
  obtain rfl := Statement.write.inj (List.mem_singleton.mp hf)
  obtain ⟨t, ht, rfl⟩ := Option.map_eq_some_iff.mp hs
  refine h.mono (fun v hv => ?_) (fun v hv => .inl hv) (List.Subset.refl _)
  have hv : v ∈ t.vals := hv
  rw [UniqueTable.eq_foldl_of_insertAll ht] at hv
  exact (UniqueTable.mem_vals_foldl_insertOrIgnore.mp hv).imp_right
    mem_configurationIds_of_defaultCommands

lemma keepsAttached_setChanged (configurationId : RowId) (changed : Bool) :
    KeepsAttached (Raw.writeBash (Raw.setChanged configurationId changed)) :=
  steps_write fun _ h => h.of_eq rfl rfl (List.map_map ..)

lemma keepsAttached_classify (ids : List RowId) (classification : Classification) :
    KeepsAttached (Raw.setDailyUserStatisticsClassification ids classification) :=
  steps_write fun _ h => h.of_eq rfl rfl rfl

lemma keepsAttached_saveConfiguration (agentNameId : RowId) (beginDate endDate : Date) :
    KeepsAttached (Scripts.saveConfiguration agentNameId beginDate endDate) := by
  refine (steps_query _).bind fun beginDateId => (steps_query _).bind fun endDateId => ?_
  exact steps_write fun s h => h.mono (fun _ hv => .inl hv) (fun _ hv => .inl hv)
    (subset_ids_insertOrReplace _ _)

lemma KeepsAttached.keeps {p : DatabaseM Unit} (h : KeepsAttached p) :
    Prog.Keeps (fun c => c.All Attached) p := StepsIn.keeps h fun _ _ => id

/-! ### Requests -/

/-- The configuration found is still there when the statistics are selected for it. -/
lemma keeps_addDailyUserStatistics (agentNameId : RowId) (beginDate endDate : Date) :
    Prog.Keeps (fun c => c.All Attached)
      (Scripts.addDailyUserStatisticsToConfiguration agentNameId beginDate endDate) := by
  intro env
  refine Triple.bind (Q := fun i _ c => c.All Attached ∧ i ∈ configurationIds c.data)
    (triple_queryFirst fun n c hc => ⟨fun i hi => ⟨hc, ?_⟩, fun _ => hc⟩) fun i => ?_
  · obtain ⟨v, hr, -⟩ := UniqueTable.idOf?_eq_some.mp hi
    exact List.mem_map_of_mem hr
  refine Triple.bind (Q := fun _ _ c => c.All Attached ∧ i ∈ configurationIds c.data)
    (triple_query fun n c hc => ⟨fun _ => hc, fun _ => hc.1⟩) fun dateRangeIds => ?_
  refine Triple.weaken (triple_write_and (S := fun s => i ∈ configurationIds s)
    (T := fun _ => True) fun s hs hi => ⟨?_, trivial⟩) (fun _ _ => id) (fun _ _ _ h => h.1)
      fun _ _ _ => id
  refine hs.mono (fun _ hv => .inl hv) (fun v hv => ?_) (List.Subset.refl _)
  refine (UniqueTable.mem_vals_foldl_insertOrIgnore.mp hv).imp_right fun hv => ?_
  obtain ⟨r, -, rfl⟩ := List.mem_map.mp hv
  exact hi

/-- Commands saved for a configuration that is there. -/
lemma keeps_saveSelectedCommands (env : ℕ → Option Fault) (commandNamesIds : List RowId) :
    Triple env (fun _ c => c.All Attached ∧ configurationId ∈ configurationIds c.data)
      (Scripts.saveSelectedCommands configurationId commandNamesIds)
      (fun _ _ c => c.All Attached) fun _ _ c => c.All Attached := by
  rw [Scripts.saveSelectedCommands]
  split_ifs
  · exact fun n c hc => hc.1
  refine Triple.bind (triple_write_and (S := fun s => configurationId ∈ configurationIds s)
    (T := fun s => configurationId ∈ configurationIds s) fun s hs hid => ⟨?_, hid⟩) fun _ => ?_
  · exact hs.mono (fun v hv => .inl (mem_vals_of_mem_delete hv)) (fun _ hv => .inl hv)
      (List.Subset.refl _)
  refine Triple.bind (triple_execSql_and (S := fun s => configurationId ∈ configurationIds s)
    (fun f hf s s' hs hid hs' => ?_) ?_) fun _ => ?_
  · have hf : Statement.write f
        ∈ (commandNamesIds.map (Raw.insertSelectedCommand configurationId)).map
          Statement.write := by
      simpa using hf
    obtain ⟨g, hg, hfg⟩ := List.mem_map.mp hf
    obtain ⟨i, -, rfl⟩ := List.mem_map.mp hg
    obtain rfl := Statement.write.inj hfg
    obtain ⟨t, ht, rfl⟩ := Option.map_eq_some_iff.mp hs'
    refine ⟨hs.mono (fun v hv => ?_) (fun _ hv => .inl hv) (List.Subset.refl _), hid⟩
    have hv : v ∈ t.vals := hv
    rw [UniqueTable.insertNew] at ht
    split_ifs at ht with hnew
    rw [← Option.some.inj ht] at hv
    rcases UniqueTable.mem_vals_insertOrIgnore.mp hv with hv | rfl
    · exact .inl hv
    · exact .inr hid
  · simp
  · exact Triple.weaken ((keepsAttached_setChanged configurationId true).keeps env)
      (fun _ _ hc => hc.1) (fun _ _ _ => id) fun _ _ _ => id

/-- No commands saved, whatever for. -/
lemma keepsAttached_saveSelectedCommands_nil (configurationId : RowId) :
    KeepsAttached (Scripts.saveSelectedCommands configurationId []) := by
  refine (keepsAttached_removeAllCommands _).bind fun _ => ?_
  refine Prog.Steps.bind (steps_execSql fun f hf => ?_) fun _ => keepsAttached_setChanged _ _
  simp at hf

/-- Both selections are removed before the configuration is. -/
lemma keeps_removeAnomalyDetectionConfiguration (id : RowId) :
    Prog.Keeps (fun c => c.All Attached) (WebScripts.removeAnomalyDetectionConfiguration id) := by
  intro env
  refine Triple.bind (Q := fun _ _ c => c.All Attached ∧
    ∀ v ∈ c.data.bash.selectedStatistics.vals, v.configurationId ≠ id)
    (triple_write fun n c hc => ⟨fun _ => ?_, fun _ => hc⟩) fun _ => ?_
  · refine ⟨⟨hc.1.mono (fun _ hv => .inl hv) (fun v hv => .inl (mem_vals_of_mem_delete hv))
      (List.Subset.refl _), hc.2⟩, fun v hv => ?_⟩
    obtain ⟨r, hr, rfl⟩ := List.mem_map.mp hv
    exact of_decide_eq_true (List.mem_filter.mp hr).2
  refine Triple.bind (triple_write_and
    (S := fun s => ∀ v ∈ s.bash.selectedStatistics.vals, v.configurationId ≠ id)
    (T := fun s => (∀ v ∈ s.bash.selectedStatistics.vals, v.configurationId ≠ id) ∧
      ∀ v ∈ s.bash.selectedCommands.vals, v.configurationId ≠ id)
    fun s hs hstatistics => ⟨?_, hstatistics, fun v hv => ?_⟩) fun _ => ?_
  · exact hs.mono (fun v hv => .inl (mem_vals_of_mem_delete hv)) (fun _ hv => .inl hv)
      (List.Subset.refl _)
  · obtain ⟨r, hr, rfl⟩ := List.mem_map.mp hv
    exact of_decide_eq_true (List.mem_filter.mp hr).2
  refine triple_write fun n c hc => ⟨fun _ => ?_, fun _ => hc.1⟩
  obtain ⟨hall, hstatistics, hcommands⟩ := hc
  have hstays : ∀ i ∈ configurationIds c.data, i ≠ id →
      i ∈ (c.data.bash.configurations.delete fun r => r.id ≠ id).rows.map (·.id) := by
    intro i hi hne
    obtain ⟨r, hr, rfl⟩ := List.mem_map.mp hi
    exact List.mem_map_of_mem (List.mem_filter.mpr ⟨hr, decide_eq_true hne⟩)
  exact ⟨⟨fun v hv => hstays _ (hall.1.commands v hv) (hcommands v hv),
    fun v hv => hstays _ (hall.1.statistics v hv) (hstatistics v hv)⟩, hall.2⟩

lemma keeps_saveConfiguration_attached (agentNameId : RowId) (beginDate endDate : Date) :
    Prog.Keeps (fun c => c.All Attached)
      (WebScripts.saveConfiguration order agentNameId beginDate endDate) := by
  refine (keepsAttached_saveConfiguration agentNameId beginDate endDate).keeps.bind fun _ => ?_
  refine Prog.Keeps.bind (KeepsAttached.keeps ((steps_queryFirst _).bind fun _ =>
    keepsAttached_removeAllCommands _)) fun _ => ?_
  refine Prog.Keeps.bind (KeepsAttached.keeps ((steps_queryFirst _).bind fun _ =>
    keepsAttached_addDefaultCommands _)) fun _ => ?_
  exact keeps_addDailyUserStatistics agentNameId beginDate endDate

/-! ### Runs -/

/-- A request of the web. -/
lemma attached_request (request : Request) (env : ℕ → Option Fault) {c : Connection Store}
    (hrequest : (Operation.request request).SavesForExisting c.data) (hc : c.All Attached) :
    ((request.program.run env 0 c).2.2).All Attached := by
  cases request with
  | saveConfiguration order agentNameId beginDate endDate =>
      exact (keeps_saveConfiguration_attached agentNameId beginDate endDate).run env 0 hc
  | saveSelectedCommands configurationId commandNamesIds =>
      rcases hrequest with rfl | hlimit | hid
      · exact (keepsAttached_saveSelectedCommands_nil configurationId).keeps.run env 0 hc
      · rw [Request.program, Scripts.saveSelectedCommands, if_pos hlimit]
        exact hc
      · have hkeeps := keeps_saveSelectedCommands env commandNamesIds 0 c ⟨hc, hid⟩
        show ((Scripts.saveSelectedCommands configurationId commandNamesIds).run env 0
          c).2.2.All Attached
        rcases hrun : (Scripts.saveSelectedCommands configurationId commandNamesIds).run env 0 c
          with ⟨_ | _, n, d⟩ <;> rw [hrun] at hkeeps <;> exact hkeeps
  | selectDefaultCommands order configurationId =>
      exact (KeepsAttached.keeps ((keepsAttached_removeAllCommands configurationId).bind
        fun _ => (keepsAttached_addDefaultCommands configurationId).bind fun _ =>
          keepsAttached_setChanged configurationId true)).run env 0 hc
  | updateDailyUserStatisticsClassification configurationId normalIds anomalyIds =>
      exact (KeepsAttached.keeps ((keepsAttached_classify normalIds .normal).bind fun _ =>
        (keepsAttached_classify anomalyIds .anomaly).bind fun _ =>
          keepsAttached_setChanged configurationId true)).run env 0 hc
  | removeAnomalyDetectionConfiguration id =>
      exact (keeps_removeAnomalyDetectionConfiguration id).run env 0 hc

/-- One step. -/
lemma attached_step (x : Operation) (env : ℕ → Option Fault) {c : Connection Store}
    (hx : x.SavesForExisting c.data) (hc : c.All Attached) :
    ((x.program.run env 0 c).2.2).All Attached := by
  have hothers : ∀ {R : Store → Store → Prop}, StepsIn R x.program →
      (∀ s s', R s s' → s'.bash.selectedCommands = s.bash.selectedCommands ∧
        s'.bash.selectedStatistics = s.bash.selectedStatistics ∧
          configurationIds s' = configurationIds s) →
        ((x.program.run env 0 c).2.2).All Attached := fun h hR =>
    (h.keeps fun s s' hs hattached => hattached.of_eq (hR s s' hs).1 (hR s s' hs).2.1
      (hR s s' hs).2.2).run env 0 hc
  cases x with
  | addLog e => exact hothers (steps_addLog e) fun s s' hs => by rw [hs.1]; exact ⟨rfl, rfl, rfl⟩
  | createDailySystemStatistics =>
      exact hothers steps_createDailySystemStatistics fun s s' hs =>
        by rw [hs]; exact ⟨rfl, rfl, rfl⟩
  | createStatistics today =>
      exact hothers (steps_createStatistics today) fun s s' hs =>
        by rw [hs.1]; exact ⟨rfl, rfl, rfl⟩
  | train =>
      exact hothers (steps_train_ids.bind fun _ => Prog.Steps.pure ()) fun s s' hs =>
        ⟨by rw [hs.1], by rw [hs.1], hs.2⟩
  | analyze debug networks =>
      exact hothers ((steps_analyze debug networks).bind fun _ => Prog.Steps.pure ())
        fun s s' hs => by rw [hs.1]; exact ⟨rfl, rfl, rfl⟩
  | getCommandsStatistics agentNameId beginDate endDate =>
      exact hothers ((steps_getCommandsStatistics agentNameId beginDate endDate).bind
        fun _ => Prog.Steps.pure ()) fun s s' hs => by rw [hs.1]; exact ⟨rfl, rfl, rfl⟩
  | others sts h =>
      exact hothers (steps_execSql h) fun s s' hs => by
        rw [configurationIds, hs.bash]
        exact ⟨rfl, rfl, rfl⟩
  | request request => exact attached_request request env hx hc

/-- **Selections belong to live configurations** if commands are only saved for such. -/
theorem selections_live {c : Connection Store}
    (h : ReachedBy (fun x c => x.SavesForExisting c.data) c) : Live c.data :=
  (h.all (P := Attached) ⟨fun _ hv => absurd hv List.not_mem_nil,
    fun _ hv => absurd hv List.not_mem_nil⟩ fun x env _ => attached_step x env).1.live

theorem selections_live_of_saved : Live (runAll [.addLog someLogEntry, .request (.saveConfiguration
    .stable 1 someLogEntry.utcTime.date someLogEntry.utcTime.date),
      .request (.saveSelectedCommands 1 [1])] ⟨Store.empty, none⟩).data := by
  refine selections_live
    (((ReachedBy.empty.step (.addLog someLogEntry) (fun _ => none) trivial).step
    (.request (.saveConfiguration .stable 1 _ _)) (fun _ => none) trivial).step
      (.request (.saveSelectedCommands 1 [1])) (fun _ => none) (.inr (.inr ?_)))
  decide +kernel

/-- Commands saved for a configuration nobody has created. -/
theorem not_selections_live :
    ¬∀ c, ReachedBy (fun x _ => ∃ request, x = .request request) c → Live c.data := by
  intro h
  have hlive := (h _ (ReachedBy.empty.step (.request (.saveSelectedCommands 1 [1])) (fun _ => none)
    ⟨_, rfl⟩)).commands ⟨1, 1⟩ (by decide +kernel)
  exact absurd hlive (by decide +kernel)

end Slas.Bash
