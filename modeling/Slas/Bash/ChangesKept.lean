import Mathlib
import Slas.Bash.NetworksUpToDate
import Slas.Bash.TrainerAndWeb

/-!
Whether a change of a configuration is lost between the web thread and the trainer.

* `FlagsOnly`: what the trainer may do between two calls of a request;
* `Answering`: what one call of a request does, `guaranteed_program`;
* `Threads.Sound`: what every careful step keeps;
* `changes_kept`: no change is lost in any order of careful steps;
* `not_changes_kept`: one is lost in another order.
-/

namespace Slas.Bash

open Database NetworkTrainer
open Threads (markingCall)

/-! ### What the trainer does in between -/

/-- Flags of configurations are cleared. -/
structure FlagsOnly (c c' : Connection Store) : Prop where
  saved : c'.saved = c.saved
  others : c'.data = { c.data with bash := { c.data.bash with
    configurations := c'.data.bash.configurations } }
  keys : c'.data.bash.configurations.rows.map (fun r => (r.id, r.val.agentNameId))
    = c.data.bash.configurations.rows.map fun r => (r.id, r.val.agentNameId)

namespace FlagsOnly

variable {c c' c'' : Connection Store}

lemma refl (c : Connection Store) : FlagsOnly c c := ⟨rfl, rfl, rfl⟩

lemma trans (h : FlagsOnly c c') (h' : FlagsOnly c' c'') : FlagsOnly c c'' :=
  ⟨h'.saved.trans h.saved, by rw [h'.others, h.others], h'.keys.trans h.keys⟩

lemma idle (h : FlagsOnly c c') (hc : c.Idle) : c'.Idle := h.saved.trans hc

lemma selectedCommands (h : FlagsOnly c c') :
    c'.data.bash.selectedCommands = c.data.bash.selectedCommands := by rw [h.others]

/-- The configuration of an agent is found where it was. -/
lemma idOf? (h : FlagsOnly c c') (agentNameId : RowId) :
    c'.data.bash.configurations.idOf? agentNameId
      = c.data.bash.configurations.idOf? agentNameId := by
  have hkeys : ∀ t : UniqueTable AnomalyDetectionConfiguration.agentNameId, t.idOf? agentNameId
      = ((t.rows.map fun r => (r.id, r.val.agentNameId)).find? fun k => k.2 = agentNameId).map
          (·.1) := by
    intro t
    rw [UniqueTable.idOf?, List.find?_map, Option.map_map]
    rfl
  rw [hkeys, hkeys, h.keys]

lemma nextId (h : FlagsOnly c c') :
    c'.data.bash.configurations.nextId = c.data.bash.configurations.nextId := by
  have hkeys : ∀ t : UniqueTable AnomalyDetectionConfiguration.agentNameId, t.nextId
      = ((t.rows.map fun r => (r.id, r.val.agentNameId)).getLast?.map (·.1)).getD 0 + 1 := by
    intro t
    rw [Table.nextId, List.getLast?_map, Option.map_map]
    rfl
  rw [hkeys, hkeys, h.keys]

/-- Every request stays about the same configuration. -/
lemma target (h : FlagsOnly c c') (request : Request) :
    request.target c'.data = request.target c.data := by
  cases request with
  | saveConfiguration order agentNameId beginDate endDate =>
      show configurationIdOf c'.data agentNameId = configurationIdOf c.data agentNameId
      rw [configurationIdOf, h.idOf?, h.nextId, configurationIdOf]
  | saveSelectedCommands configurationId commandNamesIds => rfl
  | selectDefaultCommands order configurationId => rfl
  | updateDailyUserStatisticsClassification configurationId normalIds anomalyIds => rfl
  | removeAnomalyDetectionConfiguration id => rfl

end FlagsOnly

lemma flagsOnly_setChanged (configurationId : RowId) (changed : Bool) (c : Connection Store) :
    FlagsOnly c { c with data := { c.data with
      bash := Raw.setChanged configurationId changed c.data.bash } } where
  saved := rfl
  others := rfl
  keys := by
    show ((c.data.bash.configurations.rows.map _).map _) = _
    rw [List.map_map]
    refine List.map_congr_left fun r _ => ?_
    dsimp only [Function.comp_apply]
    split_ifs <;> rfl

lemma TrainerCall.Does.flagsOnly {call : TrainerCall} {c c' : Connection Store}
    (h : call.Does c c') : FlagsOnly c c' := by
  cases call with
  | other => exact h ▸ .refl c
  | reads datum configurationId => exact h ▸ .refl c
  | marks configurationId =>
      rcases h with rfl | rfl
      · exact .refl c'
      · exact flagsOnly_setChanged configurationId false c

/-- A configuration the trainer has not marked is as it was. -/
lemma TrainerCall.Does.rows {call : TrainerCall} {c c' : Connection Store} (h : call.Does c c') :
    ∀ r ∈ c'.data.bash.configurations.rows,
      r ∈ c.data.bash.configurations.rows ∨ call = .marks r.id := by
  intro r hr
  cases call with
  | other => exact .inl (h ▸ hr)
  | reads datum configurationId => exact .inl (h ▸ hr)
  | marks configurationId =>
      rcases h with rfl | rfl
      · exact .inl hr
      · obtain ⟨q, hq, rfl⟩ := List.mem_map.mp hr
        dsimp only
        split_ifs with hid
        · exact .inr (congrArg TrainerCall.marks hid.symm)
        · exact .inl hq

/-! ### What a call of a request does -/

/-- What a call of a request does, its number given. Only the marking call touches the
configurations. -/
structure Answering (request : Request) (calls : ℕ) (c c' : Connection Store) : Prop where
  idle : c'.Idle
  target : request.target c'.data = request.target c.data
  others : calls ≠ markingCall → c'.data.bash.configurations = c.data.bash.configurations
  marked : calls = markingCall → ∀ r ∈ c'.data.bash.configurations.rows, r.val.changed = false →
    r ∈ c.data.bash.configurations.rows ∧ r.id ≠ request.target c.data
  same : ∀ k ≠ request.target c.data, ∀ datum : Datum,
    (datum = .classifications → ∀ written ∈ request.classifies calls,
      SparesClassifications c.data.bash k written.1 written.2) →
    datum.Same c.data.bash c'.data.bash k

lemma Datum.same_refl (t : Tables) (configurationId : RowId) (datum : Datum) :
    datum.Same t t configurationId := by
  cases datum with
  | selectedCommands => rfl
  | selectedStatistics => rfl
  | classifications => exact fun _ _ => rfl

/-- The configurations are not part of what is read. -/
lemma Datum.same_withConfigurations (t : Tables)
    (configurations : UniqueTable AnomalyDetectionConfiguration.agentNameId)
    (configurationId : RowId)
    (datum : Datum) : datum.Same t { t with configurations } configurationId := by
  cases datum with
  | selectedCommands => rfl
  | selectedStatistics => rfl
  | classifications => exact fun _ _ => rfl

lemma Request.target_congr {s s' : Store} (request : Request)
    (h : s'.bash.configurations = s.bash.configurations) :
      request.target s' = request.target s := by
  cases request with
  | saveConfiguration order agentNameId beginDate endDate =>
      show configurationIdOf s' agentNameId = configurationIdOf s agentNameId
      rw [configurationIdOf, h, configurationIdOf]
  | saveSelectedCommands configurationId commandNamesIds => rfl
  | selectDefaultCommands order configurationId => rfl
  | updateDailyUserStatisticsClassification configurationId normalIds anomalyIds => rfl
  | removeAnomalyDetectionConfiguration id => rfl

namespace Answering

variable {request : Request} {calls : ℕ} {c : Connection Store}

/-- A call that leaves the configurations as they are. -/
lemma of_others {s' : Store} (hc : c.Idle) (hcalls : calls ≠ markingCall)
    (hconfigurations : s'.bash.configurations = c.data.bash.configurations)
    (hsame : ∀ k ≠ request.target c.data, ∀ datum : Datum,
      (datum = .classifications → ∀ written ∈ request.classifies calls,
        SparesClassifications c.data.bash k written.1 written.2) →
      datum.Same c.data.bash s'.bash k) :
    Answering request calls c { c with data := s' } where
  idle := hc
  target := request.target_congr hconfigurations
  others _ := hconfigurations
  marked h := absurd h hcalls
  same := hsame

/-- A call that reads. -/
lemma of_reads (hc : c.Idle) (hcalls : calls ≠ markingCall) : Answering request calls c c :=
  of_others hc hcalls rfl fun k _ datum _ => datum.same_refl c.data.bash k

/-- A call that changes the commands of the configuration. -/
lemma of_commands {t : UniqueTable (@id SelectedCommand)} (hc : c.Idle)
    (hcalls : calls ≠ markingCall)
    (ht : ∀ v, v.configurationId ≠ request.target c.data →
      (v ∈ t.vals ↔ v ∈ c.data.bash.selectedCommands.vals)) :
    Answering request calls c { c with data := { c.data with
      bash := { c.data.bash with selectedCommands := t } } } := by
  refine of_others hc hcalls rfl fun k hk datum _ => ?_
  cases datum with
  | selectedCommands =>
      refine pairwise_markedCommandsIds.eq_of_mem_iff pairwise_markedCommandsIds fun id => ?_
      rw [mem_markedCommandsIds, mem_markedCommandsIds]
      exact ht _ hk
  | selectedStatistics => rfl
  | classifications => exact fun _ _ => rfl

/-- The commands of the configuration are removed. -/
lemma of_removeCommands (hc : c.Idle) (hcalls : calls ≠ markingCall) {configurationId : RowId}
    (htarget : request.target c.data = configurationId) :
    Answering request calls c { c with data := removeCommands configurationId c.data } := by
  refine of_commands hc hcalls fun v hv => ?_
  rw [htarget] at hv
  constructor
  · intro hmem
    obtain ⟨r, hr, rfl⟩ := List.mem_map.mp hmem
    exact List.mem_map_of_mem (List.mem_filter.mp hr).1
  · intro hmem
    obtain ⟨r, hr, rfl⟩ := List.mem_map.mp hmem
    exact List.mem_map_of_mem (List.mem_filter.mpr ⟨hr, decide_eq_true hv⟩)

/-- Commands are selected for it. -/
lemma of_insertCommands (hc : c.Idle) (hcalls : calls ≠ markingCall) {vs : List SelectedCommand}
    (hvs : ∀ v ∈ vs, v.configurationId = request.target c.data) :
    Answering request calls c { c with data := { c.data with bash := { c.data.bash with
      selectedCommands := vs.foldl UniqueTable.insertOrIgnore
        c.data.bash.selectedCommands } } } := by
  refine of_commands hc hcalls fun v hv => ?_
  rw [UniqueTable.mem_vals_foldl_insertOrIgnore]
  exact ⟨fun h => h.resolve_right fun hmem => hv (hvs v hmem), .inl⟩

/-- Statistics are selected for it. -/
lemma of_insertStatistics (hc : c.Idle) (hcalls : calls ≠ markingCall) {vs : List SelectedStatistic}
    (hvs : ∀ v ∈ vs, v.configurationId = request.target c.data) :
    Answering request calls c { c with data := { c.data with bash := { c.data.bash with
      selectedStatistics :=
        vs.foldl UniqueTable.insertOrIgnore c.data.bash.selectedStatistics } } } := by
  refine of_others hc hcalls rfl fun k hk datum _ => ?_
  cases datum with
  | selectedCommands => rfl
  | selectedStatistics =>
      show selectionsFor _ k = selectionsFor _ k
      rw [selectionsFor_eq, selectionsFor_eq]
      refine congrArg (List.map Row.val) (UniqueTable.filter_foldl_insertOrIgnore
        (p := fun v : SelectedStatistic => decide (v.configurationId = k)) fun v hv => ?_)
      exact decide_eq_false fun h => hk (h.symm.trans (hvs v hv))
  | classifications => exact fun _ _ => rfl

/-- Statistics are classified. -/
lemma of_classifies (hc : c.Idle) (hcalls : calls ≠ markingCall) {ids : List RowId}
    {classification : Classification} (h : request.classifies calls = some (ids, classification)) :
    Answering request calls c { c with data := { c.data with bash := { c.data.bash with
      dailyUserStatistics := c.data.bash.dailyUserStatistics.update fun r =>
        if r.id ∈ ids then { r.val with classification } else r.val } } } := by
  refine of_others hc hcalls rfl fun k _ datum hspares => ?_
  cases datum with
  | selectedCommands => rfl
  | selectedStatistics => rfl
  | classifications =>
      intro v hv
      rw [Table.get?_update]
      cases hw : c.data.bash.dailyUserStatistics.get? v.statisticId with
      | none => rfl
      | some w =>
          have hconfiguration := (mem_selectionsFor.mp hv).2
          have hq : (⟨v.statisticId, w⟩ : Row DailyUserStatistic) ∈ selectedRows c.data.bash k :=
            mem_selectedRows.mpr ⟨hw, hconfiguration ▸ hv⟩
          have hsame := hspares rfl _ h _ hq
          simp only [Option.map_some]
          split_ifs with hid
          · rw [hsame hid]
          · rfl

/-- The configuration is marked as changed. -/
lemma of_setChanged (hc : c.Idle) {configurationId : RowId}
    (htarget : request.target c.data = configurationId) :
    Answering request markingCall c { c with data := { c.data with
      bash := Raw.setChanged configurationId true c.data.bash } } where
  idle := hc
  target := (flagsOnly_setChanged configurationId true c).target request
  others h := absurd rfl h
  marked _ _ hr hchanged := htarget ▸ unchanged_setChanged hr hchanged
  same k _ datum _ := datum.same_withConfigurations c.data.bash _ k

end Answering

/-! ### Whole requests -/

section Requests

variable {order : Raw.SummaryOrder} {request : Request} {configurationId : RowId}
  {c : Connection Store}

/-- From a call on, the request does what it should while the trainer makes its calls in
between, and does not end before it has marked the configuration. -/
abbrev Guaranteed (request : Request) (calls : ℕ) (rest : DatabaseM Unit) (c : Connection Store) :
    Prop := rest.Guarantees FlagsOnly (Answering request) (markingCall < ·) calls c

/-- A call that reads, and what follows. -/
lemma guaranteed_query {calls : ℕ} {α : Type} {f : Store → α} {rest : α → DatabaseM Unit}
    (hcalls : calls ≠ markingCall) (hc : c.Idle)
    (hrest : ∀ a c', FlagsOnly c c' → Guaranteed request (calls + 1) (rest a) c') :
    Guaranteed request calls (query f >>= rest) c :=
  .call fun c' hc' => ⟨f c'.data, c', exec_query c' f, .of_reads (hc'.idle hc) hcalls,
    hrest _ c' hc'⟩

/-- One that must find the configuration of an agent. -/
lemma guaranteed_getConfigurationIdForAgent {calls : ℕ} {agentNameId : RowId}
    {rest : RowId → DatabaseM Unit} (hcalls : calls ≠ markingCall) (hc : c.Idle)
    (hid : c.data.bash.configurations.idOf? agentNameId = some configurationId)
    (hrest : ∀ c', FlagsOnly c c' → Guaranteed request (calls + 1) (rest configurationId) c') :
    Guaranteed request calls (Raw.getConfigurationIdForAgent agentNameId >>= rest) c :=
  .call fun c' hc' => ⟨configurationId, c',
    exec_queryFirst (f := fun s => s.bash.configurations.idOf? agentNameId) c'
      ((hc'.idOf? agentNameId).trans hid),
    .of_reads (hc'.idle hc) hcalls, hrest c' hc'⟩

/-- One that writes. -/
lemma guaranteed_writeBash {calls : ℕ} {f : Tables → Tables} {rest : Unit → DatabaseM Unit}
    (h : ∀ c', FlagsOnly c c' →
      Answering request calls c' { c' with data := { c'.data with bash := f c'.data.bash } } ∧
        Guaranteed request (calls + 1) (rest ())
          { c' with data := { c'.data with bash := f c'.data.bash } }) :
    Guaranteed request calls (Raw.writeBash f >>= rest) c :=
  .call fun c' hc' => ⟨(), _, Raw.exec_writeBash c' f, h c' hc'⟩

/-- A last one that writes. -/
lemma guaranteed_lastWrite {calls : ℕ} {f : Tables → Tables} (hcalls : markingCall ≤ calls)
    (h : ∀ c', FlagsOnly c c' →
      Answering request calls c' { c' with data := { c'.data with bash := f c'.data.bash } }) :
    Guaranteed request calls (Raw.writeBash f) c :=
  .last (fun c' hc' => ⟨(), _, Raw.exec_writeBash c' f, h c' hc'⟩) (Nat.lt_succ_of_le hcalls)

/-- The last call of most requests. -/
lemma guaranteed_markConfigurationAsChanged (hc : c.Idle)
    (htarget : ∀ s, request.target s = configurationId) :
    Guaranteed request markingCall (Raw.markConfigurationAsChanged configurationId) c :=
  guaranteed_lastWrite le_rfl fun _ hc' => .of_setChanged (hc'.idle hc) (htarget _)

/-- The configuration selects no command. -/
def SelectsNone (configurationId : RowId) (s : Store) : Prop :=
  ∀ v ∈ s.bash.selectedCommands.vals, v.configurationId ≠ configurationId

lemma selectsNone_removeCommands (configurationId : RowId) (s : Store) :
    SelectsNone configurationId (removeCommands configurationId s) := by
  intro v hv
  obtain ⟨r, hr, rfl⟩ := List.mem_map.mp hv
  exact of_decide_eq_true (List.mem_filter.mp hr).2

lemma SelectsNone.flagsOnly {c' : Connection Store} (h : SelectsNone configurationId c.data)
    (hc' : FlagsOnly c c') : SelectsNone configurationId c'.data := by
  rw [SelectsNone, hc'.selectedCommands]
  exact h

/-- Commands of the configuration that are pairwise different can be inserted. -/
lemma SelectsNone.insertAll (h : SelectsNone configurationId c.data) (vs : List SelectedCommand)
    (hvs : ∀ v ∈ vs, v.configurationId = configurationId) (hnodup : vs.Nodup) :
    c.data.bash.selectedCommands.insertAll vs
      = some (vs.foldl UniqueTable.insertOrIgnore c.data.bash.selectedCommands) := by
  refine UniqueTable.insertAll_eq_some (fun v hv => UniqueTable.idOf?_eq_none.mpr ?_) ?_
  · rintro r hr rfl
    exact h _ (List.mem_map_of_mem hr) (hvs _ hv)
  · rwa [List.map_id]

/-- **The default commands go in** when there are no others. -/
lemma exec_addDefaultCommands (h : SelectsNone configurationId c.data) :
    (Raw.addDefaultCommandsToConfiguration order configurationId).exec c
      = (.ok (), { c with data := { c.data with bash := { c.data.bash with
          selectedCommands := (Raw.defaultCommands order c.data.bash configurationId).foldl
            UniqueTable.insertOrIgnore c.data.bash.selectedCommands } } }) := by
  have hinsert := h.insertAll _ (fun _ => configurationId_of_mem_defaultCommands)
    (nodup_defaultCommands order c.data.bash configurationId)
  rw [Raw.addDefaultCommandsToConfiguration, execSql, Prog.exec_lift]
  simp only [Option.map_none, Connection.execute_none, Connection.step, hinsert, Option.map_some,
    Connection.execute_nil]

/-- **A list of commands goes in** when there are no others and none comes twice. -/
lemma exec_addSelectedCommandsIds (hc : c.Idle) (h : SelectsNone configurationId c.data)
    {commandNamesIds : List RowId} (hnodup : commandNamesIds.Nodup) :
    (Raw.addSelectedCommandsIds configurationId commandNamesIds).exec c
      = (.ok (), { c with data := { c.data with bash := { c.data.bash with
          selectedCommands := (commandNamesIds.map fun id => ⟨configurationId, id⟩).foldl
            UniqueTable.insertOrIgnore c.data.bash.selectedCommands } } }) := by
  obtain ⟨s, saved⟩ := c
  obtain rfl : saved = none := hc
  have hinsert := h.insertAll (commandNamesIds.map fun id => ⟨configurationId, id⟩)
    (fun v hv => by
      obtain ⟨id, -, rfl⟩ := List.mem_map.mp hv
      rfl)
    (hnodup.map fun id id' heq => congrArg SelectedCommand.commandId heq)
  rcases exec_addSelectedCommandsIds_cases configurationId commandNamesIds s with
    ⟨t, ht, hrun⟩ | ⟨hnone, -⟩
  · obtain rfl := Option.some.inj (hinsert.symm.trans ht)
    exact hrun
  · exact absurd (hinsert.symm.trans hnone) (by simp)

/-- **The requests that replace the commands**, after the removal. -/
lemma guaranteed_replaceCommands {insert : DatabaseM Unit}
    {op : Option Fault → Connection Store → _}
    (hinsert : insert = Prog.lift op) (hc : c.Idle)
    (htarget : ∀ s, request.target s = configurationId)
    (h : ∀ c', c'.Idle → SelectsNone configurationId c'.data → ∃ vs : List SelectedCommand,
      (∀ v ∈ vs, v.configurationId = configurationId) ∧ insert.exec c'
        = (.ok (), { c' with data := { c'.data with bash := { c'.data.bash with
            selectedCommands := vs.foldl UniqueTable.insertOrIgnore
              c'.data.bash.selectedCommands } } })) :
    Guaranteed request 0 (do
      Raw.removeAllCommandsFromConfiguration configurationId
      insert
      Raw.markConfigurationAsChanged configurationId) c := by
  refine guaranteed_writeBash fun c₁ hc₁ =>
    ⟨.of_removeCommands (hc₁.idle hc) (by decide) (htarget _), ?_⟩
  rw [hinsert] at h ⊢
  refine .call fun c₂ hc₂ => ?_
  have hidle := hc₂.idle (hc₁.idle hc)
  obtain ⟨vs, hvs, hrun⟩ := h c₂ hidle
    ((selectsNone_removeCommands configurationId c₁.data).flagsOnly hc₂)
  refine ⟨(), _, hrun, .of_insertCommands hidle (by decide) fun v hv => ?_, ?_⟩
  · rw [htarget]
    exact hvs v hv
  · exact guaranteed_markConfigurationAsChanged hidle htarget

/-- **A classification by hand.** -/
lemma guaranteed_updateDailyUserStatisticsClassification (hc : c.Idle)
    (normalIds anomalyIds : List RowId) :
    Guaranteed (.updateDailyUserStatisticsClassification configurationId normalIds anomalyIds) 0
      (Scripts.updateDailyUserStatisticsClassification configurationId normalIds anomalyIds) c := by
  refine guaranteed_writeBash fun c₁ hc₁ => ⟨.of_classifies (hc₁.idle hc) (by decide) rfl, ?_⟩
  refine guaranteed_writeBash fun c₂ hc₂ =>
    ⟨.of_classifies (hc₂.idle (hc₁.idle hc)) (by decide) rfl, ?_⟩
  exact guaranteed_markConfigurationAsChanged (hc₂.idle (hc₁.idle hc)) fun _ => rfl

/-- The configuration of an agent is entered anew, or replaced. -/
lemma answering_addAnomalyDetectionConfiguration (hc : c.Idle)
    (agentNameId beginDateId endDateId : RowId)
    (beginDate endDate : Date) :
    Answering (.saveConfiguration order agentNameId beginDate endDate) markingCall c
      { c with data := { c.data with bash := { c.data.bash with
        configurations := c.data.bash.configurations.insertOrReplace
          ⟨agentNameId, beginDateId, endDateId, true⟩ } } } where
  idle := hc
  target := by
    show configurationIdOf _ agentNameId = configurationIdOf c.data agentNameId
    rw [configurationIdOf, UniqueTable.idOf?_insertOrReplace, Option.getD_some, configurationIdOf]
  others h := absurd rfl h
  marked _ _ hr hchanged :=
    unchanged_insertOrReplace (v := ⟨agentNameId, beginDateId, endDateId, true⟩) rfl hr hchanged
  same k _ datum _ := datum.same_withConfigurations c.data.bash _ k

lemma target_saveConfiguration {agentNameId : RowId} {s : Store} (beginDate endDate : Date)
    (h : s.bash.configurations.idOf? agentNameId = some configurationId) :
    (Request.saveConfiguration order agentNameId beginDate endDate).target s = configurationId := by
  show configurationIdOf s agentNameId = configurationId
  rw [configurationIdOf, h, Option.getD_some]

/-- What follows on the entry of the configuration. -/
lemma guaranteed_afterEntry (agentNameId : RowId) (beginDate endDate : Date) (hc : c.Idle)
    (hid : c.data.bash.configurations.idOf? agentNameId = some configurationId) :
    Guaranteed (.saveConfiguration order agentNameId beginDate endDate) (markingCall + 1) (do
      Scripts.removeAllCommandsFromAgentConfiguration agentNameId
      Scripts.addDefaultCommandsToAgentConfiguration order agentNameId
      Scripts.addDailyUserStatisticsToConfiguration agentNameId beginDate endDate) c := by
  simp only [Scripts.removeAllCommandsFromAgentConfiguration,
    Scripts.addDefaultCommandsToAgentConfiguration, Scripts.addDailyUserStatisticsToConfiguration,
    bind_assoc]
  refine guaranteed_getConfigurationIdForAgent (by decide) hc hid fun c₁ h₁ => ?_
  refine guaranteed_writeBash fun c₂ h₂ => ?_
  -- the configuration stays idle, and is found, as the trainer goes on
  have hc₂ := (h₁.trans h₂).idle hc
  have hid₂ := ((h₁.trans h₂).idOf? agentNameId).trans hid
  refine ⟨.of_removeCommands hc₂ (by decide) (target_saveConfiguration beginDate endDate hid₂), ?_⟩
  refine guaranteed_getConfigurationIdForAgent
    (by decide) hc₂ hid₂ fun c₃ h₃ => .call fun c₄ h₄ => ?_
  have h₃₄ := h₃.trans h₄
  have hc₄ := h₃₄.idle hc₂
  have hid₄ := (h₃₄.idOf? agentNameId).trans hid₂
  have hnone := (selectsNone_removeCommands configurationId c₂.data).flagsOnly h₃₄
  refine ⟨(), _, exec_addDefaultCommands hnone, ?_, ?_⟩
  · refine .of_insertCommands hc₄ (by decide) fun v hv => ?_
    rw [target_saveConfiguration beginDate endDate hid₄]
    exact configurationId_of_mem_defaultCommands hv
  refine guaranteed_getConfigurationIdForAgent (by decide) hc₄ hid₄ fun c₅ h₅ => ?_
  refine guaranteed_query (by decide) (h₅.idle hc₄) fun dateRangeIds c₆ h₆ => ?_
  refine guaranteed_lastWrite (by decide) fun c₇ h₇ => ?_
  have h₅₇ := (h₅.trans h₆).trans h₇
  refine .of_insertStatistics (h₅₇.idle hc₄) (by decide) fun v hv => ?_
  rw [target_saveConfiguration beginDate endDate ((h₅₇.idOf? agentNameId).trans hid₄)]
  obtain ⟨r, -, rfl⟩ := List.mem_map.mp hv
  rfl

/-- **A configuration is saved.** -/
lemma guaranteed_saveConfiguration (agentNameId : RowId) (beginDate endDate : Date) (hc : c.Idle) :
    Guaranteed (.saveConfiguration order agentNameId beginDate endDate) 0
      (WebScripts.saveConfiguration order agentNameId beginDate endDate) c := by
  rw [WebScripts.saveConfiguration, Scripts.saveConfiguration, addAnomalyDetectionConfiguration]
  simp only [bind_assoc]
  refine guaranteed_query (by decide) hc fun beginDateId c₁ h₁ => ?_
  refine guaranteed_query (by decide) (h₁.idle hc) fun endDateId c₂ h₂ => ?_
  refine guaranteed_writeBash fun c₃ h₃ => ?_
  have hc₃ := ((h₁.trans h₂).trans h₃).idle hc
  have hid := c₃.data.bash.configurations.idOf?_insertOrReplace
    ⟨agentNameId, beginDateId, endDateId, true⟩
  exact ⟨answering_addAnomalyDetectionConfiguration hc₃ agentNameId beginDateId endDateId beginDate
    endDate, guaranteed_afterEntry agentNameId beginDate endDate hc₃ hid⟩

/-- **A request does what it should**, unless it refuses its commands before the first call. -/
lemma guaranteed_program (request : Request) (hchanges : request.Changes) (hc : c.Idle)
    (hnodup : ∀ configurationId commandNamesIds,
      request = .saveSelectedCommands configurationId commandNamesIds →
        commandNamesIds.length ≤ Scripts.selectedCommandsLimit → commandNamesIds.Nodup) :
    Guaranteed request 0 request.program c ∨ ∃ e, request.program = .throw e := by
  cases request with
  | saveConfiguration order agentNameId beginDate endDate =>
      exact .inl (guaranteed_saveConfiguration agentNameId beginDate endDate hc)
  | saveSelectedCommands configurationId commandNamesIds =>
      rw [Request.program, Scripts.saveSelectedCommands]
      split_ifs with hlimit
      · exact .inr ⟨_, rfl⟩
      · refine .inl (guaranteed_replaceCommands rfl hc (fun _ => rfl) fun c' hc' hnone =>
          ⟨_, fun v hv => ?_, exec_addSelectedCommandsIds hc' hnone
            (hnodup _ _ rfl (not_lt.mp hlimit))⟩)
        obtain ⟨id, -, rfl⟩ := List.mem_map.mp hv
        rfl
  | selectDefaultCommands order configurationId =>
      exact .inl (guaranteed_replaceCommands rfl hc (fun _ => rfl) fun c' hc' hnone =>
        ⟨_, fun v => configurationId_of_mem_defaultCommands, exec_addDefaultCommands hnone⟩)
  | updateDailyUserStatisticsClassification configurationId normalIds anomalyIds =>
      exact .inl (guaranteed_updateDailyUserStatisticsClassification hc normalIds anomalyIds)
  | removeAnomalyDetectionConfiguration id => exact absurd rfl (hchanges id)

end Requests

/-! ### What every careful step keeps -/

/-- A configuration that has been modified, or is being saved, is marked as changed or will
be, and what is being answered does what it should. -/
structure Threads.Sound (S : Threads) : Prop where
  idle : S.connection.Idle
  trainer : S.trainer.Calls TrainerCall.Does
  web : ∀ task ∈ S.web, Guaranteed task.request task.calls task.rest S.connection
  marked : ∀ r ∈ S.connection.data.bash.configurations.rows,
    S.modified r.id = true ∨ S.Saving r.id → r.val.changed = true ∨ S.Owes r.id

namespace Threads

variable {S S' : Threads}

lemma sound_begin (s : Store) : (begin s).Sound where
  idle := rfl
  trainer := calls_labelledTrain
  web _ htask := nomatch htask
  marked _ _ h := by
    rcases h with h | ⟨task, htask, -⟩
    · exact absurd h (by simp [begin])
    · exact nomatch htask

lemma mem_ofRest {request : Request} {calls : ℕ} {rest : DatabaseM Unit} {task : Task}
    (h : task ∈ Task.ofRest request calls rest) : task = ⟨request, calls, rest⟩ := by
  cases rest with
  | call op k => exact (Option.some.inj h).symm
  | pure a => cases h
  | throw e => cases h

/-- A request comes in. -/
lemma Sound.start (h : S.Sound) {request : Request} {hchanges : request.Changes}
    (hcareful : (Event.start request hchanges).Careful S)
    (hnext : S.next (.start request hchanges) = some S') : S'.Sound := by
  rw [next] at hnext
  split_ifs at hnext with hweb
  obtain rfl := Option.some.inj hnext
  have hnone : S.web = none := Option.not_isSome_iff_eq_none.mp hweb
  have hstart : ∀ task ∈ Task.ofRest request 0 request.program, task.calls = 0 := by
    intro task htask
    rw [mem_ofRest htask]
  refine ⟨h.idle, h.trainer, fun task htask => ?_, fun r hr hmodified => .inl ?_⟩
  · obtain rfl := mem_ofRest htask
    rcases guaranteed_program request hchanges h.idle (fun id ids hids => by
      subst hids
      exact hcareful) with hguaranteed | ⟨e, hthrow⟩
    · exact hguaranteed
    · rw [hthrow] at htask
      exact nomatch htask
  · have hbefore : S.modified r.id = true := by
      refine hmodified.resolve_right ?_
      rintro ⟨task, htask, hcalls, -⟩
      rw [hstart task htask] at hcalls
      exact absurd hcalls (by decide)
    refine (h.marked r hr (.inl hbefore)).resolve_right ?_
    rintro ⟨task, htask, -⟩
    rw [hnone] at htask
    exact nomatch htask

lemma owes_congr {k : RowId} (hweb : S'.web = S.web)
    (htarget : ∀ request : Request, request.target S'.connection.data
      = request.target S.connection.data) :
    S'.Owes k ↔ S.Owes k := by
  simp only [Owes, hweb, htarget]

lemma saving_congr {k : RowId} (hweb : S'.web = S.web)
    (htarget : ∀ request : Request, request.target S'.connection.data
      = request.target S.connection.data) :
    S'.Saving k ↔ S.Saving k := by
  simp only [Saving, hweb, htarget]

/-- The trainer makes a call: it does what its label says. -/
lemma Sound.next_callTrainer (h : S.Sound) (hnext : S.next .callTrainer = some S') :
    ∃ call : TrainerCall, call.Does S.connection S'.connection ∧
      (∀ k, call = .marks k → k ∈ S.aboutToMark) ∧ S'.trainer.Calls TrainerCall.Does ∧
        S'.web = S.web ∧ S'.modified = S.modified := by
  obtain ⟨connection, trainer, web, hasRead, modified⟩ := S
  cases trainer with
  | pure files => exact nomatch hnext
  | throw e => exact nomatch hnext
  | call label op k =>
      obtain rfl := Option.some.inj hnext
      refine ⟨label, h.trainer.1 none connection, ?_, h.trainer.2 _, rfl, rfl⟩
      rintro id rfl
      rfl

/-- The web makes a call: it does what it should, and the request is answered only once it
has marked its configuration. -/
lemma Sound.next_callWeb (h : S.Sound) (hnext : S.next .callWeb = some S') :
    ∃ task ∈ S.web, Answering task.request task.calls S.connection S'.connection ∧
      ((S'.web = none ∧ markingCall ≤ task.calls) ∨
        ∃ rest, S'.web = some ⟨task.request, task.calls + 1, rest⟩ ∧
          Guaranteed task.request (task.calls + 1) rest S'.connection) ∧
      S'.trainer = S.trainer ∧
      ∀ k, S'.modified k = true → S.modified k = true ∨ S.Modifies S'.connection k := by
  obtain ⟨connection, trainer, web, hasRead, modified⟩ := S
  cases web with
  | none => exact nomatch hnext
  | some task =>
      obtain ⟨request, calls, rest⟩ := task
      cases rest with
      | pure a => exact nomatch hnext
      | throw e => exact nomatch hnext
      | call op k =>
          obtain rfl := Option.some.inj hnext
          obtain ⟨hanswering, hrest⟩ := h.web _ rfl connection (.refl connection)
          refine ⟨_, rfl, hanswering, ?_, rfl, fun id hid => ?_⟩
          · show (Task.ofRest request (calls + 1) (k (op none connection).1) = none ∧ _) ∨
              ∃ rest, Task.ofRest request (calls + 1) (k (op none connection).1) = _ ∧ _
            cases hk : k (op none connection).1 with
            | pure a =>
                rw [hk] at hrest
                exact .inl ⟨rfl, Nat.lt_succ_iff.mp hrest⟩
            | throw e =>
                rw [hk] at hrest
                exact hrest.elim
            | call op' k' =>
                rw [hk] at hrest
                exact .inr ⟨_, rfl, hrest⟩
          · rcases Bool.or_eq_true_iff.mp hid with hid | hid
            · exact .inl hid
            · exact .inr (of_decide_eq_true hid)

/-- **A call of the trainer.** -/
lemma Sound.callTrainer (h : S.Sound) (hcareful : Event.callTrainer.Careful S)
    (hnext : S.next .callTrainer = some S') : S'.Sound := by
  obtain ⟨call, hdoes, hmarks, htrainer, hweb, hmodified⟩ := h.next_callTrainer hnext
  have hflags := hdoes.flagsOnly
  refine ⟨hflags.idle h.idle, htrainer, fun task htask => ?_, fun r hr hr' => ?_⟩
  · rw [hweb] at htask
    exact (h.web task htask).stable (fun _ _ _ h₁ h₂ => h₁.trans h₂) hflags
  · rw [hmodified, saving_congr hweb hflags.target] at hr'
    rw [owes_congr hweb hflags.target]
    rcases hdoes.rows r hr with hbefore | rfl
    · exact h.marked r hbefore hr'
    · -- the mark is taken away
      obtain ⟨howes, hnotSaving⟩ := hcareful r.id (hmarks r.id rfl)
      exact .inr (howes (hr'.resolve_right hnotSaving))

/-- What a call of the web has modified of another configuration, if anything, is of one
that is marked as changed. -/
lemma same_of_careful {request : Request} {calls : ℕ} {rest : DatabaseM Unit}
    {c' : Connection Store}
    (hanswering : Answering request calls S.connection c')
    (hweb : S.web = some ⟨request, calls, rest⟩) (hcareful : Event.callWeb.Careful S)
    {r : Row AnomalyDetectionConfiguration} (hr : r ∈ S.connection.data.bash.configurations.rows)
    (hother : r.id ≠ request.target S.connection.data) (hmodifies : S.Modifies c' r.id) :
    r.val.changed = true := by
  by_contra hchanged
  rw [Bool.not_eq_true] at hchanged
  obtain ⟨datum, hread, hdiffers⟩ := hmodifies
  refine hdiffers (hanswering.same r.id hother datum ?_)
  rintro rfl written hwritten
  exact hcareful _ hweb written hwritten r hr hchanged hother hread

/-- **A call of the web.** -/
lemma Sound.callWeb (h : S.Sound) (hcareful : Event.callWeb.Careful S)
    (hnext : S.next .callWeb = some S') : S'.Sound := by
  obtain ⟨task, htask, hanswering, hrest, htrainer, hmodified⟩ := h.next_callWeb hnext
  refine ⟨hanswering.idle, htrainer ▸ h.trainer, fun task' htask' => ?_, fun r hr hr' => ?_⟩
  · rcases hrest with ⟨hnone, -⟩ | ⟨rest, hsome, hguaranteed⟩
    · rw [hnone] at htask'
      exact nomatch htask'
    · obtain rfl := Option.some.inj (hsome.symm.trans htask')
      exact hguaranteed
  by_cases hchanged : r.val.changed = true
  · exact .inl hchanged
  rw [Bool.not_eq_true] at hchanged
  have hbefore : r ∈ S.connection.data.bash.configurations.rows := by
    by_cases hcalls : task.calls = markingCall
    · exact (hanswering.marked hcalls r hr hchanged).1
    · exact hanswering.others hcalls ▸ hr
  have howes : r.id ≠ task.request.target S.connection.data → ¬S.Owes r.id := by
    rintro hother ⟨task', htask', -, htarget⟩
    obtain rfl := Option.some.inj (htask.symm.trans htask')
    exact hother htarget.symm
  by_cases htarget : r.id = task.request.target S.connection.data
  · -- the configuration of the request
    rcases Nat.lt_trichotomy task.calls markingCall with hlt | heq | hgt
    · rcases hrest with ⟨-, hle⟩ | ⟨rest, hsome, -⟩
      · exact absurd hle (Nat.not_le_of_lt hlt)
      · exact .inr ⟨_, hsome, hlt, hanswering.target.trans htarget.symm⟩
    · exact absurd htarget (hanswering.marked heq r hr hchanged).2
    · rcases h.marked r hbefore
        (.inr ⟨task, htask, hgt, htarget.symm⟩) with hmark | ⟨task', htask', hle, -⟩
      · exact .inl hmark
      · obtain rfl := Option.some.inj (htask.symm.trans htask')
        exact absurd hle (Nat.not_le_of_lt hgt)
  · -- another one
    have hmodified' : S'.modified r.id = true := by
      refine hr'.resolve_right ?_
      rintro ⟨task', htask', -, htarget'⟩
      rcases hrest with ⟨hnone, -⟩ | ⟨rest, hsome, -⟩
      · rw [hnone] at htask'
        exact nomatch htask'
      · obtain rfl := Option.some.inj (hsome.symm.trans htask')
        exact htarget (htarget'.symm.trans hanswering.target)
    rcases hmodified r.id hmodified' with hmodified' | hmodifies
    · exact .inl ((h.marked r hbefore (.inl hmodified')).resolve_right (howes htarget))
    · exact .inl (same_of_careful hanswering htask hcareful hbefore htarget hmodifies)

/-- **Every careful step.** -/
lemma Sound.next (h : S.Sound) {x : Event} (hcareful : x.Careful S) (hnext : S.next x = some S') :
    S'.Sound := by
  cases x with
  | start request hchanges => exact h.start hcareful hnext
  | callTrainer => exact h.callTrainer hcareful hnext
  | callWeb => exact h.callWeb hcareful hnext

lemma sound_of_interleaved (h : Interleaved Event.Careful S) : S.Sound := by
  induction h with
  | begin s => exact sound_begin s
  | step x _ hcareful hnext ih => exact ih.next hcareful hnext

end Threads

/-! ### Whole runs -/

/-- **No change is lost** in any order of careful steps, once both threads have finished. -/
theorem changes_kept {S : Threads} (h : Interleaved Event.Careful S) (hfinished : S.Finished) :
    S.ChangesKept := by
  have hchanged : ∀ r ∈ S.connection.data.bash.configurations.rows, S.modified r.id = true →
      r.val.changed = true := by
    intro r hr hmodified
    refine ((Threads.sound_of_interleaved h).marked r hr (.inl hmodified)).resolve_right ?_
    rintro ⟨task, htask, -⟩
    rw [Option.isNone_iff_eq_none.mp hfinished.2] at htask
    exact nomatch htask
  refine ⟨hchanged, fun files c' hrun r hr hmodified => ?_⟩
  obtain ⟨ids, hids, rfl, -⟩ := exec_train hrun
  exact ⟨_, List.mem_map.mpr ⟨r.id, (hids r hr).mpr (hchanged r hr hmodified), rfl⟩⟩

/-! ### Runs of events -/

/-- Events one after another, as long as they meet a condition. -/
def runEvents (meets : Event → Threads → Prop) [∀ x S, Decidable (meets x S)] (xs : List Event)
    (S : Threads) : Option Threads :=
  xs.foldlM (fun S x => if meets x S then S.next x else none) S

lemma interleaved_runEvents {meets : Event → Threads → Prop} [∀ x S, Decidable (meets x S)]
    {xs : List Event} {S S' : Threads} (h : Interleaved meets S)
    (hrun : runEvents meets xs S = some S') : Interleaved meets S' := by
  induction xs generalizing S with
  | nil =>
      obtain rfl := Option.some.inj hrun
      exact h
  | cons x xs ih =>
      rw [runEvents, List.foldlM_cons] at hrun
      obtain ⟨S₁, hnext, hrest⟩ := Option.bind_eq_some_iff.mp hrun
      split_ifs at hnext with hx
      exact ih (h.step x hx hnext) hrest

/-- One configuration, which has been saved and is about to be trained. -/
def savedOnce : Store :=
  (runAll [.addLog someLogEntry, .request savedRange] ⟨Store.empty, none⟩).data

/-- A command is selected for it. -/
def selectCommand : Event := .start (.saveSelectedCommands 1 [1]) fun _ h => nomatch h

/-- The trainer marks the configuration after the web has replaced its commands, and before
the web marks it. -/
def markedInTime : List Event := List.replicate 7 .callTrainer ++
  [selectCommand, .callWeb, .callWeb, .callTrainer, .callWeb]

/-- It does so once the web has marked it. -/
def markedTooLate : List Event := List.replicate 7 .callTrainer ++
  [selectCommand, .callWeb, .callWeb, .callWeb, .callTrainer]

theorem changes_kept_markedInTime :
    ∃ S, runEvents Event.Careful markedInTime (.begin savedOnce) = some S ∧
    S.modified 1 = true ∧ S.ChangesKept := by
  have hruns : (runEvents Event.Careful markedInTime (.begin savedOnce)).any
      (fun S => S.Finished ∧ S.modified 1 = true) = true := by decide +kernel
  obtain ⟨S, hS, hpass⟩ := (Option.any_eq_true _ _).mp hruns
  obtain ⟨hfinished, hmodified⟩ := of_decide_eq_true hpass
  exact ⟨S, hS, hmodified, changes_kept (interleaved_runEvents (.begin savedOnce) hS) hfinished⟩

/-- A command has been selected, and the configuration is not trained again. -/
theorem not_changes_kept :
    ¬∀ S, Interleaved (fun _ _ => True) S → S.Finished → S.ChangesKept := by
  intro h
  have hruns : (runEvents (fun _ _ => True) markedTooLate (.begin savedOnce)).any (fun S =>
      S.Finished ∧ S.modified 1 = true ∧
        S.connection.data.bash.configurations.rows.any (fun r => r.id = 1 ∧ r.val.changed = false))
          = true := by decide +kernel
  obtain ⟨S, hS, hpass⟩ := (Option.any_eq_true _ _).mp hruns
  obtain ⟨hfinished, hmodified, hunchanged⟩ := of_decide_eq_true hpass
  obtain ⟨r, hr, hpass⟩ := List.any_eq_true.mp hunchanged
  obtain ⟨hid, hchanged⟩ := of_decide_eq_true hpass
  have hkept := h S (interleaved_runEvents (.begin savedOnce) hS) hfinished
  exact Bool.false_ne_true (hchanged.symm.trans (hkept.changed r hr (hid ▸ hmodified)))

end Slas.Bash
