import Mathlib
import Slas.Bash.Operation

/-!
How many commands a configuration selects.

* `SelectedCommandsBounded`: at most as many as a network has inputs, pairwise
  different, so that every position the input loop writes to is an input;
* `selected_commands_bounded`: this is so in every state that is reached, whatever
  failed before.

The invariant is `Bounded`. Every operation that selects commands first removes
what the configuration selects (`SelectsFrom` no command at all) and then inserts
a list of at most as many; a text that fails stops after some of them.
-/

namespace Slas.Bash

open Database
open Prog (Triple)

/-! ### What is bounded -/

/-- The rows of a configuration in `BASH_SELECTED_COMMANDS_TABLE`. -/
def selectedCommandsOf (t : Tables) (configurationId : RowId) : List (Row SelectedCommand) :=
  t.selectedCommands.rows.filter fun r => r.val.configurationId = configurationId

/-- What the input loop writes: the positions with their values. -/
def inputWrites (selectedCommandsPosition : ℕ) :
    List RowId → List (Row DailyUserCommandStatistic) → List (ℕ × ℤ)
  | [], _ => []
  | _, [] => []
  | id :: selectedCommandsIds, commandStatistic :: commandsStatistics =>
      if commandStatistic.val.commandId = id then
        (selectedCommandsPosition, commandStatistic.val.summary) ::
          inputWrites (selectedCommandsPosition + 1) selectedCommandsIds commandsStatistics
      else inputWrites (selectedCommandsPosition + 1) selectedCommandsIds
        (commandStatistic :: commandsStatistics)

/-- A configuration selects at most as many commands as a network has inputs,
pairwise different ones, and the input loop stays within the inputs. -/
structure SelectedCommandsBounded (t : Tables) (configurationId : RowId) : Prop where
  atMost : (selectedCommandsOf t configurationId).length ≤ numberOfInputs
  different : ((selectedCommandsOf t configurationId).map (·.val.commandId)).Nodup
  writes : ∀ commandsStatistics, ∀ w ∈ inputWrites 0 (Raw.markedCommandsIds t configurationId)
    commandsStatistics, w.1 < numberOfInputs

/-- The loop makes these writes and no others. -/
lemma loadInput_eq_foldl (input : List ℤ) (position : ℕ) (ids : List RowId)
    (xs : List (Row DailyUserCommandStatistic)) : loadInput input position ids xs
      = (inputWrites position ids xs).foldl (fun input w => input.set w.1 w.2) input := by
  induction ids generalizing input position xs with
  | nil => simp [loadInput, inputWrites]
  | cons id ids ih =>
      cases xs with
      | nil => simp [loadInput, inputWrites]
      | cons x xs =>
          rw [loadInput, inputWrites]
          split_ifs with hx
          · rw [List.foldl_cons, ih]
          · exact ih input (position + 1) (x :: xs)

lemma lt_of_mem_inputWrites {position : ℕ} {ids : List RowId}
    {xs : List (Row DailyUserCommandStatistic)} {w : ℕ × ℤ} (hw : w ∈ inputWrites position ids xs) :
    w.1 < position + ids.length := by
  induction ids generalizing position xs with
  | nil => exact absurd hw (by simp [inputWrites])
  | cons id ids ih =>
      cases xs with
      | nil => exact absurd hw (by simp [inputWrites])
      | cons x xs =>
          rw [inputWrites] at hw
          rw [List.length_cons]
          split_ifs at hw with hx
          · rcases List.mem_cons.mp hw with rfl | hw
            · show position < position + (ids.length + 1)
              omega
            · have := ih hw
              omega
          · have := ih hw
            omega

lemma length_markedCommandsIds (t : Tables) (configurationId : RowId) :
    (Raw.markedCommandsIds t configurationId).length
      = (selectedCommandsOf t configurationId).length := by
  rw [Raw.markedCommandsIds, (Select.orderBy_perm _ _).length_eq, List.length_map, Table.vals,
    List.filter_map, List.length_map, selectedCommandsOf]
  rfl

/-- The table holds no pair twice. -/
lemma nodup_selectedCommandsOf (t : Tables) (configurationId : RowId) :
    ((selectedCommandsOf t configurationId).map (·.val.commandId)).Nodup := by
  have hunique := t.selectedCommands.unique.filter
    fun r => decide (r.val.configurationId = configurationId)
  refine List.pairwise_map.mpr (hunique.imp_of_mem fun {r r'} hr hr' hne heq => hne ?_)
  have hr := of_decide_eq_true (List.mem_filter.mp hr).2
  have hr' := of_decide_eq_true (List.mem_filter.mp hr').2
  show r.val = r'.val
  rw [show r.val = ⟨r.val.configurationId, r.val.commandId⟩ from rfl, hr, heq, ← hr']

/-! ### The invariant -/

/-- No configuration selects more commands than a network has inputs. -/
def Bounded (s : Store) : Prop :=
  ∀ configurationId, (selectedCommandsOf s.bash configurationId).length ≤ numberOfInputs

/-- The other configurations are bounded, and this one selects commands of a list
only. -/
structure SelectsFrom (configurationId : RowId) (ids : List RowId) (s : Store) : Prop where
  others : ∀ other ≠ configurationId, (selectedCommandsOf s.bash other).length ≤ numberOfInputs
  within : ∀ v ∈ s.bash.selectedCommands.vals, v.configurationId = configurationId →
    v.commandId ∈ ids

variable {s s' : Store} {configurationId : RowId} {ids : List RowId}

lemma bounded_of_eq (h : s'.bash.selectedCommands = s.bash.selectedCommands) (hs : Bounded s) :
    Bounded s' := by
  intro id
  rw [selectedCommandsOf, h]
  exact hs id

lemma SelectsFrom.bounded (h : SelectsFrom configurationId ids s)
    (hids : ids.length ≤ numberOfInputs) : Bounded s := by
  intro other
  by_cases hother : other = configurationId
  · subst hother
    have hsub : (selectedCommandsOf s.bash other).map (·.val.commandId) ⊆ ids := by
      intro id hid
      obtain ⟨r, hr, rfl⟩ := List.mem_map.mp hid
      obtain ⟨hr, hconfiguration⟩ := List.mem_filter.mp hr
      exact h.within _ (List.mem_map_of_mem hr) (of_decide_eq_true hconfiguration)
    have hle := ((nodup_selectedCommandsOf s.bash other).subperm hsub).length_le
    rw [List.length_map] at hle
    exact hle.trans hids
  · exact h.others other hother

/-- Commands inserted for the configuration. -/
lemma SelectsFrom.insert (h : SelectsFrom configurationId ids s) (vs : List SelectedCommand)
    (hvs : ∀ v ∈ vs, v.configurationId = configurationId ∧ v.commandId ∈ ids)
    (hs' : s'.bash.selectedCommands = vs.foldl UniqueTable.insertOrIgnore s.bash.selectedCommands) :
    SelectsFrom configurationId ids s' where
  others other hother := by
    have hfilter := UniqueTable.filter_foldl_insertOrIgnore (t := s.bash.selectedCommands)
      (p := fun v => decide (v.configurationId = other)) fun v (hv : v ∈ vs) => by
        rw [decide_eq_false_iff_not, (hvs v hv).1]
        exact Ne.symm hother
    rw [selectedCommandsOf, hs', hfilter]
    exact h.others other hother
  within v hv hconfiguration := by
    rw [hs', UniqueTable.mem_vals_foldl_insertOrIgnore] at hv
    rcases hv with hv | hv
    · exact h.within v hv hconfiguration
    · exact (hvs v hv).2

/-- Nothing is selected by the configuration. -/
lemma SelectsFrom.of_nil (h : SelectsFrom configurationId [] s) (ids : List RowId) :
    SelectsFrom configurationId ids s :=
  ⟨h.others, fun v hv hconfiguration => absurd (h.within v hv hconfiguration) List.not_mem_nil⟩

/-! ### The statements that select -/

section Statements

variable {order : Raw.SummaryOrder} {env : ℕ → Option Fault}

/-- The invariant on the connection. -/
abbrev AllBounded (c : Connection Store) : Prop := c.All Bounded

/-- The same, and the configuration selects nothing. -/
def Cleared (configurationId : RowId) (c : Connection Store) : Prop :=
  AllBounded c ∧ SelectsFrom configurationId [] c.data

/-- The commands of a configuration removed. -/
def removeCommands (configurationId : RowId) (s : Store) : Store :=
  { s with bash := { s.bash with
    selectedCommands := s.bash.selectedCommands.delete
      fun r => r.val.configurationId ≠ configurationId } }

lemma selectsFrom_removeCommands (configurationId : RowId) {s : Store} (hs : Bounded s) :
    SelectsFrom configurationId [] (removeCommands configurationId s) := by
  refine ⟨fun other hother => ?_, fun v hv hconfiguration => ?_⟩
  · have hsub := (List.filter_sublist (l := s.bash.selectedCommands.rows)
      (p := fun r => decide (r.val.configurationId ≠ configurationId))).filter
        fun r => decide (r.val.configurationId = other)
    exact hsub.length_le.trans (hs other)
  · obtain ⟨r, hr, rfl⟩ := List.mem_map.mp hv
    exact absurd hconfiguration (of_decide_eq_true (List.mem_filter.mp hr).2)

lemma cleared_removeCommands (configurationId : RowId) {c : Connection Store} (hc : AllBounded c) :
    Cleared configurationId { c with data := removeCommands configurationId c.data } :=
  have hselects := selectsFrom_removeCommands configurationId hc.1
  ⟨⟨hselects.bounded (Nat.zero_le _), hc.2⟩, hselects⟩

/-- `RemoveAllCommandsFromConfiguration`. -/
lemma triple_removeAllCommands (configurationId : RowId) :
    Triple env (fun _ => AllBounded) (Raw.removeAllCommandsFromConfiguration configurationId)
      (fun _ _ => Cleared configurationId) fun _ _ => AllBounded :=
  triple_write fun _ _ hc => ⟨fun _ => cleared_removeCommands configurationId hc, fun _ => hc⟩

/-- `AddSelectedCommandsIds`, wherever its text stops. -/
lemma triple_addSelectedCommandsIds (configurationId : RowId) {ids : List RowId}
    (hids : ids.length ≤ numberOfInputs) :
    Triple env (fun _ => Cleared configurationId) (Raw.addSelectedCommandsIds configurationId ids)
      (fun _ _ => AllBounded) fun _ _ => AllBounded := by
  set sts := Statement.begin :: ((ids.map (Raw.insertSelectedCommand configurationId)).map
    Statement.write ++ [Statement.commit]) with hsts
  have hinsert : ∀ f, Statement.write f ∈ sts → ∀ s s', SelectsFrom configurationId ids s →
      f s = some s' → SelectsFrom configurationId ids s' := by
    intro f hf s s' hs hs'
    have hf : Statement.write f
        ∈ (ids.map (Raw.insertSelectedCommand configurationId)).map Statement.write := by
      simpa [hsts] using hf
    obtain ⟨g, hg, hfg⟩ := List.mem_map.mp hf
    obtain ⟨id, hid, rfl⟩ := List.mem_map.mp hg
    obtain rfl := Statement.write.inj hfg
    obtain ⟨t, ht, rfl⟩ := Option.map_eq_some_iff.mp hs'
    rw [UniqueTable.insertNew] at ht
    split_ifs at ht
    obtain rfl := Option.some.inj ht
    refine hs.insert [⟨configurationId, id⟩] (fun v hv => ?_) rfl
    rw [List.mem_singleton.mp hv]
    exact ⟨rfl, hid⟩
  have hexecute : ∀ (fault : Option ℕ) (c : Connection Store), Cleared configurationId c →
      AllBounded (c.execute fault sts).2 := by
    intro fault c hc
    by_cases hidle : c.Idle
    · have hall : c.All (SelectsFrom configurationId ids) := by
        refine ⟨hc.2.of_nil ids, fun d hd => ?_⟩
        rw [show c.saved = none from hidle] at hd
        cases hd
      have hall := hall.execute fault hinsert
      exact ⟨hall.1.bounded hids, fun d hd => (hall.2 d hd).bounded hids⟩
    · rw [hsts, Connection.execute_begin_of_open hidle]
      exact hc.1
  refine Triple.lift fun n c hc => ?_
  have := hexecute ((env n).map fun f => min f.position (sts.length - 1)) c hc
  generalize c.execute ((env n).map fun f => min f.position (sts.length - 1)) sts = ended at this ⊢
  rcases ended with ⟨_ | _, c'⟩ <;> exact this

/-- `AddDefaultCommandsToConfiguration`. -/
lemma triple_addDefaultCommands (configurationId : RowId) :
    Triple env (fun _ => Cleared configurationId)
      (Raw.addDefaultCommandsToConfiguration order configurationId) (fun _ _ => AllBounded)
      fun _ _ => AllBounded := by
  refine triple_execSql fun n c hc => ⟨fun _ => ?_, fun _ => hc.1⟩
  rw [Connection.step]
  cases ht : c.data.bash.selectedCommands.insertAll
      (Raw.defaultCommands order c.data.bash configurationId) with
  | none => exact hc.1
  | some t =>
      have hselects : SelectsFrom configurationId
          ((Raw.defaultCommands order c.data.bash configurationId).map (·.commandId))
          { c.data with bash := { c.data.bash with selectedCommands := t } } := by
        refine (hc.2.of_nil _).insert (Raw.defaultCommands order c.data.bash configurationId)
          (fun v hv => ?_) (UniqueTable.eq_foldl_of_insertAll ht)
        exact ⟨configurationId_of_mem_defaultCommands hv, List.mem_map_of_mem hv⟩
      refine ⟨hselects.bounded ?_, hc.1.2⟩
      rw [List.length_map, Raw.defaultCommands, List.length_map, Select.page]
      exact List.length_take_le _ _

/-- A statement on other tables. -/
lemma keeps_bounded {f : Tables → Tables} (hf : ∀ t, (f t).selectedCommands = t.selectedCommands) :
    Prog.Keeps AllBounded (Raw.writeBash f) :=
  (Raw.steps_writeBash (R := fun s s' => s'.bash.selectedCommands = s.bash.selectedCommands)
    fun s => hf s.bash).keeps fun _ _ => bounded_of_eq

lemma keeps_markConfigurationAsChanged (configurationId : RowId) :
    Prog.Keeps AllBounded (Raw.markConfigurationAsChanged configurationId) :=
  keeps_bounded fun _ => rfl

/-! ### The requests -/

/-- What the configuration of an agent selects is removed. -/
lemma triple_removeAllCommandsFromAgentConfiguration (agentNameId : RowId) :
    Triple env (fun _ => AllBounded) (Scripts.removeAllCommandsFromAgentConfiguration agentNameId)
      (fun _ _ c => AllBounded c ∧
        ∀ id, c.data.bash.configurations.idOf? agentNameId = some id → Cleared id c)
      fun _ _ => AllBounded := by
  refine Triple.bind (Q := fun id _ c =>
    AllBounded c ∧ c.data.bash.configurations.idOf? agentNameId = some id)
      (triple_queryFirst fun _ _ hc => ⟨fun id hid => ⟨hc, hid⟩, fun _ => hc⟩) fun id => ?_
  refine triple_write fun n c hc => ⟨fun _ => ?_, fun _ => hc.1⟩
  have hcleared := cleared_removeCommands id hc.1
  refine ⟨hcleared.1, fun id' hid' => ?_⟩
  obtain rfl := Option.some.inj (hc.2.symm.trans hid')
  exact hcleared

/-- The default commands go to the configuration that selects nothing. -/
lemma triple_addDefaultCommandsToAgentConfiguration (agentNameId : RowId) :
    Triple env (fun _ c => AllBounded c ∧
        ∀ id, c.data.bash.configurations.idOf? agentNameId = some id → Cleared id c)
      (Scripts.addDefaultCommandsToAgentConfiguration order agentNameId) (fun _ _ => AllBounded)
      fun _ _ => AllBounded :=
  Triple.bind (Q := fun id _ c => Cleared id c)
    (triple_queryFirst fun _ _ hc => ⟨fun id hid => hc.2 id hid, fun _ => hc.1⟩)
    fun id => triple_addDefaultCommands id

lemma keeps_saveConfiguration (agentNameId : RowId) (beginDate endDate : Date) :
    Prog.Keeps AllBounded (WebScripts.saveConfiguration order agentNameId beginDate endDate) := by
  refine Prog.Keeps.bind ?_ fun _ env => ?_
  · have hsteps : StepsIn (fun s s' => s'.bash.selectedCommands = s.bash.selectedCommands)
        (Scripts.saveConfiguration agentNameId beginDate endDate) := by
      refine (steps_query _).bind fun beginDateId => ?_
      exact (steps_query _).bind fun endDateId => Raw.steps_writeBash fun _ => rfl
    exact hsteps.keeps fun _ _ => bounded_of_eq
  refine (triple_removeAllCommandsFromAgentConfiguration agentNameId).bind fun _ => ?_
  refine (triple_addDefaultCommandsToAgentConfiguration agentNameId).bind fun _ => ?_
  have hsteps : StepsIn (fun s s' => s'.bash.selectedCommands = s.bash.selectedCommands)
      (Scripts.addDailyUserStatisticsToConfiguration agentNameId beginDate endDate) := by
    refine (steps_queryFirst _).bind fun id => ?_
    exact (steps_query _).bind fun dateRangeIds => Raw.steps_writeBash fun _ => rfl
  exact hsteps.keeps (fun _ _ => bounded_of_eq) env

/-- **Every request keeps the bound**, whatever fails in it. -/
lemma keeps_request (request : Request) : Prog.Keeps AllBounded request.program := by
  cases request with
  | saveConfiguration order agentNameId beginDate endDate =>
      exact keeps_saveConfiguration agentNameId beginDate endDate
  | saveSelectedCommands configurationId commandNamesIds =>
      rw [Request.program, Scripts.saveSelectedCommands]
      split_ifs with hlimit
      · exact fun _ _ _ => id
      · intro env
        refine (triple_removeAllCommands configurationId).bind fun _ => ?_
        refine (triple_addSelectedCommandsIds configurationId (not_lt.mp hlimit)).bind fun _ => ?_
        exact keeps_markConfigurationAsChanged configurationId env
  | selectDefaultCommands order configurationId =>
      intro env
      refine (triple_removeAllCommands configurationId).bind fun _ => ?_
      refine (triple_addDefaultCommands configurationId).bind fun _ => ?_
      exact keeps_markConfigurationAsChanged configurationId env
  | updateDailyUserStatisticsClassification configurationId normalIds anomalyIds =>
      refine Prog.Keeps.bind (keeps_bounded fun _ => rfl) fun _ => ?_
      refine Prog.Keeps.bind (keeps_bounded fun _ => rfl) fun _ => ?_
      exact keeps_markConfigurationAsChanged configurationId
  | removeAnomalyDetectionConfiguration configurationId =>
      refine Prog.Keeps.bind (keeps_bounded fun _ => rfl) fun _ => ?_
      refine Prog.Keeps.bind (fun env => ?_) fun _ => keeps_bounded fun _ => rfl
      exact (triple_removeAllCommands configurationId).weaken (fun _ _ => id) (fun _ _ _ hc => hc.1)
        fun _ _ _ => id

end Statements

/-! ### Whole runs -/

/-- **Every operation keeps the bound.** -/
lemma keeps_operation (x : Operation) : Prog.Keeps AllBounded x.program := by
  by_cases hx : ∃ r, x = .request r
  · obtain ⟨r, rfl⟩ := hx
    exact keeps_request r
  · exact (steps_operation x).keeps fun s s' h => bounded_of_eq (h.selectedCommands hx)

lemma bounded_empty : Bounded Store.empty := fun _ => Nat.zero_le _

/-- **The selected commands of every configuration are bounded** in every state
that is reached, and with them the positions the input loops write to. -/
theorem selected_commands_bounded {c : Connection Store} (h : Reached c) (configurationId : RowId) :
    SelectedCommandsBounded c.data.bash configurationId := by
  have hbounded := (h.all bounded_empty keeps_operation).1 configurationId
  refine ⟨hbounded, nodup_selectedCommandsOf _ _, fun commandsStatistics w hw => ?_⟩
  have hlt := lt_of_mem_inputWrites hw
  rw [length_markedCommandsIds] at hlt
  omega

/-- A request that fails after its first insert. -/
theorem selected_commands_bounded_failed : SelectedCommandsBounded
    ((Operation.request (.saveSelectedCommands 1 [1, 2])).program.run
      (fun n => if n = 1 then some ⟨2, .error⟩ else none) 0 ⟨Store.empty, none⟩).2.2.data.bash 1 :=
  selected_commands_bounded (.step _ _ .empty) 1

end Slas.Bash
