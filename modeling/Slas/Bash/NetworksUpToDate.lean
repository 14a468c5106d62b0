import Mathlib
import Slas.Bash.BashAnalyzerObject
import Slas.Bash.RequestAnswers

/-!
Whether an unchanged configuration has an up-to-date network, in runs of the web
scripts and the analyzer on an undisturbed connection.

* `Action`, `TrainedBy`: the runs, with what every network was last trained on;
* `NetworksUpToDate`: the networks of the unchanged configurations were trained on
  what `Train` would train them on now;
* `Action.Careful`: the actions that keep it;
* `networks_up_to_date`: it holds in every run of careful actions;
* `not_networks_up_to_date`: it does not hold in every run.

A request marks the configuration it is about, and no other; the pass that judges
runs after the configurations have been marked as unchanged.
-/

namespace Slas.Bash

open Database NetworkTrainer

/-! ### Runs -/

/-- What is done: a request or an analysis, or what brings in logs and sums. -/
inductive Action where
  | request (request : Request)
  | analyze (today : Date) (debug : Bool) (networks : RowId → List (Option ℚ) → ℕ → ℚ)
  | addLog (logEntry : BashLogEntry)
  | getCommandsStatistics (agentNameId : RowId) (beginDate endDate : Date)

/-- The code of an action, with the files that networks are trained on. -/
def Action.program : Action → DatabaseM (List (RowId × LearningSetFile))
  | request r => r.program >>= fun _ => pure []
  | analyze today debug networks => BashAnalyzerObject.analyze today debug networks
  | addLog logEntry => Scripts.addLog logEntry >>= fun _ => pure []
  | getCommandsStatistics agentNameId beginDate endDate =>
      WebScripts.getCommandsStatistics agentNameId beginDate endDate >>= fun _ => pure []

/-- What is done before `Train`. -/
def Action.prepare : Action → DatabaseM Unit
  | analyze today _ _ => createDailySystemStatistics >>= fun _ => createStatistics today
  | _ => pure ()

/-- What the network of every configuration was last trained on. -/
abbrev Networks := RowId → Option Training

/-- The networks after a training with some files, of the tables `t`. -/
def retrained (t : Tables) (files : List (RowId × LearningSetFile)) (networks : Networks) :
    Networks := fun id =>
  match files.find? fun f => f.1 = id with
  | some f => some ⟨learningUsers t id, Raw.markedCommandsIds t id, f.2⟩
  | none => networks id

/-- The states between complete actions that meet a condition, with the networks. An
action is complete when it has returned and has left no transaction open. -/
inductive TrainedBy (meets : Action → Store → Prop) : Store → Networks → Prop
  | empty : TrainedBy meets Store.empty fun _ => none
  | step {s s₂ s' : Store} {networks : Networks} {files : List (RowId × LearningSetFile)}
      (x : Action) (h : TrainedBy meets s networks) (hx : meets x s)
      (hprepare : x.prepare.exec ⟨s, none⟩ = (.ok (), ⟨s₂, none⟩))
      (hrun : x.program.exec ⟨s, none⟩ = (.ok files, ⟨s', none⟩)) :
      TrainedBy meets s' (retrained s₂.bash files networks)

/-- The networks of the unchanged configurations are up to date. -/
def NetworksUpToDate (s : Store) (networks : Networks) : Prop :=
  ∀ r ∈ s.bash.configurations.rows, r.val.changed = false →
    networks r.id = some (trainingOf s.bash r.id)

/-- An action that leaves no unchanged configuration behind. A request spares the
unchanged configurations it is not about. No statistic that an analysis judges is
selected by a configuration. -/
def Action.Careful : Action → Store → Prop
  | request r, s => ∀ k ∈ s.bash.configurations.rows, k.val.changed = false →
      k.id ≠ r.target s → r.Spares s k.id
  | analyze _ _ _, s => ∀ k ∈ s.bash.configurations.rows, ∀ q ∈ selectedRows s.bash k.id,
      q.val.classification = .unknown → s.bash.configurations.idOf? q.val.agentNameId = none
  | _, _ => True

/-! ### The runs are runs of operations -/

section Runs

variable {c c' : Connection Store}

/-- An operation that has returned, undisturbed. -/
lemma Reached.exec (h : Reached c) (x : Operation) (hrun : x.program.exec c = (.ok (), c')) :
    Reached c' := by
  obtain ⟨n, hn⟩ := Prog.run_of_exec hrun 0
  have hstep := h.step x fun _ => none
  rwa [hn] at hstep

lemma Reached.action (h : Reached c) (x : Action) {files : List (RowId × LearningSetFile)}
    (hrun : x.program.exec c = (.ok files, c')) : Reached c' := by
  cases x with
  | request r =>
      obtain ⟨_, c₁, hr, hend⟩ := Prog.of_exec_bind hrun
      obtain ⟨-, rfl⟩ := Prod.mk.inj hend
      exact h.exec (.request r) hr
  | addLog e =>
      obtain ⟨_, c₁, hadd, hend⟩ := Prog.of_exec_bind hrun
      obtain ⟨-, rfl⟩ := Prod.mk.inj hend
      exact h.exec (.addLog e) hadd
  | getCommandsStatistics agentNameId beginDate endDate =>
      obtain ⟨_, c₁, hget, hend⟩ := Prog.of_exec_bind hrun
      obtain ⟨-, rfl⟩ := Prod.mk.inj hend
      exact h.exec (.getCommandsStatistics agentNameId beginDate endDate) (Prog.exec_bind_ok hget)
  | analyze today debug networks =>
      obtain ⟨_, c₁, hdaily, hrun⟩ := Prog.of_exec_bind hrun
      obtain ⟨_, c₂, huser, hrun⟩ := Prog.of_exec_bind hrun
      obtain ⟨_, c₃, htrain, hrun⟩ := Prog.of_exec_bind hrun
      obtain ⟨_, c₄, hjudge, hend⟩ := Prog.of_exec_bind hrun
      obtain ⟨-, rfl⟩ := Prod.mk.inj hend
      refine Reached.exec ?_ (.analyze debug networks) (Prog.exec_bind_ok hjudge)
      refine Reached.exec ?_ .train (Prog.exec_bind_ok htrain)
      exact (h.exec .createDailySystemStatistics hdaily).exec (.createStatistics today) huser

lemma TrainedBy.reached {meets : Action → Store → Prop} {s : Store} {networks : Networks}
    (h : TrainedBy meets s networks) : Reached ⟨s, none⟩ := by
  induction h with
  | empty => exact .empty
  | step x _ _ _ hrun ih => exact ih.action x hrun

end Runs

/-! ### One action -/

section Actions

variable {s s' : Store} {networks : Networks}

/-- The files are found under their configurations. -/
lemma find?_files (file : RowId → LearningSetFile) (ids : List RowId) (k : RowId) :
    ((ids.map fun id => (id, file id)).find? fun f => f.1 = k)
      = if k ∈ ids then some (k, file k) else none := by
  induction ids with
  | nil => rfl
  | cons id ids ih =>
      rw [List.map_cons, List.find?_cons, ih]
      by_cases hid : id = k
      · simp [hid]
      · simp [hid, Ne.symm hid]

/-- **A request.** -/
lemma NetworksUpToDate.request (h : NetworksUpToDate s networks) (hbounded : Bounded s)
    {request : Request} (hcareful : (Action.request request).Careful s)
    (hanswered : Answered request s s') : NetworksUpToDate s' networks := by
  intro r hr hchanged
  obtain ⟨hr, hother⟩ := hanswered.unchanged r hr hchanged
  have hlength := length_markedCommandsIds s.bash r.id
  rw [hanswered.trainingOf_eq hother (hlength ▸ hbounded r.id) (hcareful r hr hchanged hother)]
  exact h r hr hchanged

/-- Nothing is written that networks are trained on. -/
def LeavesTraining (s s' : Store) : Prop := s'.bash = { s.bash with
  systemUsers := s'.bash.systemUsers
  commands := s'.bash.commands
  logs := s'.bash.logs
  commandsStatistics := s'.bash.commandsStatistics }

lemma LeavesTraining.trainingOf_eq (h : LeavesTraining s s') (configurationId : RowId) :
    trainingOf s'.bash configurationId = trainingOf s.bash configurationId := by
  rw [h]
  rfl

lemma NetworksUpToDate.leaves (h : NetworksUpToDate s networks) (hleaves : LeavesTraining s s') :
    NetworksUpToDate s' networks := by
  intro r hr hchanged
  have hconfigurations : s'.bash.configurations = s.bash.configurations := by rw [hleaves]
  rw [hleaves.trainingOf_eq]
  exact h r (hconfigurations ▸ hr) hchanged

/-- A statement that leaves it, after others that did. -/
lemma LeavesTraining.trans {s₀ : Store} (h : LeavesTraining s₀ s) (h' : LeavesTraining s s') :
    LeavesTraining s₀ s' := by
  rw [LeavesTraining, h', h]

lemma leavesTraining_of_steps {R : Store → Store → Prop} {α : Type} {p : DatabaseM α} {a : α}
    {saved : Option Store} (hsteps : StepsIn R p) (hR : ∀ s s', R s s' → LeavesTraining s s')
    (hrun : p.exec ⟨s, none⟩ = (.ok a, ⟨s', saved⟩)) : LeavesTraining s s' := by
  have hkeeps : Prog.Keeps (fun c => c.All (LeavesTraining s)) p :=
    hsteps.keeps fun _ _ hstep h => h.trans (hR _ _ hstep)
  obtain ⟨n, hn⟩ := Prog.run_of_exec hrun 0
  have hall := hkeeps.run (fun _ => none) 0 (s := ⟨s, none⟩) ⟨rfl, fun _ hd => nomatch hd⟩
  rw [hn] at hall
  exact hall.1

/-- The first two steps of an analysis. -/
lemma Kept.trainingOf_eq {s₂ : Store} (h : Kept s s₂) (hthere : SelectedThere s)
    (hbounded : Bounded s)
    (configurationId : RowId) : SameStatistics s.bash s₂.bash configurationId ∧
      trainingOf s₂.bash configurationId = trainingOf s.bash configurationId := by
  have hselected : s₂.bash.selectedStatistics = s.bash.selectedStatistics := by rw [h.others]
  have hcommands : s₂.bash.selectedCommands = s.bash.selectedCommands := by rw [h.others]
  have hmarked : Raw.markedCommandsIds s₂.bash configurationId
      = Raw.markedCommandsIds s.bash configurationId := by
    rw [Raw.markedCommandsIds, hcommands, Raw.markedCommandsIds]
  have hstatistics : SameStatistics s.bash s₂.bash configurationId := by
    refine ⟨by rw [selectionsFor, hselected, selectionsFor], fun v hv => ?_⟩
    exact Table.get?_eq_of_subset h.rows (hthere v (mem_selectionsFor.mp hv).1)
  refine ⟨hstatistics, trainingOf_congr hstatistics hmarked fun q hq => ?_⟩
  have hq : q ∈ s.bash.dailyUserStatistics.rows :=
    (List.mem_filter.mp (List.mem_filter.mp hq).1).1
  have hlength := length_markedCommandsIds s.bash configurationId
  refine inputFor_congr hmarked (hlength ▸ hbounded configurationId) (h.counts q hq) fun id => ?_
  exact .inl (by rw [selectionsOfCommand, hcommands, selectionsOfCommand])

/-- Statistics that are not selected are judged. -/
lemma trainingOf_withStatistics {configurationId : RowId}
    {f : Row DailyUserStatistic → DailyUserStatistic}
    (h : ∀ q ∈ selectedRows s.bash configurationId, f q = q.val) :
    trainingOf (withStatistics s (s.bash.dailyUserStatistics.update f)).bash configurationId
      = trainingOf s.bash configurationId := by
  refine trainingOf_congr ⟨rfl, fun v hv => ?_⟩ rfl fun _ _ => rfl
  rw [withStatistics, Table.get?_update]
  cases hw : s.bash.dailyUserStatistics.get? v.statisticId with
  | none => rfl
  | some w =>
      have hconfiguration := (mem_selectionsFor.mp hv).2
      rw [Option.map_some, h ⟨v.statisticId, w⟩ (mem_selectedRows.mpr ⟨hw, hconfiguration ▸ hv⟩)]

/-- Which agents have no configuration stays as it is. -/
lemma idOf?_withUnchanged {ids : List RowId} {agentNameId : RowId}
    (h : s.bash.configurations.idOf? agentNameId = none) :
    (withUnchanged ids s).bash.configurations.idOf? agentNameId = none := by
  refine UniqueTable.idOf?_eq_none.mpr fun r hr => ?_
  obtain ⟨q, hq, rfl⟩ := List.mem_map.mp hr
  have hne := UniqueTable.idOf?_eq_none.mp h q hq
  dsimp only
  split_ifs
  · exact hne
  · exact hne

/-- **An analysis.** -/
lemma NetworksUpToDate.analyze (h : NetworksUpToDate s networks) (hbounded : Bounded s)
    (hthere : SelectedThere s) {judge : RowId → List (Option ℚ) → ℕ → ℚ} {s₂ : Store}
    {files : List (RowId × LearningSetFile)} {ids : List RowId}
    (hcareful : ∀ k ∈ s.bash.configurations.rows, ∀ q ∈ selectedRows s.bash k.id,
      q.val.classification = .unknown → s.bash.configurations.idOf? q.val.agentNameId = none)
    (hanalyzed : Analyzed judge s s₂ files ids s') :
    NetworksUpToDate s' (retrained s₂.bash files networks) := by
  obtain ⟨hkept, hids, rfl, rfl⟩ := hanalyzed
  have hconfigurations : s₂.bash.configurations = s.bash.configurations := by rw [hkept.others]
  intro r hr _
  obtain ⟨k, hk, rfl⟩ := List.mem_map.mp hr
  have hk' : k ∈ s.bash.configurations.rows := hconfigurations ▸ hk
  obtain ⟨hstatistics, hsame⟩ := hkept.trainingOf_eq hthere hbounded k.id
  have hjudged : ∀ q ∈ selectedRows s₂.bash k.id,
      judgedStatistic judge (withUnchanged ids s₂).bash q = q.val := by
    intro q hq
    rw [hstatistics.selectedRows] at hq
    rw [judgedStatistic]
    split
    · rename_i hunknown hconfiguration
      have hnone := hcareful k hk' q hq hunknown
      rw [idOf?_withUnchanged (hconfigurations.symm ▸ hnone)] at hconfiguration
      cases hconfiguration
    · rfl
  have hend := trainingOf_withStatistics (s := withUnchanged ids s₂) hjudged
  show retrained s₂.bash _ networks k.id = some (trainingOf (withStatistics (withUnchanged ids s₂)
    ((withUnchanged ids s₂).bash.dailyUserStatistics.update _)).bash k.id)
  rw [hend, retrained, find?_files]
  by_cases hmem : k.id ∈ ids
  · rw [if_pos hmem]
    rfl
  · have hunchanged : k.val.changed = false := by
      rwa [hids k hk, Bool.not_eq_true] at hmem
    rw [if_neg hmem]
    exact (h k hk' hunchanged).trans (congrArg some hsame.symm)

end Actions

/-! ### Whole runs -/

/-- **The networks of the unchanged configurations are up to date** in every run of
careful actions. -/
theorem networks_up_to_date {s : Store} {networks : Networks}
    (h : TrainedBy Action.Careful s networks) : NetworksUpToDate s networks := by
  induction h with
  | empty => exact fun r hr => absurd hr List.not_mem_nil
  | step x h hx hprepare hrun ih =>
      have hbounded := (h.reached.all bounded_empty keeps_operation).1
      cases x with
      | request r =>
          obtain ⟨_, c₁, hr, hend⟩ := Prog.of_exec_bind hrun
          obtain ⟨hfiles, rfl⟩ := Prod.mk.inj hend
          obtain rfl := Except.ok.inj hfiles
          exact ih.request hbounded hx (answered_of_exec hr)
      | addLog e =>
          obtain ⟨_, c₁, hadd, hend⟩ := Prog.of_exec_bind hrun
          obtain ⟨hfiles, rfl⟩ := Prod.mk.inj hend
          obtain rfl := Except.ok.inj hfiles
          exact ih.leaves (leavesTraining_of_steps (steps_addLog e)
            (fun s s' hs => by rw [LeavesTraining, hs.1]) hadd)
      | getCommandsStatistics agentNameId beginDate endDate =>
          obtain ⟨_, c₁, hget, hend⟩ := Prog.of_exec_bind hrun
          obtain ⟨hfiles, rfl⟩ := Prod.mk.inj hend
          obtain rfl := Except.ok.inj hfiles
          exact ih.leaves (leavesTraining_of_steps
            (steps_getCommandsStatistics agentNameId beginDate
            endDate) (fun s s' hs => by rw [LeavesTraining, hs.1]) hget)
      | analyze today debug judge =>
          have hthere := (h.reached.all (P := SelectedThere)
            (fun _ hv => absurd hv List.not_mem_nil)
            keeps_selectedThere).1
          obtain ⟨-, s₂, ids, hprepared, hanalyzed⟩ := analyzed_of_exec hrun
          obtain ⟨rfl, -⟩ := Connection.mk.inj (congrArg Prod.snd (hprepare.symm.trans hprepared))
          exact ih.analyze hbounded hthere hx hanalyzed

/-! ### Runs of actions -/

/-- An action, if it is complete. -/
def Action.next (x : Action) (p : Store × Networks) : Option (Store × Networks) :=
  match x.prepare.exec ⟨p.1, none⟩, x.program.exec ⟨p.1, none⟩ with
  | (.ok _, ⟨s₂, none⟩), (.ok files, ⟨s', none⟩) => some (s', retrained s₂.bash files p.2)
  | _, _ => none

/-- Actions one after another, as long as they pass a test. -/
def runActions (test : Action → Store → Bool) (xs : List Action) : Option (Store × Networks) :=
  xs.foldlM (fun p x => if test x p.1 then x.next p else none) (Store.empty, fun _ => none)

section RunActions

variable {meets : Action → Store → Prop} {test : Action → Store → Bool}

lemma TrainedBy.next {p p' : Store × Networks} (h : TrainedBy meets p.1 p.2) {x : Action}
    (hx : meets x p.1) (hnext : x.next p = some p') : TrainedBy meets p'.1 p'.2 := by
  rw [Action.next] at hnext
  split at hnext
  · rename_i hprepare hrun
    obtain rfl := Option.some.inj hnext
    exact h.step x hx hprepare hrun
  · cases hnext

lemma trainedBy_runActions (htest : ∀ x s, test x s = true → meets x s) {xs : List Action}
    {p : Store × Networks} (hrun : runActions test xs = some p) : TrainedBy meets p.1 p.2 := by
  suffices hgen : ∀ (xs : List Action) (p₀ : Store × Networks), TrainedBy meets p₀.1 p₀.2 →
      xs.foldlM (fun p x => if test x p.1 then x.next p else none) p₀ = some p →
        TrainedBy meets p.1 p.2 from hgen xs _ .empty hrun
  intro xs
  induction xs with
  | nil =>
      intro p₀ h hrun
      obtain rfl := Option.some.inj hrun
      exact h
  | cons x xs ih =>
      intro p₀ h hrun
      rw [List.foldlM_cons] at hrun
      obtain ⟨p₁, hnext, hrest⟩ := Option.bind_eq_some_iff.mp hrun
      split_ifs at hnext with hx
      exact ih p₁ (h.next (htest x _ hx) hnext) hrest

end RunActions

/-- No configuration but that of a request, and no selected statistic is unknown. -/
def Action.alone : Action → Store → Bool
  | request r, s => s.bash.configurations.rows.all fun k => k.id = r.target s
  | analyze _ _ _, s => s.bash.configurations.rows.all fun k =>
      (selectedRows s.bash k.id).all fun q => q.val.classification ≠ .unknown
  | _, _ => true

lemma Action.careful_of_alone (x : Action) (s : Store) (h : x.alone s = true) : x.Careful s := by
  cases x with
  | request r =>
      intro k hk _ hother
      exact absurd (of_decide_eq_true (List.all_eq_true.mp h k hk)) hother
  | analyze today debug judge =>
      intro k hk q hq hunknown
      exact absurd hunknown
        (of_decide_eq_true (List.all_eq_true.mp (List.all_eq_true.mp h k hk) q hq))
  | addLog e => trivial
  | getCommandsStatistics agentNameId beginDate endDate => trivial

/-- The day of the log, and the analysis on the day after it. -/
def savedRange : Request :=
  .saveConfiguration .stable 1 someLogEntry.utcTime.date someLogEntry.utcTime.date

def analyzeDayAfter : Action := .analyze dayAfterLog false fun _ _ _ => 0

/-- The statistic of the range has been classified by hand before it is learned. -/
def classifiedInTime : List Action := [.addLog someLogEntry, analyzeDayAfter, .request savedRange,
  .request (.updateDailyUserStatisticsClassification 1 [1] []), analyzeDayAfter]

/-- It is judged by the analysis that has trained the network. -/
def judgedAfterTraining : List Action :=
  [.addLog someLogEntry, analyzeDayAfter, .request savedRange, analyzeDayAfter]

/-- How many statistics the network of the first configuration was trained on, and would
be trained on now. -/
def learningSetSizes (p : Store × Networks) : Option ℕ × ℕ :=
  ((p.2 1).map (·.file.learningSetSize), (trainingOf p.1.bash 1).file.learningSetSize)

theorem networks_up_to_date_classifiedInTime :
    ∃ p, runActions Action.alone classifiedInTime = some p ∧ NetworksUpToDate p.1 p.2 ∧
      learningSetSizes p = (some 1, 1) := by
  have hruns : (runActions Action.alone classifiedInTime).any
      (fun p => learningSetSizes p = (some 1, 1)) = true := by decide +kernel
  obtain ⟨p, hp, hsizes⟩ := (Option.any_eq_true _ _).mp hruns
  exact ⟨p, hp, networks_up_to_date (trainedBy_runActions Action.careful_of_alone hp),
    of_decide_eq_true hsizes⟩

/-- A configuration that is unchanged, with a network that was trained on nothing. -/
theorem not_networks_up_to_date :
    ¬∀ s networks, TrainedBy (fun _ _ => True) s networks → NetworksUpToDate s networks := by
  intro h
  have hruns : (runActions (fun _ _ => true) judgedAfterTraining).any (fun p =>
      p.1.bash.configurations.rows.any (fun r => r.id = 1 ∧ r.val.changed = false) ∧
        learningSetSizes p = (some 0, 1)) = true := by decide +kernel
  obtain ⟨p, hp, hpass⟩ := (Option.any_eq_true _ _).mp hruns
  obtain ⟨hunchanged, hsizes⟩ := of_decide_eq_true hpass
  obtain ⟨r, hr, hpass⟩ := List.any_eq_true.mp hunchanged
  obtain ⟨hid, hchanged⟩ := of_decide_eq_true hpass
  have hnetwork := h p.1 p.2 (trainedBy_runActions (fun _ _ _ => trivial) hp) r hr hchanged
  rw [hid] at hnetwork
  rw [learningSetSizes, hnetwork] at hsizes
  obtain ⟨hzero, hone⟩ := Prod.mk.inj hsizes
  rw [Option.map_some, hone] at hzero
  exact absurd (Option.some.inj hzero) one_ne_zero

end Slas.Bash
