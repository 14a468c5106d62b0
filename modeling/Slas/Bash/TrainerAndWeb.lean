import Mathlib
import Slas.Lib.Interference
import Slas.Bash.RequestAnswers

/-!
The trainer and the web thread on one connection, call by call.

* `Datum`, `TrainerCall`, `labelledTrain`: `NetworkTrainer::Train` with labels on
  its calls, which say what of a configuration it reads and where it marks one as
  unchanged; without the labels it is the source, `erase_labelledTrain`;
* `Threads`, `Event`, `Threads.next`: the two threads, undisturbed;
* `Interleaved`: the states of all orders of their calls that meet a condition.
-/

namespace Slas.Bash

open Database NetworkTrainer

/-! ### The calls of the trainer -/

/-- What a network is trained on, of the configuration. -/
inductive Datum where
  | selectedCommands
  | selectedStatistics
  | classifications
  deriving DecidableEq

instance : Fintype Datum :=
  ⟨{.selectedCommands, .selectedStatistics, .classifications}, fun datum =>
    by cases datum <;> decide⟩

/-- It is as it was. -/
def Datum.Same (t t' : Tables) (configurationId : RowId) : Datum → Prop
  | selectedCommands =>
      Raw.markedCommandsIds t' configurationId = Raw.markedCommandsIds t configurationId
  | selectedStatistics => selectionsFor t' configurationId = selectionsFor t configurationId
  | classifications => ∀ v ∈ selectionsFor t configurationId,
      (t'.dailyUserStatistics.get? v.statisticId).map (·.classification)
        = (t.dailyUserStatistics.get? v.statisticId).map (·.classification)

instance (t t' : Tables) (configurationId : RowId) (datum : Datum) :
    Decidable (datum.Same t t' configurationId) :=
  match datum with
  | .selectedCommands => inferInstanceAs (Decidable (_ = _))
  | .selectedStatistics => inferInstanceAs (Decidable (_ = _))
  | .classifications => inferInstanceAs (Decidable (∀ v ∈ selectionsFor t configurationId, _))

/-- What a call of the trainer is for. -/
inductive TrainerCall where
  | other
  | reads (datum : Datum) (configurationId : RowId)
  | marks (configurationId : RowId)

/-- Programs with such calls. -/
abbrev TrainerM := Labelled (Connection Store) Fault DatabaseException TrainerCall

namespace NetworkTrainer

/-- `NetworkTrainer::CreateLearningSetFile`. The users, the size of the learning set and
the commands are read first. -/
def labelledCreateLearningSetFile (configurationId : RowId) : TrainerM LearningSetFile := do
  let users ← Labelled.ofProg (.reads .selectedStatistics configurationId)
    (Raw.getUsersIdsFromSelectedDailyStatisticsInConfiguration configurationId)
  let learningSetSize ← Labelled.ofProg (.reads .classifications configurationId)
    (Raw.countSelectedDailyStatisticsWithoutUnknownClassification configurationId)
  let output := List.replicate users.length anomalyNetworkValue
  let selectedCommandsIds ← Labelled.ofProg (.reads .selectedCommands configurationId)
    (Raw.getMarkedCommandsIds configurationId)
  let written ← Labelled.ofProg .other
    (users.zipIdx.foldlM (writeUser configurationId selectedCommandsIds) ([], output))
  pure ⟨learningSetSize, numberOfInputs, users.length, written.1⟩

/-- The body of the loop of `NetworkTrainer::Train`. -/
def labelledTrainConfiguration (trained : List (RowId × LearningSetFile)) (c : Configuration) :
    TrainerM (List (RowId × LearningSetFile)) :=
  if c.changed then do
    let file ← labelledCreateLearningSetFile c.id
    let _ ← Labelled.ofProg .other (createNetworkConfiguration c.id)
    Labelled.ofProg (.marks c.id) (Raw.markConfigurationAsUnchanged c.id)
    pure (trained ++ [(c.id, file)])
  else pure trained

/-- `NetworkTrainer::Train`. -/
def labelledTrain : TrainerM (List (RowId × LearningSetFile)) := do
  let configurations ← Labelled.ofProg .other getAnomalyDetectionConfigurations
  configurations.foldlM labelledTrainConfiguration []

/-- **The calls are those of the source.** -/
lemma erase_labelledTrain : labelledTrain.erase = train := by
  have hfile : ∀ id, (labelledCreateLearningSetFile id).erase = createLearningSetFile id := by
    intro id
    simp only [labelledCreateLearningSetFile, Labelled.erase_bind, Labelled.erase_ofProg,
      Labelled.erase_pure]
    rfl
  have hconfiguration : ∀ trained c,
      (labelledTrainConfiguration trained c).erase = trainConfiguration trained c := by
    intro trained c
    rw [labelledTrainConfiguration, trainConfiguration]
    split_ifs
    · simp only [Labelled.erase_bind, Labelled.erase_ofProg, Labelled.erase_pure, hfile]
    · rfl
  rw [labelledTrain, Labelled.erase_bind, Labelled.erase_ofProg, train]
  exact bind_congr fun configurations => Labelled.erase_foldlM hconfiguration configurations []

end NetworkTrainer

/-- What a call may do to the connection. -/
def TrainerCall.Does : TrainerCall → Connection Store → Connection Store → Prop
  | marks configurationId, c, c' => c' = c ∨
      c' = { c with data :=
        { c.data with bash := Raw.setChanged configurationId false c.data.bash } }
  | _, c, c' => c' = c

/-- **The calls of the trainer are for what their labels say.** -/
lemma calls_labelledTrain : labelledTrain.Calls TrainerCall.Does := by
  have hreads : ∀ {α : Type} {p : DatabaseM α} (label : TrainerCall), Reads p →
      (Labelled.ofProg label p).Calls TrainerCall.Does := by
    intro α p label hp
    refine .ofProg (hp.mono fun c c' hc => ?_)
    cases label with
    | other => exact hc
    | reads datum configurationId => exact hc
    | marks configurationId => exact .inl hc
  have hmarks : ∀ id, (Labelled.ofProg (.marks id) (Raw.markConfigurationAsUnchanged id)).Calls
      TrainerCall.Does := by
    intro id
    refine .ofProg (Prog.Steps.lift fun fault c => ?_)
    cases fault with
    | none => exact .inr (by simp [Connection.step])
    | some fault => exact .inl (by simp)
  refine (hreads .other reads_getAnomalyDetectionConfigurations).bind fun configurations =>
    .foldlM (fun trained c => ?_) configurations []
  rw [labelledTrainConfiguration]
  split_ifs
  · refine .bind ?_ fun file => ?_
    · refine (hreads _ (Raw.reads_queryBash _)).bind fun users => ?_
      refine (hreads _ (Raw.reads_queryBash _)).bind fun size => ?_
      refine (hreads _ (Raw.reads_queryBash _)).bind fun ids => ?_
      refine .bind (hreads _ ?_) fun written => .pure _
      exact Prog.Steps.foldlM (reads_writeUser c.id ids) _ _
    · refine .bind (hreads _ ?_) fun outputs => (hmarks c.id).bind fun _ => .pure _
      exact (Raw.reads_queryBash _).bind fun users => Prog.Steps.pure _
  · exact .pure _

/-! ### The two threads -/

/-- The request changes a configuration, and does not remove it. -/
def Request.Changes (request : Request) : Prop :=
  ∀ id, request ≠ .removeAnomalyDetectionConfiguration id

/-- A request that is being answered: how many calls it has made, and what it still has
to do. -/
structure Task where
  request : Request
  calls : ℕ
  rest : DatabaseM Unit

/-- A request is being answered as long as there is a call to make. -/
def Task.ofRest (request : Request) (calls : ℕ) (rest : DatabaseM Unit) : Option Task :=
  match rest with
  | .call op k => some ⟨request, calls, .call op k⟩
  | _ => none

/-- The trainer and the web thread. `hasRead` and `modified` record what the trainer has
read of a configuration, and whether the web has modified some of it afterwards. -/
structure Threads where
  connection : Connection Store
  trainer : TrainerM (List (RowId × LearningSetFile))
  web : Option Task
  hasRead : Datum → RowId → Bool
  modified : RowId → Bool

/-- A call, or a request that comes in. -/
inductive Event where
  | start (request : Request) (h : request.Changes)
  | callTrainer
  | callWeb

namespace Threads

/-- The trainer is about to begin. -/
def begin (s : Store) : Threads where
  connection := ⟨s, none⟩
  trainer := labelledTrain
  web := none
  hasRead _ _ := false
  modified _ := false

/-- What has been read once a call has been made. -/
def readBy (S : Threads) : TrainerCall → Datum → RowId → Bool
  | .reads datum configurationId, datum', configurationId' =>
      decide (datum' = datum ∧ configurationId' = configurationId) ||
        S.hasRead datum' configurationId'
  | _, datum', configurationId' => S.hasRead datum' configurationId'

/-- Something that has been read of the configuration is not as it was. -/
def Modifies (S : Threads) (c' : Connection Store) (configurationId : RowId) : Prop :=
  ∃ datum, S.hasRead datum configurationId = true ∧
    ¬Datum.Same S.connection.data.bash c'.data.bash configurationId datum

instance (S : Threads) (c' : Connection Store) (configurationId : RowId) :
    Decidable (S.Modifies c' configurationId) :=
  inferInstanceAs (Decidable (∃ _ : Datum, _))

/-- The next state. No call is disturbed. -/
def next : Event → Threads → Option Threads
  | .start request _, S =>
      if S.web.isSome then none
      else some { S with web := Task.ofRest request 0 request.program }
  | .callTrainer, S => match S.trainer with
      | .call label op k => some { S with
          connection := (op none S.connection).2
          trainer := k (op none S.connection).1
          hasRead := S.readBy label }
      | _ => none
  | .callWeb, S => match S.web with
      | some ⟨request, calls, .call op k⟩ => some { S with
          connection := (op none S.connection).2
          web := Task.ofRest request (calls + 1) (k (op none S.connection).1)
          modified := fun configurationId => S.modified configurationId ||
            decide (S.Modifies (op none S.connection).2 configurationId) }
      | _ => none

/-- Both have finished: neither has a call to make. -/
def Finished (S : Threads) : Prop :=
  (match S.trainer with
    | .call _ _ _ => false
    | _ => true) = true ∧ S.web.isNone = true

instance (S : Threads) : Decidable S.Finished := inferInstanceAs (Decidable (_ ∧ _))

/-- The trainer is about to mark a configuration as unchanged. -/
def aboutToMark (S : Threads) : Option RowId :=
  match S.trainer with
  | .call (.marks configurationId) _ _ => some configurationId
  | _ => none

/-- The number of the call that marks a configuration as changed, in every request. -/
def markingCall : ℕ := 2

/-- The request that is being answered is about the configuration and has not marked it
yet. -/
def Owes (S : Threads) (configurationId : RowId) : Prop :=
  ∃ task ∈ S.web, task.calls ≤ markingCall ∧
    task.request.target S.connection.data = configurationId

/-- It has marked it, and has not finished. -/
def Saving (S : Threads) (configurationId : RowId) : Prop :=
  ∃ task ∈ S.web, markingCall < task.calls ∧
    task.request.target S.connection.data = configurationId

instance (S : Threads) (configurationId : RowId) : Decidable (S.Owes configurationId) :=
  inferInstanceAs (Decidable (∃ task ∈ S.web, _))

instance (S : Threads) (configurationId : RowId) : Decidable (S.Saving configurationId) :=
  inferInstanceAs (Decidable (∃ task ∈ S.web, _))

end Threads

/-- The states of all orders of the calls that meet a condition on the state before each
of them. -/
inductive Interleaved (meets : Event → Threads → Prop) : Threads → Prop
  | begin (s : Store) : Interleaved meets (Threads.begin s)
  | step {S S' : Threads} (x : Event) (h : Interleaved meets S) (hx : meets x S)
      (hnext : S.next x = some S') : Interleaved meets S'

/-- The configurations that have been modified since they were read are marked as changed,
so that the next training is about them. -/
structure Threads.ChangesKept (S : Threads) : Prop where
  changed : ∀ r ∈ S.connection.data.bash.configurations.rows, S.modified r.id = true →
    r.val.changed = true
  retrained : ∀ files c', train.exec S.connection = (.ok files, c') →
    ∀ r ∈ S.connection.data.bash.configurations.rows, S.modified r.id = true →
      ∃ file, (r.id, file) ∈ files

/-- What a call of the request classifies. -/
def Request.classifies : Request → ℕ → Option (List RowId × Classification)
  | updateDailyUserStatisticsClassification _ normalIds _, 0 => some (normalIds, .normal)
  | updateDailyUserStatisticsClassification _ _ anomalyIds, 1 => some (anomalyIds, .anomaly)
  | _, _ => none

/-- What is written leaves the classifications of the configuration as they are. -/
def SparesClassifications (t : Tables) (configurationId : RowId) (ids : List RowId)
    (classification : Classification) : Prop :=
  ∀ q ∈ selectedRows t configurationId, q.id ∈ ids → q.val.classification = classification

/-- A step after which no change is lost. No command is to be selected twice, if the list is not
refused for its length. The trainer marks no configuration whose data has been modified behind
its back, unless the request that did so has yet to mark it, nor one that is being saved. A
request classifies no statistic that an unchanged configuration other than its own has been
trained on. -/
def Event.Careful : Event → Threads → Prop
  | start (.saveSelectedCommands _ commandNamesIds) _, _ =>
      commandNamesIds.length ≤ Scripts.selectedCommandsLimit → commandNamesIds.Nodup
  | start _ _, _ => True
  | callTrainer, S => ∀ k ∈ S.aboutToMark, (S.modified k = true → S.Owes k) ∧ ¬S.Saving k
  | callWeb, S => ∀ task ∈ S.web, ∀ written ∈ task.request.classifies task.calls,
      ∀ r ∈ S.connection.data.bash.configurations.rows, r.val.changed = false →
        r.id ≠ task.request.target S.connection.data →
          S.hasRead .classifications r.id = true →
            SparesClassifications S.connection.data.bash r.id written.1 written.2

instance (t : Tables) (configurationId : RowId) (ids : List RowId)
    (classification : Classification) :
    Decidable (SparesClassifications t configurationId ids classification) :=
  inferInstanceAs (Decidable (∀ q ∈ selectedRows t configurationId, _))

instance (x : Event) (S : Threads) : Decidable (x.Careful S) :=
  match x with
  | .start (.saveSelectedCommands _ commandNamesIds) _ =>
      inferInstanceAs (Decidable (_ → commandNamesIds.Nodup))
  | .start (.saveConfiguration _ _ _ _) _ => isTrue trivial
  | .start (.selectDefaultCommands _ _) _ => isTrue trivial
  | .start (.updateDailyUserStatisticsClassification _ _ _) _ => isTrue trivial
  | .start (.removeAnomalyDetectionConfiguration _) _ => isTrue trivial
  | .callTrainer => inferInstanceAs (Decidable (∀ k ∈ S.aboutToMark, _))
  | .callWeb => inferInstanceAs (Decidable (∀ task ∈ S.web, _))

end Slas.Bash
