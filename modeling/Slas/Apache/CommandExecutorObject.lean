import Mathlib
import Slas.Lib.Calls
import Slas.Web.CommandExecutor

/-!
The commands of the web interface for Apache,
`server/src/apache/web/command_executor_object.cpp`.

* `Request`: the eleven operations with their arguments;
* `readRequest`: what `CommandExecutorObject::Execute` makes of a message before it calls
  one of them;
* `Operations`: what they do on the states of the server, and may throw;
* `commandExecutorObject`: the object that is registered;
* `harmless_commandExecutorObject_iff`: on which messages it throws nothing but an
  `interface::Exception`.
-/

namespace Slas.Apache

open MonadExcept (ofExcept)
open Web (Json Exception CommandObject Harmless parseJson unknownCommandErrorJson
  invalidArgumentErrorJson)

/-- A call of one of the operations, or an answer that is given without. -/
inductive WebRequest where
  | getHostnames
  | getVirtualhostsNames (agentName : Str)
  | getSessions (agentName virtualhostName beginDate endDate : Str)
  | setApacheSessionsAsAnomaly (agentName virtualhostName : Str) (all anomalies : List ℤ)
  | getApacheAnomalyDetectionConfiguration
  | setApacheAnomalyDetectionConfiguration (agentName virtualhostName beginDate endDate : Str)
  | getSessionsWithoutLearningSet (agentName virtualhostName beginDate endDate : Str)
  | markLearningSetWithIqrMethod (agentName virtualhostName : Str)
  | getAgentsAndVirtualhostsNamesFilteredBySessionsClassificationExists
  | getLearningSetSessions (agentName virtualhostName : Str)
  | removeConfiguration (id : Str)
  | unknownCommand
  | invalidArgument

/-- `CommandExecutorObject::IsCommandSupported`. -/
def supportedCommands : List Str :=
  [ascii "get_apache_agent_names",
    ascii "get_apache_virtualhosts_names",
    ascii "get_apache_sessions",
    ascii "set_apache_sessions_as_anomaly",
    ascii "get_apache_anomaly_detection_configuration",
    ascii "set_apache_anomaly_detection_configuration",
    ascii "get_apache_sessions_without_learning_set",
    ascii "mark_learning_set_with_iqr_method",
    ascii "get_agents_and_virtualhosts_names_filtered_by_sessions_classification_exists",
    ascii "get_learning_set_sessions",
    ascii "remove_configuration"]

/-- A command with `count` arguments. -/
def withArgs (jsonObject : Json) (count : ℕ) (f : Json → Except StdException WebRequest) :
    Except StdException WebRequest := do
  let args ← jsonObject.index (ascii "args")
  if args.size ≠ count then pure .invalidArgument else f args

/-- The argument at a position, as a string. -/
def stringArg (args : Json) (i : ℕ) : Except StdException Str := do (← args.atIndex i).getString

/-- The argument at a position, as a list of row ids. -/
def idsArg (args : Json) (i : ℕ) : Except StdException (List ℤ) := do
  (← args.atIndex i).getIntegers

/-- `CommandExecutorObject::Execute`, up to the call of the operation. -/
def readRequest (jsonObject : Json) : Except StdException WebRequest := do
  let command ← jsonObject.index (ascii "command")
  if command.equals (ascii "get_apache_agent_names") then pure .getHostnames
  else if command.equals (ascii "get_apache_virtualhosts_names") then
    withArgs jsonObject 1 fun args => do pure (.getVirtualhostsNames (← stringArg args 0))
  else if command.equals (ascii "get_apache_sessions") then
    withArgs jsonObject 4 fun args => do
      pure (.getSessions (← stringArg args 0) (← stringArg args 1) (← stringArg args 2)
        (← stringArg args 3))
  else if command.equals (ascii "set_apache_sessions_as_anomaly") then
    withArgs jsonObject 4 fun args => do
      pure (.setApacheSessionsAsAnomaly (← stringArg args 0) (← stringArg args 1)
        (← idsArg args 2) (← idsArg args 3))
  else if command.equals (ascii "get_apache_anomaly_detection_configuration") then
    pure .getApacheAnomalyDetectionConfiguration
  else if command.equals (ascii "set_apache_anomaly_detection_configuration") then
    withArgs jsonObject 4 fun args => do
      pure (.setApacheAnomalyDetectionConfiguration (← stringArg args 0) (← stringArg args 1)
        (← stringArg args 2) (← stringArg args 3))
  else if command.equals (ascii "get_apache_sessions_without_learning_set") then
    withArgs jsonObject 4 fun args => do
      pure (.getSessionsWithoutLearningSet (← stringArg args 0) (← stringArg args 1)
        (← stringArg args 2) (← stringArg args 3))
  else if command.equals (ascii "mark_learning_set_with_iqr_method") then
    withArgs jsonObject 2 fun args => do
      pure (.markLearningSetWithIqrMethod (← stringArg args 0) (← stringArg args 1))
  else if command.equals
      (ascii "get_agents_and_virtualhosts_names_filtered_by_sessions_classification_exists") then
    pure .getAgentsAndVirtualhostsNamesFilteredBySessionsClassificationExists
  else if command.equals (ascii "get_learning_set_sessions") then
    withArgs jsonObject 2 fun args => do
      pure (.getLearningSetSessions (← stringArg args 0) (← stringArg args 1))
  else if command.equals (ascii "remove_configuration") then
    withArgs jsonObject 1 fun args => do pure (.removeConfiguration (← stringArg args 0))
  else pure .unknownCommand

variable {W : Type}

/-- What the operations do. -/
structure WebOperations (W : Type) where
  getHostnames : EStateM Exception W Text
  getVirtualhostsNames : Str → EStateM Exception W Text
  getSessions : Str → Str → Str → Str → EStateM Exception W Text
  setApacheSessionsAsAnomaly : Str → Str → List ℤ → List ℤ → EStateM Exception W Text
  getApacheAnomalyDetectionConfiguration : EStateM Exception W Text
  setApacheAnomalyDetectionConfiguration : Str → Str → Str → Str → EStateM Exception W Text
  getSessionsWithoutLearningSet : Str → Str → Str → Str → EStateM Exception W Text
  markLearningSetWithIqrMethod : Str → Str → EStateM Exception W Text
  getAgentsAndVirtualhostsNamesFilteredBySessionsClassificationExists : EStateM Exception W Text
  getLearningSetSessions : Str → Str → EStateM Exception W Text
  removeConfiguration : ℤ → EStateM Exception W Text

/-- The call of an operation. `RemoveConfiguration` reads the number in its argument
before anything else. -/
def perform (operations : WebOperations W) : WebRequest → EStateM Exception W Text
  | .getHostnames => operations.getHostnames
  | .getVirtualhostsNames agentName => operations.getVirtualhostsNames agentName
  | .getSessions agentName virtualhostName beginDate endDate =>
      operations.getSessions agentName virtualhostName beginDate endDate
  | .setApacheSessionsAsAnomaly agentName virtualhostName all anomalies =>
      operations.setApacheSessionsAsAnomaly agentName virtualhostName all anomalies
  | .getApacheAnomalyDetectionConfiguration => operations.getApacheAnomalyDetectionConfiguration
  | .setApacheAnomalyDetectionConfiguration agentName virtualhostName beginDate endDate =>
      operations.setApacheAnomalyDetectionConfiguration agentName virtualhostName beginDate endDate
  | .getSessionsWithoutLearningSet agentName virtualhostName beginDate endDate =>
      operations.getSessionsWithoutLearningSet agentName virtualhostName beginDate endDate
  | .markLearningSetWithIqrMethod agentName virtualhostName =>
      operations.markLearningSetWithIqrMethod agentName virtualhostName
  | .getAgentsAndVirtualhostsNamesFilteredBySessionsClassificationExists =>
      operations.getAgentsAndVirtualhostsNamesFilteredBySessionsClassificationExists
  | .getLearningSetSessions agentName virtualhostName =>
      operations.getLearningSetSessions agentName virtualhostName
  | .removeConfiguration id => do
      let rowId ← ofExcept ((stoll id).mapError .std)
      operations.removeConfiguration rowId
  | .unknownCommand => pure unknownCommandErrorJson
  | .invalidArgument => pure invalidArgumentErrorJson

/-- `apache::web::CommandExecutorObject`. -/
def commandExecutorObject (parse : Text → Option Json) (operations : WebOperations W) :
    CommandObject W where
  isCommandSupported command := command ∈ supportedCommands
  execute message := do
    let jsonObject ← ofExcept ((parseJson parse message).mapError .std)
    let request ← ofExcept ((readRequest jsonObject).mapError .std)
    perform operations request

/-- The object throws nothing but an `interface::Exception` on the messages it can read
whose operation throws nothing else. -/
lemma harmless_commandExecutorObject_iff {parse : Text → Option Json}
    {operations : WebOperations W} {message : Text} {w : W} :
    Harmless ((commandExecutorObject parse operations).execute message) w ↔
      ∃ jsonObject request, parse message = some jsonObject ∧
        readRequest jsonObject = .ok request ∧ Harmless (perform operations request) w := by
  have hparse : ∀ {jsonObject}, parseJson parse message = .ok jsonObject ↔
      parse message = some jsonObject := by
    intro jsonObject
    rw [parseJson]
    cases parse message with
    | none => exact ⟨nofun, nofun⟩
    | some json => simp
  constructor
  · intro h
    -- what reading throws is no `interface::Exception`
    have hreads : ∀ exception, ((commandExecutorObject parse operations).execute message).run w
        ≠ .error (.std exception) w := by
      intro exception hrun
      obtain ⟨what, hwhat⟩ := h _ _ hrun
      cases hwhat
    cases hjson : parseJson parse message with
    | error exception =>
        refine absurd ?_ (hreads exception)
        simp only [commandExecutorObject, EStateM.run_bind, Calls.run_ofExcept, hjson,
          Except.mapError]
    | ok jsonObject =>
        cases hread : readRequest jsonObject with
        | error exception =>
            refine absurd ?_ (hreads exception)
            simp only [commandExecutorObject, EStateM.run_bind, Calls.run_ofExcept, hjson,
              Except.mapError, hread]
        | ok request =>
            refine ⟨jsonObject, request, hparse.mp hjson, hread, fun exception w' hrun => ?_⟩
            refine h exception w' ?_
            simp only [commandExecutorObject, EStateM.run_bind, Calls.run_ofExcept, hjson,
              Except.mapError, hread, hrun]
  · rintro ⟨jsonObject, request, hjson, hread, h⟩ exception w' hrun
    refine h exception w' ?_
    simpa only [commandExecutorObject, EStateM.run_bind, Calls.run_ofExcept, hparse.mpr hjson,
      Except.mapError, hread] using hrun

/-- The id of a configuration to be removed has to be a number. -/
lemma harmless_removeConfiguration_iff {operations : WebOperations W} {id : Str} {w : W} :
    Harmless (perform operations (.removeConfiguration id)) w ↔
      ∃ rowId, stoll id = .ok rowId ∧ Harmless (operations.removeConfiguration rowId) w := by
  have hrun : (perform operations (.removeConfiguration id)).run w =
      match stoll id with
      | .ok rowId => (operations.removeConfiguration rowId).run w
      | .error exception => .error (.std exception) w := by
    rw [perform, EStateM.run_bind, Calls.run_ofExcept]
    cases stoll id with
    | ok rowId => rfl
    | error exception => rfl
  cases hid : stoll id with
  | ok rowId => simp [Harmless, hrun, hid]
  | error exception => simp [Harmless, hrun, hid]

end Slas.Apache
