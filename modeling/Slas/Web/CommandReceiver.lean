import Mathlib
import Slas.Apache.CommandExecutorObject
import Slas.Network.AcceptLoop

/-!
The server of the web interface, `server/src/web/command_receiver.cpp`, on an open port.

* `readAndExecuteCommand`, `serve`: `CommandReceiver::ReadAndExecuteCommand` and the body
  of the loop of `CommandReceiver::StartListen`;
* `Served`: a client that sends nothing, or a request that is answered;
* `startListen_goesOn`: the loop goes on, and closes every socket it accepted once, as long
  as every client is such a client; on which messages the object for Apache throws.
-/

namespace Slas.Web

open MonadExcept (ofExcept)
open Network (Client Event LoopM Serves Steps GoesOn NetM WaitStatus accept call clients close
  onState receiveText sendText waitForData)

variable {σ W : Type}

/-! ### The source -/

/-- A call of the class `Network` on the socket of a client. -/
def callNetwork {α : Type} (m : NetM σ α) (world : σ) : Except Exception (α × σ) :=
  (call m world).mapError .network

/-- `CommandReceiver::ReadAndExecuteCommand`. -/
def readAndExecuteCommand (rounds : ℕ) (parse : Text → Option Json)
    (objects : List (CommandObject W)) (client : Client σ) : EStateM Exception W Unit := do
  let (waitStatus, world) ← ofExcept (callNetwork (waitForData client.system) client.world)
  match waitStatus with
  | .newData => do
      let (newMessage, world) ← ofExcept (callNetwork (receiveText client.system rounds) world)
      let messageResult ← execute parse objects newMessage
      let _ ← ofExcept (callNetwork (sendText client.system rounds messageResult) world)
      pure ()
  | .timeout => pure ()

/-- The body of the loop of `CommandReceiver::StartListen` for a new client. -/
def serve (rounds : ℕ) (parse : Text → Option Json) (objects : List (CommandObject W))
    (client : Client σ) : LoopM Exception W Unit := do
  let socket ← accept
  onState (readAndExecuteCommand rounds parse objects client)
  close socket

/-! ### Which clients are served -/

/-- The client sends nothing until the wait for it is over; or it sends a text whose
command is answered, every object being caught, and takes the answer. -/
inductive Served (parse : Text → Option Json) (objects : List (CommandObject W))
    (client : Client σ) (w : W) : W → Prop
  | silent {world} (h : (waitForData client.system).run client.world = .ok .timeout world) :
      Served parse objects client w w
  | answered {world world' world'' message name response w'} {rounds rounds' : ℕ}
      (hwait : (waitForData client.system).run client.world = .ok .newData world)
      (hreceive : (receiveText client.system rounds).run world = .ok message world')
      (hcommand : command parse message = .ok name)
      (hcaught : Caught name message objects unknownCommandErrorJson w response w')
      (hsend : (sendText client.system rounds' response).run world' = .ok () world'') :
      Served parse objects client w w'

lemma callNetwork_eq_ok_iff {α : Type} {m : NetM σ α} {world world' : σ} {a : α} :
    callNetwork m world = .ok (a, world') ↔ m.run world = .ok a world' := by
  rw [callNetwork, Calls.mapError_eq_ok_iff, Network.call_eq_ok_iff]

lemma readAndExecuteCommand_ok {rounds : ℕ} {parse : Text → Option Json}
    {objects : List (CommandObject W)} {client : Client σ} {w w' : W}
    (h : (readAndExecuteCommand rounds parse objects client).run w = .ok () w') :
    Served parse objects client w w' := by
  simp only [readAndExecuteCommand, Calls.run_bind_eq_ok_iff, Calls.run_ofExcept_eq_ok_iff] at h
  obtain ⟨⟨waitStatus, world⟩, _, ⟨hwait, rfl⟩, h⟩ := h
  rw [callNetwork_eq_ok_iff] at hwait
  cases waitStatus with
  | timeout =>
      obtain ⟨-, rfl⟩ := EStateM.Result.ok.inj h
      exact .silent hwait
  | newData =>
      simp only [Calls.run_bind_eq_ok_iff, Calls.run_ofExcept_eq_ok_iff, execute_ok_iff] at h
      obtain ⟨⟨message, world'⟩, _, ⟨hreceive, rfl⟩, response, w₁, ⟨name, hname, hcaught⟩,
        ⟨_, world''⟩, _, ⟨hsend, rfl⟩, hend⟩ := h
      obtain ⟨-, rfl⟩ := EStateM.Result.ok.inj hend
      rw [callNetwork_eq_ok_iff] at hreceive hsend
      exact .answered hwait hreceive hname hcaught hsend

lemma eventually_readAndExecuteCommand {parse : Text → Option Json}
    {objects : List (CommandObject W)} {client : Client σ} {w w' : W}
    (h : Served parse objects client w w') :
    ∀ᶠ rounds in Filter.atTop,
      (readAndExecuteCommand rounds parse objects client).run w = .ok () w' := by
  cases h with
  | silent hwait =>
      refine .of_forall fun rounds => ?_
      simp only [readAndExecuteCommand, Calls.run_bind_eq_ok_iff, Calls.run_ofExcept_eq_ok_iff]
      exact ⟨_, _, ⟨callNetwork_eq_ok_iff.mpr hwait, rfl⟩, rfl⟩
  | @answered world world' world'' message name response _ rounds rounds' hwait hreceive hname
      hcaught hsend =>
      filter_upwards [Filter.eventually_ge_atTop rounds, Filter.eventually_ge_atTop rounds']
        with more hle hle'
      simp only [readAndExecuteCommand, Calls.run_bind_eq_ok_iff, Calls.run_ofExcept_eq_ok_iff]
      refine ⟨_, _, ⟨callNetwork_eq_ok_iff.mpr hwait, rfl⟩, ?_⟩
      simp only [Calls.run_bind_eq_ok_iff, Calls.run_ofExcept_eq_ok_iff, execute_ok_iff]
      exact ⟨_, _, ⟨callNetwork_eq_ok_iff.mpr (Network.receiveText_mono hreceive hle), rfl⟩,
        response, w', ⟨name, hname, hcaught⟩, ((), world''), _,
        ⟨callNetwork_eq_ok_iff.mpr (Network.sendText_mono hsend hle'), rfl⟩, rfl⟩

/-- The loop goes on for clients that are served, and for no others. The object for Apache
throws something that is not caught unless the message can be read and the operation it
calls throws nothing but an `interface::Exception`. -/
theorem startListen_goesOn (parse : Text → Option Json) :
    (∀ (objects : List (CommandObject W)) (events : List (Event (Client σ))) (w : W),
      (∃ rounds r, GoesOn (serve rounds parse objects) events w r) ↔
        ∃ w', Steps (Served parse objects) (clients events) w w') ∧
    ∀ (operations : Apache.WebOperations W) (message : Text) (w : W),
      Harmless ((Apache.commandExecutorObject parse operations).execute message) w ↔
        ∃ jsonObject request, parse message = some jsonObject ∧
          Apache.readRequest jsonObject = .ok request ∧
          Harmless (Apache.perform operations request) w := by
  constructor
  · intro objects events w
    have h := Network.exists_goesOn_iff
      (fun rounds => Network.serves_onState (readAndExecuteCommand rounds parse objects))
      readAndExecuteCommand_ok eventually_readAndExecuteCommand events w fun _ => True
    simp only [and_true] at h
    exact h
  · intro operations message w
    exact Apache.harmless_commandExecutorObject_iff

lemma nothing_sent {bs : List UInt8} {s : Unit} {n : ℕ}
    (h : ((none : Option ℕ), s).1 = some n) : n ≤ bs.length := by
  cases h

/-- A client that connects and hangs up. -/
def hangUp : Client Unit where
  system := {
    poll := fun world => (1, world)
    recv := fun _ world => (some [], world)
    send := fun _ world => (none, world)
    recv_le := by
      rintro n s bs ⟨⟩
      exact Nat.zero_le n
    send_le := @nothing_sent }
  world := ()

/-- A client that hangs up ends the loop. -/
theorem not_startListen_goesOn_hangUp :
    ¬∃ rounds r, GoesOn (serve rounds (fun _ => none) ([] : List (CommandObject Unit)))
      [.newData hangUp] () r := by
  rintro ⟨rounds, r, h⟩
  obtain ⟨w', hsteps, -⟩ := (Network.goesOn_iff (Network.serves_onState _)).mp h
  cases hsteps with
  | cons hok _ =>
      cases readAndExecuteCommand_ok hok with
      | silent hwait => exact nomatch hwait
      | @answered _ _ _ _ _ _ _ rounds' _ _ hreceive =>
          cases rounds' with
          | zero => exact nomatch hreceive
          | succ rounds' => exact nomatch hreceive

end Slas.Web
