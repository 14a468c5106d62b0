import Mathlib
import Slas.Network.RoundTrip

/-!
The accesses of `Network::ReceiveText` and `Network::RecvMessage` on what any peer may
send, `libslas/src/network/network.cpp`.

* `receiveTextChecked`, `recvMessageChecked`: the functions with every access checked,
  which stop with `outOfRange` where the source would read or write outside;
* `recvMessageChecked_eq`: inside `RecvMessage` no check ever fails;
* `FrameStart`, `Announces`: where `ReceiveText` begins to receive a frame, and the
  length byte it finds there;
* `safe_iff`: every access is in range exactly if no frame announces the length 0.

The type byte of a frame is read without a look at the length of the frame:
`message.begin() + 1` of an empty message lies behind its end.
-/

namespace Slas.Network

variable {σ : Type} (sys : SystemInterface σ)

/-! ### The functions with their accesses checked -/

/-- `Network::Recv` with a request that must be positive and fit into the buffer. -/
def recvChecked (length : ℕ) : NetM σ (Received length) := do
  if length < 1 ∨ bufferLength < length then throw .outOfRange
  recv sys length

/-- `total - 1`, which must not be negative. -/
def predChecked (total : ℕ) : NetM σ ℕ := do
  if total < 1 then throw .outOfRange
  pure (total - 1)

/-- `memcpy` of bytes that must fit into the message. -/
def memcpyChecked (message : List UInt8) (position : ℕ) (bytes : List UInt8) :
    NetM σ (List UInt8) := do
  if message.length < position + bytes.length then throw .outOfRange
  pure (memcpy message position bytes)

/-- The `while` loop of `Network::RecvMessage`. -/
def recvMessageLoopChecked (messageLength total : ℕ) (message : List UInt8) :
    NetM σ (List UInt8) :=
  if total < messageLength then do
    let leftToReceive := messageLength + 1 - total
    waitForNewData sys
    let received ← recvChecked sys
      (if leftToReceive > bufferLength then bufferLength else leftToReceive)
    let position ← predChecked total
    let message ← memcpyChecked message position received.1
    recvMessageLoopChecked messageLength (total + received.1.length) message
  else pure message
termination_by messageLength - total
decreasing_by
  have hpos := List.length_pos_iff.mpr received.2.1
  omega

lemma received_ne_nil (received : Received 1) : received.1 ≠ [] := received.2.1

/-- `Network::RecvMessage`. -/
def recvMessageChecked : NetM σ (List UInt8) := do
  waitForNewData sys
  let received ← recvChecked sys 1
  let messageLength := (received.1.head (received_ne_nil received)).toNat
  let message ← memcpyChecked (List.replicate messageLength 0) 0 received.1.tail
  recvMessageLoopChecked sys messageLength received.1.length message

/-- The `do` loop of `Network::ReceiveText`. -/
def receiveTextLoopChecked : ℕ → List UInt8 → NetM σ (List UInt8)
  | 0, _ => throw .stillRunning
  | rounds + 1, receiveTextBuffer => do
      match ← recvMessageChecked sys with
      | [] => throw .outOfRange
      | messageType :: payload =>
          if messageType ≠ typeLast then
            receiveTextLoopChecked rounds (receiveTextBuffer ++ payload)
          else pure (receiveTextBuffer ++ payload)

/-- `Network::ReceiveText`. -/
def receiveTextChecked (rounds : ℕ) : NetM σ Text := do
  let receiveTextBuffer ← receiveTextLoopChecked sys rounds []
  pure (cString (receiveTextBuffer ++ [0]))

/-! ### One frame -/

lemma recvChecked_eq {length : ℕ} (h : 1 ≤ length ∧ length ≤ bufferLength) :
    recvChecked sys length = recv sys length := by
  rw [recvChecked, if_neg (by omega)]

lemma predChecked_eq {total : ℕ} (h : 1 ≤ total) :
    predChecked total = (pure (total - 1) : NetM σ ℕ) := by
  rw [predChecked, if_neg (by omega)]

lemma memcpyChecked_eq {message bytes : List UInt8} {position : ℕ}
    (h : position + bytes.length ≤ message.length) :
    memcpyChecked message position bytes = (pure (memcpy message position bytes) : NetM σ _) := by
  rw [memcpyChecked, if_neg (by omega)]

/-- What fits into a message leaves its length alone. -/
lemma length_memcpy {message bytes : List UInt8} {position : ℕ}
    (h : position + bytes.length ≤ message.length) :
    (memcpy message position bytes).length = message.length := by
  simp only [memcpy, List.length_append, List.length_take, List.length_drop]
  omega

/-- Inside the loop no check fails: `total` counts one byte more than has been copied. -/
lemma recvMessageLoopChecked_eq {messageLength total : ℕ} {message : List UInt8}
    (hlength : message.length = messageLength) (hbyte : messageLength < 256) (htotal : 1 ≤ total) :
    recvMessageLoopChecked sys messageLength total message
      = recvMessageLoop sys messageLength total message := by
  induction hleft : messageLength
    - total using Nat.strong_induction_on generalizing total message with
  | _ left ih =>
      have hbuffer : bufferLength = 256 := rfl
      rw [recvMessageLoopChecked, recvMessageLoop]
      split_ifs with hmore
      · refine congrArg (waitForNewData sys >>= ·) (funext fun _ => ?_)
        generalize hrequest : (if messageLength + 1 - total > bufferLength then bufferLength
          else messageLength + 1 - total) = request
        have hleft : request = messageLength + 1 - total := by
          rw [← hrequest, if_neg (by omega)]
        rw [recvChecked_eq sys (by omega)]
        refine congrArg (recv sys request >>= ·) (funext fun received => ?_)
        have hpos := List.length_pos_iff.mpr received.2.1
        have hle := received.2.2
        have hfits : total - 1 + received.1.length ≤ message.length := by omega
        rw [predChecked_eq htotal, pure_bind, memcpyChecked_eq hfits, pure_bind]
        exact ih _ (by omega) ((length_memcpy hfits).trans hlength) (by omega) rfl
      · rfl

/-- **`RecvMessage` accesses nothing out of range.** -/
theorem recvMessageChecked_eq : recvMessageChecked sys = recvMessage sys := by
  rw [recvMessageChecked, recvMessage, recvChecked_eq sys (by decide)]
  refine congrArg (waitForNewData sys >>= ·) (funext fun _ => ?_)
  refine congrArg (recv sys 1 >>= ·) (funext fun received => ?_)
  obtain ⟨b, hb⟩ : ∃ b, received.1 = [b] := by
    have hpos := List.length_pos_iff.mpr received.2.1
    exact List.length_eq_one_iff.mp (le_antisymm received.2.2 hpos)
  have hcopy : memcpy (List.replicate (received.1.head received.2.1).toNat 0) 0 received.1.tail
      = List.replicate (received.1.head received.2.1).toNat 0 := by
    simp [hb, memcpy]
  have hbyte := (received.1.head received.2.1).toNat_lt
  show (memcpyChecked _ 0 received.1.tail >>= _) = _
  rw [memcpyChecked_eq (by simp [hb]), pure_bind, hcopy]
  exact recvMessageLoopChecked_eq sys (List.length_replicate ..) (by omega) (by simp [hb])

lemma receiveTextLoopChecked_eq (rounds : ℕ) (receiveTextBuffer : List UInt8) :
    receiveTextLoopChecked sys rounds receiveTextBuffer
      = receiveTextLoop sys rounds receiveTextBuffer := by
  induction rounds generalizing receiveTextBuffer with
  | zero => rfl
  | succ rounds ih =>
      rw [receiveTextLoopChecked, receiveTextLoop, recvMessageChecked_eq]
      refine bind_congr fun message => ?_
      cases message with
      | nil => rfl
      | cons messageType payload => simp only [ih]

/-! ### The frames of a text -/

/-- The states of the world in which `ReceiveText`, called in the state `s`, begins to
receive a frame. -/
inductive FrameStart (s : σ) : σ → Prop
  | first : FrameStart s s
  | next {t t' : σ} {messageType : UInt8} {payload : List UInt8} (h : FrameStart s t)
      (hmessage : (recvMessage sys).run t = .ok (messageType :: payload) t')
      (hmore : messageType ≠ typeLast) : FrameStart s t'

/-- A frame that begins in the state `t` announces the length `b`. -/
def Announces (t : σ) (b : UInt8) : Prop :=
  ∃ t₁ t₂ received, (waitForNewData sys).run t = .ok () t₁ ∧
    (recv sys 1).run t₁ = .ok received t₂ ∧ received.1.head (received_ne_nil received) = b

/-- However long it runs, `ReceiveText` accesses nothing out of range. -/
def Safe (s : σ) : Prop :=
  ∀ rounds t, (receiveTextChecked sys rounds).run s ≠ .error .outOfRange t

variable {sys}

lemma recvMessageLoop_ok {messageLength total : ℕ} {message out : List UInt8} {s s' : σ}
    (hlength : message.length = messageLength) (hbyte : messageLength < 256) (htotal : 1 ≤ total)
    (h : (recvMessageLoop sys messageLength total message).run s = .ok out s') :
    out.length = messageLength := by
  induction hleft : messageLength - total using Nat.strong_induction_on
    generalizing total message s with
  | _ left ih =>
      rw [recvMessageLoop] at h
      split_ifs at h with hmore
      · rw [EStateM.run_bind] at h
        cases hwait : (waitForNewData sys).run s with
        | error stop t => simp [hwait] at h
        | ok _ t =>
            simp only [hwait, EStateM.run_bind] at h
            generalize hrequest : (if messageLength + 1 - total > bufferLength then bufferLength
              else messageLength + 1 - total) = request at h
            cases hrecv : (recv sys request).run t with
            | error stop u => simp [hrecv] at h
            | ok received u =>
                simp only [hrecv] at h
                have hbuffer : bufferLength = 256 := rfl
                have hpos := List.length_pos_iff.mpr received.2.1
                have hle := received.2.2
                have hfits : total - 1 + received.1.length ≤ message.length := by
                  rw [if_neg (by omega)] at hrequest
                  omega
                exact ih _ (by omega) ((length_memcpy hfits).trans hlength) (by omega) h rfl
      · cases h
        exact hlength

/-- A message is as long as announced. -/
lemma recvMessage_ok {t t' : σ} {message : List UInt8}
    (h : (recvMessage sys).run t = .ok message t') :
    ∃ b, Announces sys t b ∧ message.length = b.toNat := by
  rw [recvMessage, EStateM.run_bind] at h
  cases hwait : (waitForNewData sys).run t with
  | error stop t₁ => simp [hwait] at h
  | ok _ t₁ =>
      simp only [hwait, EStateM.run_bind] at h
      cases hrecv : (recv sys 1).run t₁ with
      | error stop t₂ => simp [hrecv] at h
      | ok received t₂ =>
          simp only [hrecv] at h
          have hbyte := (received.1.head received.2.1).toNat_lt
          have hpos := List.length_pos_iff.mpr received.2.1
          exact ⟨_, ⟨t₁, t₂, received, hwait, hrecv, rfl⟩,
            recvMessageLoop_ok (List.length_replicate ..) (by omega) hpos h⟩

/-- A frame that announces the length 0 is received as an empty message. -/
lemma recvMessage_zero {t : σ} (h : Announces sys t 0) :
    ∃ t', (recvMessage sys).run t = .ok [] t' := by
  obtain ⟨t₁, t₂, received, hwait, hrecv, hzero⟩ := h
  refine ⟨t₂, ?_⟩
  rw [recvMessage, EStateM.run_bind, hwait]
  simp only [EStateM.run_bind, hrecv, hzero]
  rw [recvMessageLoop]
  rfl

/-- Waiting and receiving raise other exceptions. -/
lemma waitForNewData_ne {t t' : σ} : (waitForNewData sys).run t ≠ .error .outOfRange t' := by
  intro h
  simp only [waitForNewData, waitForData, EStateM.run_bind, EStateM.run_modifyGet] at h
  split_ifs at h <;> cases h

lemma recv_ne {t t' : σ} {length : ℕ} : (recv sys length).run t ≠ .error .outOfRange t' := by
  intro h
  simp only [EStateM.run, recv] at h
  split at h
  · cases h
  · split_ifs at h
    cases h

/-- No exception of `RecvMessage` stands for an access out of range. -/
lemma recvMessageLoop_ne {messageLength total : ℕ} {message : List UInt8} {t t' : σ} :
    (recvMessageLoop sys messageLength total message).run t ≠ .error .outOfRange t' := by
  induction hleft : messageLength - total using Nat.strong_induction_on
    generalizing total message t with
  | _ left ih =>
      intro h
      rw [recvMessageLoop] at h
      split_ifs at h with hmore
      · rw [EStateM.run_bind] at h
        cases hwait : (waitForNewData sys).run t with
        | error stop t₁ =>
            simp only [hwait] at h
            cases h
            exact waitForNewData_ne hwait
        | ok _ t₁ =>
            simp only [hwait, EStateM.run_bind] at h
            generalize (if messageLength + 1 - total > bufferLength then bufferLength
              else messageLength + 1 - total) = request at h
            cases hrecv : (recv sys request).run t₁ with
            | error stop t₂ =>
                simp only [hrecv] at h
                cases h
                exact recv_ne hrecv
            | ok received t₂ =>
                simp only [hrecv] at h
                have hpos := List.length_pos_iff.mpr received.2.1
                exact ih _ (by omega) rfl h
      · cases h

lemma recvMessage_ne {t t' : σ} : (recvMessage sys).run t ≠ .error .outOfRange t' := by
  intro h
  rw [recvMessage, EStateM.run_bind] at h
  cases hwait : (waitForNewData sys).run t with
  | error stop t₁ =>
      simp only [hwait] at h
      cases h
      exact waitForNewData_ne hwait
  | ok _ t₁ =>
      simp only [hwait, EStateM.run_bind] at h
      cases hrecv : (recv sys 1).run t₁ with
      | error stop t₂ =>
          simp only [hrecv] at h
          cases h
          exact recv_ne hrecv
      | ok received t₂ =>
          simp only [hrecv] at h
          exact recvMessageLoop_ne h

/-! ### A text -/

/-- Where the frames before it have been received, a run goes on from a frame start. -/
lemma FrameStart.exists_run {s t : σ} (h : FrameStart sys s t) (receiveTextBuffer : List UInt8) :
    ∃ n buffer, ∀ rounds, (receiveTextLoop sys (n + rounds) receiveTextBuffer).run s
      = (receiveTextLoop sys rounds buffer).run t := by
  induction h with
  | first => exact ⟨0, receiveTextBuffer, fun rounds => by rw [Nat.zero_add]⟩
  | @next t t' messageType payload h hmessage hmore ih =>
      obtain ⟨n, buffer, hrun⟩ := ih
      refine ⟨n + 1, buffer ++ payload, fun rounds => ?_⟩
      rw [show n + 1 + rounds = n + (rounds + 1) from by omega, hrun, receiveTextLoop,
        EStateM.run_bind, hmessage]
      simp only [if_pos hmore]

/-- Where no frame announces the length 0 no round reads outside a message. -/
lemma receiveTextLoop_ne {s : σ}
    (h : ∀ t b, FrameStart sys s t → Announces sys t b → b ≠ 0) (rounds : ℕ) {t t' : σ}
    (ht : FrameStart sys s t) (receiveTextBuffer : List UInt8) :
    (receiveTextLoop sys rounds receiveTextBuffer).run t ≠ .error .outOfRange t' := by
  induction rounds generalizing t receiveTextBuffer with
  | zero => exact fun hrun => nomatch hrun
  | succ rounds ih =>
      intro hrun
      rw [receiveTextLoop, EStateM.run_bind] at hrun
      cases hmessage : (recvMessage sys).run t with
      | error stop t₁ =>
          simp only [hmessage] at hrun
          cases hrun
          exact recvMessage_ne hmessage
      | ok message t₁ =>
          simp only [hmessage] at hrun
          obtain ⟨b, hannounces, hlength⟩ := recvMessage_ok hmessage
          cases message with
          | nil => exact h t b ht hannounces (UInt8.toNat_inj.mp hlength.symm)
          | cons messageType payload =>
              simp only at hrun
              split_ifs at hrun with hmore
              · exact ih (ht.next hmessage hmore) _ hrun
              · cases hrun

/-- Where a frame announces the length 0 its type byte is read outside the message. -/
lemma not_safe_of_announces {s t : σ} (ht : FrameStart sys s t) (h : Announces sys t 0) :
    ¬Safe sys s := by
  intro hsafe
  obtain ⟨n, buffer, hskip⟩ := ht.exists_run []
  obtain ⟨t', hmessage⟩ := recvMessage_zero h
  refine hsafe (n + 1) t' ?_
  rw [receiveTextChecked, EStateM.run_bind, receiveTextLoopChecked_eq, hskip, receiveTextLoop,
    EStateM.run_bind, hmessage]
  rfl

/-- **Receiving is safe exactly where no frame announces the length 0.** Requests and
copies are in range for every peer; what is not is the type byte of an empty frame. -/
theorem safe_iff (sys : SystemInterface σ) (s : σ) :
    recvMessageChecked sys = recvMessage sys ∧
      (Safe sys s ↔ ∀ t b, FrameStart sys s t → Announces sys t b → b ≠ 0) := by
  refine ⟨recvMessageChecked_eq sys, fun h t b ht hannounces hzero => ?_, fun h rounds t hrun => ?_⟩
  · exact not_safe_of_announces ht (hzero ▸ hannounces) h
  · rw [receiveTextChecked, EStateM.run_bind, receiveTextLoopChecked_eq] at hrun
    cases hloop : (receiveTextLoop sys rounds []).run s with
    | error stop t₁ =>
        simp only [hloop] at hrun
        cases hrun
        exact receiveTextLoop_ne h rounds .first [] hloop
    | ok buffer t₁ =>
        simp only [hloop] at hrun
        cases hrun

/-- One byte that is 0 makes `ReceiveText` read the type byte of an empty message. -/
theorem not_safe_emptyFrame :
    ¬Safe (channel ⟨fun _ => 1, fun _ => 1⟩) ⟨[0], 0, 0⟩ :=
  not_safe_of_announces .first
    ⟨⟨[0], 0, 0⟩, ⟨[], 0, 1⟩, ⟨[0], by simp, by simp⟩, rfl, rfl, rfl⟩

end Slas.Network
