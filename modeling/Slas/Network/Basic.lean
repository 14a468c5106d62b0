import Mathlib
import Slas.Type.Text

/-!
The text transport of `libslas/src/network/network.cpp`.

A frame is a length byte followed by as many bytes, the first of them the type
`'M'` (more frames follow) or `'L'` (the last one) and the others at most 254
bytes of the text.

* `SystemInterface`: the system calls the class is built on, with what the
  operating system promises about their results;
* `recv`, `send`, `waitForData`: the private wrappers, which turn error results
  into exceptions;
* `recvMessage`, `sendMessage`: one frame;
* `receiveText`, `sendText`: one text.

Three loops of the source end only if the peer lets them: the two that repeat
`Send` and the one that collects frames until the last. They take the number of
rounds they may run and stop with `stillRunning` when it is used up.
-/

namespace Slas.Network

/-- `detail::MaxMessageLength`. -/
def maxMessageLength : ℕ := 255

/-- `detail::BufferLength`. -/
def bufferLength : ℕ := 256

/-- The type byte of a frame that others follow. -/
def typeMore : UInt8 := 77

/-- The type byte of the last frame of a text. -/
def typeLast : UInt8 := 76

/-- Why a call does not return: an exception of `network::exception::detail`, an
access outside a message, or a loop that has not ended in the rounds given. -/
inductive Stop where
  | timeoutException
  | pollException
  | recvException
  | messageTooLongException
  | outOfRange
  | stillRunning
  deriving DecidableEq, Repr

inductive WaitStatus where
  | newData
  | timeout
  deriving DecidableEq, Repr

/-- `detail::SystemInterface`, the calls of one socket over the states `σ` of the
rest of the world. `none` is the result `-1`; `recv` otherwise hands back the
bytes it wrote to the buffer, at most as many as requested, and `send` says how
many bytes it took, at most as many as offered. -/
structure SystemInterface (σ : Type) where
  poll : σ → ℤ × σ
  recv : ℕ → σ → Option (List UInt8) × σ
  send : List UInt8 → σ → Option ℕ × σ
  recv_le : ∀ {n s bs}, (recv n s).1 = some bs → bs.length ≤ n
  send_le : ∀ {bs s n}, (send bs s).1 = some n → n ≤ bs.length

/-- Computations of the class: they read and change the world and may stop. -/
abbrev NetM (σ : Type) := EStateM Stop σ

variable {σ : Type} (sys : SystemInterface σ)

/-! ### The wrappers of the system calls -/

/-- What a successful `Network::Recv` wrote to the buffer. -/
abbrev Received (length : ℕ) := {bs : List UInt8 // bs ≠ [] ∧ bs.length ≤ length}

/-- `Network::WaitForData`. -/
def waitForData : NetM σ WaitStatus := do
  let ret ← modifyGet sys.poll
  if ret = 0 then pure .timeout
  else if ret > 0 then pure .newData
  else throw .pollException

/-- `Network::Recv`: the results `-1` and `0` both raise. -/
def recv (length : ℕ) : NetM σ (Received length) := fun s =>
  match h : sys.recv length s with
  | (none, s') => .error .recvException s'
  | (some bs, s') =>
      if hne : bs = [] then .error .recvException s'
      else .ok ⟨bs, hne, sys.recv_le (congrArg Prod.fst h)⟩ s'

/-- `Network::Send`: the result `-1` raises, `0` does not. -/
def send (bytes : List UInt8) : NetM σ ℕ := do
  match ← modifyGet (sys.send bytes) with
  | none => throw .recvException
  | some sent => pure sent

/-! ### One frame -/

/-- `memcpy(message.data() + position, bytes)`. -/
def memcpy (message : List UInt8) (position : ℕ) (bytes : List UInt8) : List UInt8 :=
  message.take position ++ bytes ++ message.drop (position + bytes.length)

/-- The wait in front of every `Recv` of `Network::RecvMessage`. -/
def waitForNewData : NetM σ Unit := do
  let wait_status ← waitForData sys
  if wait_status ≠ .newData then throw .timeoutException

/-- The `while` loop of `Network::RecvMessage`. `total` counts the length byte,
`messageLength` does not. -/
def recvMessageLoop (messageLength total : ℕ) (message : List UInt8) :
    NetM σ (List UInt8) :=
  if total < messageLength then do
    let leftToReceive := messageLength + 1 - total
    waitForNewData sys
    let received ← recv sys
      (if leftToReceive > bufferLength then bufferLength else leftToReceive)
    recvMessageLoop messageLength (total + received.1.length)
      (memcpy message (total - 1) received.1)
  else pure message
termination_by messageLength - total
decreasing_by
  have hpos := List.length_pos_iff.mpr received.2.1
  omega

/-- `Network::RecvMessage`. -/
def recvMessage : NetM σ (List UInt8) := do
  waitForNewData sys
  let received ← recv sys 1
  let messageLength := (received.1.head received.2.1).toNat
  recvMessageLoop sys messageLength received.1.length (List.replicate messageLength 0)

/-- The `do` loop of `Network::SendMessage` that sends the length byte. -/
def sendLengthLoop (messageLength : UInt8) : ℕ → NetM σ Unit
  | 0 => throw .stillRunning
  | rounds + 1 => do
      let sent ← send sys [messageLength]
      if sent = 0 then sendLengthLoop messageLength rounds

/-- The `while` loop of `Network::SendMessage` that sends the rest. -/
def sendBytesLoop : ℕ → List UInt8 → NetM σ Unit
  | _, [] => pure ()
  | 0, _ :: _ => throw .stillRunning
  | rounds + 1, b :: bs => do
      let sent ← send sys (b :: bs)
      sendBytesLoop rounds ((b :: bs).drop sent)

/-- `Network::SendMessage`. -/
def sendMessage (rounds : ℕ) (message : List UInt8) : NetM σ Unit := do
  if message.length > maxMessageLength then throw .messageTooLongException
  sendLengthLoop sys (UInt8.ofNat message.length) rounds
  sendBytesLoop sys rounds message

/-! ### One text -/

/-- The `for` loop of `Network::SendText` from position `i` of the text on. -/
def sendTextLoop (rounds : ℕ) (text : List UInt8) (i : ℕ) : NetM σ Unit :=
  if i < text.length then do
    if i + maxMessageLength ≤ text.length then
      sendMessage sys rounds (typeMore :: (text.drop i).take (maxMessageLength - 1))
    else
      sendMessage sys rounds (typeLast :: (text.drop i).take (text.length - i))
    sendTextLoop rounds text (i + (maxMessageLength - 1))
  else pure ()
termination_by text.length - i
decreasing_by
  have h : 0 < maxMessageLength - 1 := by decide
  omega

/-- `Network::SendText`. -/
def sendText (rounds : ℕ) (text : Text) : NetM σ Unit :=
  sendTextLoop sys rounds text.bytes 0

/-- The `do` loop of `Network::ReceiveText` over the bytes collected so far. The
source reads `message.begin() + 1` and `message.at(0)` of every frame. -/
def receiveTextLoop : ℕ → List UInt8 → NetM σ (List UInt8)
  | 0, _ => throw .stillRunning
  | rounds + 1, receiveTextBuffer => do
      match ← recvMessage sys with
      | [] => throw .outOfRange
      | messageType :: payload =>
          if messageType ≠ typeLast then
            receiveTextLoop rounds (receiveTextBuffer ++ payload)
          else pure (receiveTextBuffer ++ payload)

/-- `Network::ReceiveText`: the buffer is ended by a NUL and read as a C string. -/
def receiveText (rounds : ℕ) : NetM σ Text := do
  let receiveTextBuffer ← receiveTextLoop sys rounds []
  pure (cString (receiveTextBuffer ++ [0]))

variable {sys}

/-- More rounds change nothing for a text that was received. -/
lemma receiveTextLoop_mono {rounds more : ℕ} {acc out : List UInt8} {s s' : σ}
    (h : (receiveTextLoop sys rounds acc).run s = .ok out s') (hle : rounds ≤ more) :
    (receiveTextLoop sys more acc).run s = .ok out s' := by
  induction rounds generalizing more acc s with
  | zero => nomatch h
  | succ rounds ih =>
      obtain ⟨more, rfl⟩ := Nat.exists_eq_add_of_lt hle
      rw [receiveTextLoop, EStateM.run_bind] at h ⊢
      cases hm : (recvMessage sys).run s with
      | error stop t => simp [hm] at h
      | ok message t =>
          simp only [hm] at h ⊢
          cases message with
          | nil => nomatch h
          | cons messageType payload =>
              simp only [ne_eq, ite_not] at h ⊢
              split at h
              case isTrue hlast => simpa [hlast] using h
              case isFalse hlast => simpa [hlast] using ih h (by omega)

lemma receiveText_mono {rounds more : ℕ} {text : Text} {s s' : σ}
    (h : (receiveText sys rounds).run s = .ok text s') (hle : rounds ≤ more) :
    (receiveText sys more).run s = .ok text s' := by
  rw [receiveText, EStateM.run_bind] at h ⊢
  cases hl : (receiveTextLoop sys rounds []).run s with
  | error stop t => simp [hl] at h
  | ok buffer t => simpa [receiveTextLoop_mono hl hle, hl] using h

lemma sendLengthLoop_mono {messageLength : UInt8} {rounds more : ℕ} {s s' : σ}
    (h : (sendLengthLoop sys messageLength rounds).run s = .ok () s') (hle : rounds ≤ more) :
    (sendLengthLoop sys messageLength more).run s = .ok () s' := by
  induction rounds generalizing more s with
  | zero => nomatch h
  | succ rounds ih =>
      obtain ⟨more, rfl⟩ := Nat.exists_eq_add_of_lt hle
      rw [sendLengthLoop, EStateM.run_bind] at h ⊢
      cases hs : (send sys [messageLength]).run s with
      | error stop t => simp [hs] at h
      | ok sent t =>
          simp only [hs] at h ⊢
          by_cases hzero : sent = 0
          · simp only [hzero, if_true] at h ⊢
            exact ih h (by omega)
          · simpa [hzero] using h

lemma sendBytesLoop_mono {bytes : List UInt8} {rounds more : ℕ} {s s' : σ}
    (h : (sendBytesLoop sys rounds bytes).run s = .ok () s') (hle : rounds ≤ more) :
    (sendBytesLoop sys more bytes).run s = .ok () s' := by
  induction rounds generalizing more bytes s with
  | zero =>
      cases bytes with
      | nil => simpa [sendBytesLoop] using h
      | cons b bs => nomatch h
  | succ rounds ih =>
      cases bytes with
      | nil => simpa [sendBytesLoop] using h
      | cons b bs =>
          obtain ⟨more, rfl⟩ := Nat.exists_eq_add_of_lt hle
          rw [sendBytesLoop, EStateM.run_bind] at h ⊢
          cases hs : (send sys (b :: bs)).run s with
          | error stop t => simp [hs] at h
          | ok sent t =>
              simp only [hs] at h ⊢
              exact ih h (by omega)

lemma sendMessage_mono {message : List UInt8} {rounds more : ℕ} {s s' : σ}
    (h : (sendMessage sys rounds message).run s = .ok () s') (hle : rounds ≤ more) :
    (sendMessage sys more message).run s = .ok () s' := by
  by_cases hlength : message.length > maxMessageLength
  · simp [sendMessage, hlength] at h
  · simp only [sendMessage, hlength, if_false, EStateM.run_bind] at h ⊢
    cases hl : (sendLengthLoop sys (UInt8.ofNat message.length) rounds).run s with
    | error stop t => simp [hl] at h
    | ok _ t =>
        simp only [hl] at h
        simpa [sendLengthLoop_mono hl hle] using sendBytesLoop_mono h hle

lemma sendTextLoop_mono {text : List UInt8} {i rounds more : ℕ} {s s' : σ}
    (h : (sendTextLoop sys rounds text i).run s = .ok () s') (hle : rounds ≤ more) :
    (sendTextLoop sys more text i).run s = .ok () s' := by
  induction hleft : text.length - i using Nat.strong_induction_on generalizing i s with
  | _ left ih =>
      have hmax : maxMessageLength = 255 := rfl
      by_cases hi : i < text.length
      · have hrest : ∀ {t : σ},
          (sendTextLoop sys rounds text (i + (maxMessageLength - 1))).run t = .ok () s' →
            (sendTextLoop sys more text (i + (maxMessageLength - 1))).run t = .ok () s' :=
          fun ht => ih _ (by omega) ht rfl
        rw [sendTextLoop, if_pos hi] at h ⊢
        by_cases hlong : i + maxMessageLength ≤ text.length
        · simp only [hlong, if_true, EStateM.run_bind] at h ⊢
          cases hm : (sendMessage sys rounds
              (typeMore :: (text.drop i).take (maxMessageLength - 1))).run s with
          | error stop t => simp [hm] at h
          | ok _ t =>
              simp only [hm] at h
              simp only [sendMessage_mono hm hle]
              exact hrest h
        · simp only [hlong, if_false, EStateM.run_bind] at h ⊢
          cases hm : (sendMessage sys rounds
              (typeLast :: (text.drop i).take (text.length - i))).run s with
          | error stop t => simp [hm] at h
          | ok _ t =>
              simp only [hm] at h
              simp only [sendMessage_mono hm hle]
              exact hrest h
      · rw [sendTextLoop, if_neg hi] at h ⊢
        exact h

lemma sendText_mono {text : Text} {rounds more : ℕ} {s s' : σ}
    (h : (sendText sys rounds text).run s = .ok () s') (hle : rounds ≤ more) :
    (sendText sys more text).run s = .ok () s' :=
  sendTextLoop_mono h hle

end Slas.Network
