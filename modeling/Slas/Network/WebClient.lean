import Mathlib
import Slas.Network.RoundTrip

/-!
The sender of the web client, `web/slas-web/network/network.py`, beside the one of
`libslas`.

* `WebClient.sendMessage`, `WebClient.sendText`: the functions of the Python class, on
  the same system calls;
* `WebClient.sendText_eq`: call by call they do what `Network::SendText` does;
* `Emits`: what a sender has put on the wire when it ends, or when it may run no
  further rounds;
* `same_bytes`: on every schedule both clients emit the frames of the text.
-/

namespace Slas.Network

open Framing

variable {σ : Type} (sys : SystemInterface σ)

/-! ### The source -/

namespace WebClient

/-- Why a call of the client does not return: an exception, or a loop that has not
ended in the rounds given. -/
inductive Stop where
  | valueError
  | socketError
  | timeoutException
  | ioError
  | stillRunning
  deriving DecidableEq, Repr

/-- `Network.MAX_MESSAGE_LENGTH`. -/
def maxMessageLength : ℕ := 255

abbrev ClientM (σ : Type) := EStateM Stop σ

/-- `socket.send`. -/
def send (bytes : List UInt8) : ClientM σ ℕ := do
  match ← modifyGet (sys.send bytes) with
  | none => throw .socketError
  | some sent => pure sent

/-- The first loop of `Network.send_message`. -/
def sendLengthLoop (messageLength : UInt8) : ℕ → ClientM σ Unit
  | 0 => throw .stillRunning
  | rounds + 1 => do
      let sent ← send sys [messageLength]
      if sent = 1 then pure () else sendLengthLoop messageLength rounds

/-- The second loop of `Network.send_message`, when `sent` bytes are sent. -/
def sendBytesLoop (message : List UInt8) : ℕ → ℕ → ClientM σ Unit
  | rounds, sent =>
      if message.length - sent > 0 then
        match rounds with
        | 0 => throw .stillRunning
        | rounds + 1 => do
            let more ← send sys (message.drop sent)
            sendBytesLoop message rounds (sent + more)
      else pure ()

/-- `Network.send_message`. -/
def sendMessage (rounds : ℕ) (message : List UInt8) : ClientM σ Unit := do
  if message.length > maxMessageLength then throw .valueError
  sendLengthLoop sys (UInt8.ofNat message.length) rounds
  sendBytesLoop sys message rounds 0

/-- `range(0, stop, step)`. -/
def range (stop step : ℕ) : List ℕ := (List.range ((stop + step - 1) / step)).map (· * step)

/-- `Network.send_text`. -/
def sendText (rounds : ℕ) (text : Text) : ClientM σ Unit :=
  (range text.bytes.length (maxMessageLength - 1)).forM fun i =>
    if i + maxMessageLength ≤ text.bytes.length then
      sendMessage sys rounds (typeMore :: (text.bytes.drop i).take (maxMessageLength - 1))
    else
      sendMessage sys rounds (typeLast :: (text.bytes.drop i).take (text.bytes.length - i))

end WebClient

/-! ### The two senders, call by call -/

/-- The exception of the client where that of `libslas` is thrown. -/
def Stop.ofClient : Stop → WebClient.Stop
  | .messageTooLongException => .valueError
  | .stillRunning => .stillRunning
  | _ => .socketError

/-- The same computation with the exceptions of the client. -/
def clientOf {α : Type} (m : NetM σ α) : WebClient.ClientM σ α := fun s =>
  match m s with
  | .ok a s' => .ok a s'
  | .error e s' => .error e.ofClient s'

section Same

variable {α β : Type}

@[simp] lemma clientOf_bind (m : NetM σ α) (f : α → NetM σ β) :
    clientOf (m >>= f) = clientOf m >>= fun a => clientOf (f a) := by
  funext s
  show clientOf (EStateM.bind m f) s = EStateM.bind (clientOf m) (fun a => clientOf (f a)) s
  rw [clientOf, EStateM.bind, EStateM.bind, clientOf]
  cases m s <;> rfl

namespace WebClient

lemma send_eq (bytes : List UInt8) : send sys bytes = clientOf (Network.send sys bytes) := by
  rw [send, Network.send, clientOf_bind]
  refine congrArg (modifyGet (sys.send bytes) >>= ·) (funext fun sent => ?_)
  cases sent <;> rfl

/-- At most as many bytes are sent as offered. -/
lemma bind_send_congr {bytes : List UInt8} {f g : ℕ → ClientM σ α}
    (h : ∀ sent ≤ bytes.length, f sent = g sent) : send sys bytes >>= f = send sys bytes >>= g := by
  funext s
  show EStateM.bind (send sys bytes) f s = EStateM.bind (send sys bytes) g s
  have hsend : send sys bytes s = match sys.send bytes s with
      | (none, s') => .error .socketError s'
      | (some sent, s') => .ok sent s' := by
    rcases hres : sys.send bytes s with ⟨_ | sent, s'⟩ <;>
      simp [send, bind, EStateM.bind, modifyGet, MonadStateOf.modifyGet, EStateM.modifyGet,
        hres] <;> rfl
  rw [EStateM.bind, EStateM.bind, hsend]
  rcases hres : sys.send bytes s with ⟨_ | sent, s'⟩
  · rfl
  · exact congrFun (h sent (sys.send_le (congrArg Prod.fst hres))) s'

lemma sendLengthLoop_eq (messageLength : UInt8) (rounds : ℕ) :
    sendLengthLoop sys messageLength rounds
      = clientOf (Network.sendLengthLoop sys messageLength rounds) := by
  induction rounds with
  | zero => rfl
  | succ rounds ih =>
      rw [sendLengthLoop, Network.sendLengthLoop, clientOf_bind, ← send_eq]
      refine bind_send_congr sys fun sent hle => ?_
      rw [List.length_singleton] at hle
      -- one byte is sent, or none
      interval_cases sent
      · exact ih
      · rfl

lemma sendBytesLoop_eq (message : List UInt8) (rounds sent : ℕ) :
    sendBytesLoop sys message rounds sent
      = clientOf (Network.sendBytesLoop sys rounds (message.drop sent)) := by
  induction rounds generalizing sent with
  | zero =>
      rw [sendBytesLoop]
      cases hdrop : message.drop sent with
      | nil => rw [if_neg (by rw [← List.length_drop, hdrop]; simp)]; rfl
      | cons b bs => rw [if_pos (by rw [← List.length_drop, hdrop]; simp)]; rfl
  | succ rounds ih =>
      rw [sendBytesLoop]
      cases hdrop : message.drop sent with
      | nil => rw [if_neg (by rw [← List.length_drop, hdrop]; simp)]; rfl
      | cons b bs =>
          rw [if_pos (by rw [← List.length_drop, hdrop]; simp), Network.sendBytesLoop,
            clientOf_bind, ← send_eq]
          refine bind_send_congr sys fun more _ => ?_
          rw [ih, ← hdrop, List.drop_drop]

lemma sendMessage_eq (rounds : ℕ) (message : List UInt8) :
    sendMessage sys rounds message = clientOf (Network.sendMessage sys rounds message) := by
  have hmax : maxMessageLength = Network.maxMessageLength := rfl
  rw [sendMessage, Network.sendMessage, sendLengthLoop_eq, sendBytesLoop_eq, List.drop_zero, hmax]
  split_ifs
  · rfl
  · rw [clientOf_bind]

/-- One round of the loop of `Network::SendText`. -/
lemma sendTextLoop_step (rounds : ℕ) {text : List UInt8} {i : ℕ} (hi : i < text.length) :
    Network.sendTextLoop sys rounds text i
      = (if i + Network.maxMessageLength ≤ text.length then
          Network.sendMessage sys rounds
            (typeMore :: (text.drop i).take (Network.maxMessageLength - 1))
        else
          Network.sendMessage sys rounds
            (typeLast :: (text.drop i).take (text.length - i))) >>= fun _ =>
        Network.sendTextLoop sys rounds text (i + (Network.maxMessageLength - 1)) := by
  rw [Network.sendTextLoop, if_pos hi]
  split_ifs <;> rfl

/-- The rounds of the loop that are left at position `j * 254`. -/
lemma sendTextLoop_eq (rounds : ℕ) (text : Text) (n j : ℕ)
    (hn : n = (text.bytes.length - j * 254 + 253) / 254) :
    (((List.range' j n).map (· * 254)).forM fun i =>
      if i + maxMessageLength ≤ text.bytes.length then
        sendMessage sys rounds (typeMore :: (text.bytes.drop i).take (maxMessageLength - 1))
      else
        sendMessage sys rounds (typeLast :: (text.bytes.drop i).take (text.bytes.length - i)))
      = clientOf (Network.sendTextLoop sys rounds text.bytes (j * 254)) := by
  have hmax : maxMessageLength = Network.maxMessageLength := rfl
  induction n generalizing j with
  | zero =>
      rw [sendTextLoop_end sys (by omega)]
      rfl
  | succ n ih =>
      have hnext : j * 254 + (Network.maxMessageLength - 1) = (j + 1) * 254 := by
        rw [Network.maxMessageLength]
        omega
      rw [sendTextLoop_step sys rounds (by omega), clientOf_bind, hnext, ← ih (j + 1) (by omega),
        List.range'_succ, List.map_cons, List.forM, hmax]
      refine congrArg (· >>= _) ?_
      split_ifs
      · exact sendMessage_eq sys rounds _
      · exact sendMessage_eq sys rounds _

/-- **Call by call the client does what `Network::SendText` does**, whatever the calls
return. -/
lemma sendText_eq (rounds : ℕ) (text : Text) :
    sendText sys rounds text = clientOf (Network.sendText sys rounds text) := by
  have hloop := sendTextLoop_eq sys rounds text ((text.bytes.length + 253) / 254) 0 (by simp)
  rw [Nat.zero_mul] at hloop
  rw [Network.sendText, ← hloop, sendText, range, List.range_eq_range']
  rfl

end WebClient

end Same

/-! ### What is emitted -/

lemma wireOf_singleton (text : Text) : wireOf [text] = (frames text).flatMap frameBytes :=
  List.append_nil _

/-- All of the bytes are on the wire at the end; and when the rounds are used up before,
the first ones of them are. -/
def Emits {ε : Type} (stillRunning : ε) (m : EStateM ε Channel Unit) (bytes : List UInt8) : Prop :=
  ∀ c, match m.run c with
    | .ok _ c' => c'.wire = c.wire ++ bytes
    | .error e c' => e = stillRunning ∧ ∃ sent, sent <+: bytes ∧ c'.wire = c.wire ++ sent

section Emits

variable {sch : Schedule}

lemma Emits.pure : Emits Stop.stillRunning (Pure.pure ()) [] := fun c =>
  (List.append_nil c.wire).symm

lemma Emits.stillRunning (bytes : List UInt8) :
    Emits Stop.stillRunning (throw .stillRunning) bytes :=
  fun c => ⟨rfl, [], List.nil_prefix, (List.append_nil c.wire).symm⟩

/-- One sender after another. -/
lemma Emits.seq {m m' : NetM Channel Unit} {bytes bytes' : List UInt8}
    (h : Emits .stillRunning m bytes) (h' : Emits .stillRunning m' bytes') :
    Emits .stillRunning (m >>= fun _ => m') (bytes ++ bytes') := by
  intro c
  have hm := h c
  rw [EStateM.run_bind]
  cases hrun : m.run c with
  | error e c₁ =>
      rw [hrun] at hm
      obtain ⟨he, sent, hsent, hwire⟩ := hm
      exact ⟨he, sent, hsent.trans (List.prefix_append _ _), hwire⟩
  | ok _ c₁ =>
      rw [hrun] at hm
      have hm' := h' c₁
      dsimp only
      cases hrun' : m'.run c₁ with
      | error e c₂ =>
          rw [hrun'] at hm'
          obtain ⟨he, sent, hsent, hwire⟩ := hm'
          refine ⟨he, bytes ++ sent, (List.prefix_append_right_inj _).mpr hsent, ?_⟩
          rw [hwire, hm, List.append_assoc]
      | ok _ c₂ =>
          rw [hrun'] at hm'
          dsimp only at hm hm' ⊢
          rw [hm', hm, List.append_assoc]

/-- A call that takes some of the bytes, and the sender of the others. -/
lemma emits_send {bytes : List UInt8} {f : ℕ → NetM Channel Unit}
    (h : ∀ sent ≤ bytes.length, Emits .stillRunning (f sent) (bytes.drop sent)) :
    Emits .stillRunning (send (channel sch) bytes >>= f) bytes := by
  intro c
  set k := min (sch.accepts c.sends) bytes.length with hk
  have hf := h k (by omega) { c with wire := c.wire ++ bytes.take k, sends := c.sends + 1 }
  rw [EStateM.run_bind, send_run, ← hk]
  dsimp only
  rcases hrun : (f k).run _ with ⟨_, c'⟩ | ⟨e, c'⟩
  · rw [hrun] at hf
    dsimp only at hf ⊢
    rw [hf, List.append_assoc, List.take_append_drop]
  · rw [hrun] at hf
    obtain ⟨he, sent, hsent, hwire⟩ := hf
    refine ⟨he, bytes.take k ++ sent, ?_, by rw [hwire, List.append_assoc]⟩
    have hearlier := (List.prefix_append_right_inj (bytes.take k)).mpr hsent
    rwa [List.take_append_drop] at hearlier

lemma emits_sendLengthLoop (b : UInt8) (rounds : ℕ) :
    Emits .stillRunning (sendLengthLoop (channel sch) b rounds) [b] := by
  induction rounds with
  | zero => exact Emits.stillRunning _
  | succ rounds ih =>
      refine emits_send fun sent hle => ?_
      rw [List.length_singleton] at hle
      interval_cases sent
      · exact ih
      · exact Emits.pure

lemma emits_sendBytesLoop (rounds : ℕ) (bytes : List UInt8) :
    Emits .stillRunning (sendBytesLoop (channel sch) rounds bytes) bytes := by
  induction rounds generalizing bytes with
  | zero =>
      cases bytes with
      | nil => exact Emits.pure
      | cons b bs => exact Emits.stillRunning _
  | succ rounds ih =>
      cases bytes with
      | nil => exact Emits.pure
      | cons b bs => exact emits_send fun sent _ => ih _

lemma emits_sendMessage (rounds : ℕ) {message : List UInt8}
    (hlen : message.length ≤ maxMessageLength) :
    Emits .stillRunning (sendMessage (channel sch) rounds message)
      (UInt8.ofNat message.length :: message) := by
  rw [sendMessage, if_neg (Nat.not_lt.mpr hlen)]
  exact (emits_sendLengthLoop _ rounds).seq (emits_sendBytesLoop rounds message)

lemma emits_sendTextLoop (rounds : ℕ) (text : List UInt8) (i : ℕ) :
    Emits .stillRunning (sendTextLoop (channel sch) rounds text i)
      ((pieces 254 (text.drop i)).flatMap frameBytes) := by
  have hmax : maxMessageLength = 255 := rfl
  induction hxs : text.drop i using pieces_induction (k := 254) generalizing i with
  | hnil =>
      rw [sendTextLoop_end _ (by simpa using hxs), pieces_nil]
      exact Emits.pure
  | hshort xs hne h =>
      have hlen : xs.length = text.length - i := by rw [← hxs, List.length_drop]
      have hpos := List.length_pos_iff.mpr hne
      have hmessage : Emits .stillRunning (sendMessage (channel sch) rounds (typeLast :: xs)) _ :=
        emits_sendMessage rounds (by rw [List.length_cons]; omega)
      rw [WebClient.sendTextLoop_step _ rounds (by omega), if_neg (by omega), hxs, ← hlen,
        List.take_length, sendTextLoop_end _ (by omega), pieces_short hne h]
      exact hmessage.seq Emits.pure
  | hlong xs h ih =>
      have hlen : xs.length = text.length - i := by rw [← hxs, List.length_drop]
      have hmessage : Emits .stillRunning
          (sendMessage (channel sch) rounds (typeMore :: xs.take 254)) _ :=
        emits_sendMessage rounds (by rw [List.length_cons, List.length_take]; omega)
      have hrest := ih (i + 254) (by rw [← hxs, List.drop_drop])
      rw [WebClient.sendTextLoop_step _ rounds (by omega), if_pos (by omega), hxs, pieces_long h]
      exact hmessage.seq hrest

lemma emits_sendText (rounds : ℕ) (text : Text) :
    Emits .stillRunning (sendText (channel sch) rounds text) (wireOf [text]) := by
  have hloop : Emits .stillRunning (sendTextLoop (channel sch) rounds text.bytes 0) _ :=
    emits_sendTextLoop rounds text.bytes 0
  rwa [List.drop_zero, ← frames, ← wireOf_singleton] at hloop

/-- The client emits the same. -/
lemma Emits.clientOf {m : NetM Channel Unit} {bytes : List UInt8}
    (h : Emits .stillRunning m bytes) :
    Emits .stillRunning (clientOf m) bytes := by
  intro c
  have hm := h c
  rw [EStateM.run] at hm ⊢
  rw [Network.clientOf]
  cases hrun : m c with
  | error e c' =>
      rw [hrun] at hm
      obtain ⟨rfl, hsent⟩ := hm
      exact ⟨rfl, hsent⟩
  | ok _ c' =>
      rw [hrun] at hm
      exact hm

end Emits

/-! ### The two clients -/

/-- The bytes of a text on the wire: so many frames, each of a length byte, a type byte
and a payload. -/
structure Framed (text : Text) : Prop where
  wire : wireOf [text] = (frames text).flatMap fun p =>
    UInt8.ofNat (p.2.length + 1) :: (if p.1 then typeLast else typeMore) :: p.2
  count : (frames text).length = text.bytes.length ⌈/⌉ 254
  payloads : (frames text).flatMap (·.2) = text.bytes
  sizes : ∀ p ∈ frames text, 1 ≤ p.2.length ∧ p.2.length ≤ 254 ∧
    (UInt8.ofNat (p.2.length + 1)).toNat = p.2.length + 1
  more : ∀ p ∈ (frames text).dropLast, p.1 = false ∧ p.2.length = 254
  last : ∀ p ∈ (frames text).getLast?, p.1 = true

/-- What the two senders do with a text: they put its frames on the wire and throw no
exception, after the same calls, and they end if bytes are not refused forever. -/
structure SameBytes (sch : Schedule) (text : Text) : Prop where
  framed : Framed text
  libslas : ∀ rounds, Emits .stillRunning (sendText (channel sch) rounds text) (wireOf [text])
  client : ∀ rounds,
    Emits .stillRunning (WebClient.sendText (channel sch) rounds text) (wireOf [text])
  alike : ∀ rounds, WebClient.sendText (channel sch) rounds text
    = clientOf (sendText (channel sch) rounds text)
  ends : sch.Fair → ∀ c, ∃ r₀ k, ∀ rounds ≥ r₀,
    (sendText (channel sch) rounds text).run c
      = .ok () { c with wire := c.wire ++ wireOf [text], sends := k } ∧
    (WebClient.sendText (channel sch) rounds text).run c
      = .ok () { c with wire := c.wire ++ wireOf [text], sends := k }

lemma framed (text : Text) : Framed text where
  wire := wireOf_singleton text
  count := length_pieces text.bytes
  payloads := flatMap_pieces text.bytes
  sizes p hp := by
    obtain ⟨hpos, hle⟩ := length_of_mem_pieces hp
    refine ⟨hpos, hle, ?_⟩
    rw [UInt8.toNat_ofNat']
    exact Nat.mod_eq_of_lt (by omega)
  more _ hp := of_mem_dropLast_pieces hp
  last _ hp := getLast?_pieces hp

/-- **Both clients put the same bytes on the wire**, on every schedule. -/
theorem same_bytes (sch : Schedule) (text : Text) : SameBytes sch text where
  framed := framed text
  libslas rounds := emits_sendText rounds text
  client rounds := by
    rw [WebClient.sendText_eq]
    exact (emits_sendText rounds text).clientOf
  alike rounds := WebClient.sendText_eq (channel sch) rounds text
  ends hfair c := by
    have hsends := sends_sendTextLoop hfair text.bytes 0
    rw [List.drop_zero, ← frames, ← wireOf_singleton] at hsends
    obtain ⟨r₀, k, hrun⟩ := hsends c
    refine ⟨r₀, k, fun rounds hle => ⟨hrun rounds hle, ?_⟩⟩
    have hlibslas : sendText (channel sch) rounds text c
        = .ok () { c with wire := c.wire ++ wireOf [text], sends := k } := hrun rounds hle
    rw [EStateM.run, WebClient.sendText_eq, clientOf, hlibslas]

end Slas.Network
