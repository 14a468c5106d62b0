import Mathlib
import Slas.Lib.Framing
import Slas.Network.Basic

/-!
Texts sent with `Network::SendText` and read back with `Network::ReceiveText`
over a reliable, ordered byte stream.

* `Schedule`, `channel`: what the operating system decides about short writes
  and short reads, and the stream under such decisions;
* `frames`, `wireOf`: the frames of a text and the bytes of a list of texts;
* `WholeReads`: no `Recv` of a frame body ends one byte before the frame does;
* `round_trip_iff`: the texts come back as they were sent, one per call and
  each call ending on a frame boundary, exactly under such schedules.

`Network::RecvMessage` compares `total`, which counts the length byte, with
`message_length`, which does not. A read that leaves one byte of the frame ends
the loop (`recvMessageLoop_short`): the byte stays in the stream and its place
in the message keeps the `0` that `resize` put there.
-/

namespace Slas.Network

open Framing

/-! ### The stream -/

/-- How many bytes the `k`-th `Send` takes and the `k`-th `Recv` hands back, if
as many are offered, requested and there. -/
structure Schedule where
  accepts : ℕ → ℕ
  hands : ℕ → ℕ

/-- The bytes taken from the sender and not yet handed to the reader, and how
many calls either side has made. -/
structure Channel where
  wire : List UInt8
  sends : ℕ
  recvs : ℕ
  deriving DecidableEq

/-- The connection before its first use. -/
def Channel.init : Channel := ⟨[], 0, 0⟩

/-- The reliable stream: `poll` reports data while bytes remain, `Recv` hands
back at least one byte and at most as many as requested, `Send` takes any
number up to the bytes offered. -/
def channel (sch : Schedule) : SystemInterface Channel where
  poll c := (if c.wire = [] then 0 else 1, c)
  recv n c :=
    let k := min (max 1 (sch.hands c.recvs)) n
    (some (c.wire.take k), { c with wire := c.wire.drop k, recvs := c.recvs + 1 })
  send bs c :=
    let k := min (sch.accepts c.sends) bs.length
    (some k, { c with wire := c.wire ++ bs.take k, sends := c.sends + 1 })
  recv_le := by
    intro n c bs h
    simp only [Option.some.injEq] at h
    rw [← h, List.length_take]
    omega
  send_le := by
    intro bs c n h
    simp only [Option.some.injEq] at h
    omega

variable {σ : Type} (sys : SystemInterface σ)

/-- Texts sent one after another. -/
def sendTexts (rounds : ℕ) (texts : List Text) : NetM σ Unit :=
  texts.forM (sendText sys rounds)

/-- Successive calls of `Network::ReceiveText`. -/
def receiveTexts (rounds : ℕ) : ℕ → NetM σ (List Text)
  | 0 => pure []
  | n + 1 => do
      let text ← receiveText sys rounds
      let texts ← receiveTexts rounds n
      pure (text :: texts)

/-! ### The bytes of a list of texts -/

/-- The frames of a text: the flag of the last one and the bytes carried. -/
def frames (text : Text) : List (Bool × List UInt8) := pieces 254 text.bytes

/-- The bytes of a frame on the wire. -/
def frameBytes (p : Bool × List UInt8) : List UInt8 :=
  UInt8.ofNat (p.2.length + 1) :: (if p.1 then typeLast else typeMore) :: p.2

/-- The bytes of texts sent one after another. -/
def wireOf (texts : List Text) : List UInt8 :=
  texts.flatMap fun t => (frames t).flatMap frameBytes

/-- The announced lengths of the frames of texts sent one after another. -/
def bodyLengths (texts : List Text) : List ℕ :=
  texts.flatMap fun t => (frames t).map fun p => p.2.length + 1

/-! ### The property and the schedules that have it -/

/-- With enough rounds the texts are taken by the stream, and then for every `m`
the first `m` calls of the reader return the first `m` texts and leave the bytes
of the others, so that the reader stands on a frame boundary. -/
def RoundTrip (sch : Schedule) (texts : List Text) : Prop :=
  ∃ r₀ sent, ∀ rounds ≥ r₀,
    (sendTexts (channel sch) rounds texts).run Channel.init = .ok () sent ∧
    ∀ m ≤ texts.length, ∃ c,
      (receiveTexts (channel sch) rounds m).run sent = .ok (texts.take m) c ∧
        c.wire = wireOf (texts.drop m)

/-- The bytes of a frame body still missing after each of the reads that fetch
it, when `left` are missing before call `turn`. -/
def bodyReads (hands : ℕ → ℕ) (turn left : ℕ) : List ℕ :=
  if left = 0 then []
  else (left - max 1 (hands turn)) :: bodyReads hands (turn + 1) (left - max 1 (hands turn))
termination_by left
decreasing_by
  have := le_max_left 1 (hands turn)
  omega

/-- From call `turn` on, no read of a frame body leaves exactly one byte of it
missing. Every frame takes one more call, for its length byte. -/
def WholeReads (hands : ℕ → ℕ) : ℕ → List ℕ → Prop
  | _, [] => True
  | turn, length :: lengths =>
      1 ∉ bodyReads hands (turn + 1) length ∧
        WholeReads hands (turn + 1 + (bodyReads hands (turn + 1) length).length) lengths

/-! ### The sender -/

section Sender

variable {sch : Schedule}

/-- A sending computation puts `bytes` on the wire once it may run enough
rounds. -/
def Sends (m : ℕ → NetM Channel Unit) (bytes : List UInt8) : Prop :=
  ∀ c : Channel, ∃ r₀ k, ∀ r ≥ r₀,
    (m r).run c = .ok () { c with wire := c.wire ++ bytes, sends := k }

lemma Sends.pure : Sends (fun _ => Pure.pure ()) [] :=
  fun c => ⟨0, c.sends, fun _ _ => by simp⟩

lemma Sends.seq {m₁ m₂ : ℕ → NetM Channel Unit} {b₁ b₂ : List UInt8}
    (h₁ : Sends m₁ b₁) (h₂ : Sends m₂ b₂) :
    Sends (fun r => do m₁ r; m₂ r) (b₁ ++ b₂) := by
  intro c
  obtain ⟨r₁, k₁, hr₁⟩ := h₁ c
  obtain ⟨r₂, k₂, hr₂⟩ := h₂ { c with wire := c.wire ++ b₁, sends := k₁ }
  refine ⟨max r₁ r₂, k₂, fun r hr => ?_⟩
  rw [EStateM.run_bind, hr₁ r (le_trans (le_max_left _ _) hr)]
  simp only [hr₂ r (le_trans (le_max_right _ _) hr), List.append_assoc]

/-- One `Send` on the stream. -/
lemma send_run (bs : List UInt8) (c : Channel) :
    (send (channel sch) bs).run c = .ok (min (sch.accepts c.sends) bs.length)
      { c with
        wire := c.wire ++ bs.take (min (sch.accepts c.sends) bs.length)
        sends := c.sends + 1 } := rfl

/-- Bytes are not refused forever. -/
def Schedule.Fair (sch : Schedule) : Prop := ∀ k, ∃ j ≥ k, 0 < sch.accepts j

/-- What holds when the next call takes a byte, and carries over to the state
before a call that takes none, holds under every fair schedule: induction on
the distance to the next call that takes one. -/
lemma Schedule.Fair.induction (hfair : sch.Fair) {P : Channel → Prop}
    (htake : ∀ c, 0 < sch.accepts c.sends → P c)
    (hrefuse : ∀ c, sch.accepts c.sends = 0 → P { c with sends := c.sends + 1 } → P c)
    (c : Channel) : P c := by
  obtain ⟨j, hj, hpos⟩ := hfair c.sends
  obtain ⟨d, rfl⟩ := Nat.exists_eq_add_of_le hj
  clear hj
  induction d generalizing c with
  | zero => exact htake c hpos
  | succ d ih =>
      by_cases h0 : sch.accepts c.sends = 0
      · refine hrefuse c h0 (ih _ ?_)
        rwa [show c.sends + 1 + d = c.sends + (d + 1) from by omega]
      · exact htake c (Nat.pos_of_ne_zero h0)

/-- The length byte is repeated until it is taken. -/
lemma sends_sendLengthLoop (hfair : sch.Fair) (b : UInt8) :
    Sends (sendLengthLoop (channel sch) b) [b] := by
  intro c
  induction c using hfair.induction with
  | htake c hpos =>
      refine ⟨1, c.sends + 1, fun r hr => ?_⟩
      obtain ⟨r, rfl⟩ : ∃ r', r = r' + 1 := ⟨r - 1, by omega⟩
      have h1 : min (sch.accepts c.sends) [b].length = 1 := by
        simp only [List.length_singleton]
        omega
      rw [sendLengthLoop, EStateM.run_bind, send_run, h1]
      simp
  | hrefuse c h0 ih =>
      obtain ⟨r₀, k, hr⟩ := ih
      refine ⟨r₀ + 1, k, fun r hle => ?_⟩
      obtain ⟨r, rfl⟩ : ∃ r', r = r' + 1 := ⟨r - 1, by omega⟩
      rw [sendLengthLoop, EStateM.run_bind, send_run]
      simpa [h0] using hr r (by omega)

/-- The rest of a frame is repeated until all of it is taken. -/
lemma sends_sendBytesLoop (hfair : sch.Fair) (bs : List UInt8) :
    Sends (fun r => sendBytesLoop (channel sch) r bs) bs := by
  induction hn : bs.length using Nat.strong_induction_on generalizing bs with
  | _ n ih =>
      cases bs with
      | nil => exact fun c => ⟨0, c.sends, fun r _ => by cases r <;> simp [sendBytesLoop]⟩
      | cons b bs =>
          intro c
          induction c using hfair.induction with
          | htake c hpos =>
              set t := min (sch.accepts c.sends) (b :: bs).length with ht
              rw [List.length_cons] at hn ht
              obtain ⟨r₀, k, hr⟩ := ih ((b :: bs).drop t).length
                (by rw [List.length_drop, List.length_cons]; omega) _ rfl
                { c with wire := c.wire ++ (b :: bs).take t, sends := c.sends + 1 }
              refine ⟨r₀ + 1, k, fun r hle => ?_⟩
              obtain ⟨r, rfl⟩ : ∃ r', r = r' + 1 := ⟨r - 1, by omega⟩
              simp only [sendBytesLoop]
              rw [EStateM.run_bind, send_run, List.length_cons, ← ht]
              simpa [List.append_assoc, List.take_append_drop] using hr r (by omega)
          | hrefuse c h0 ihc =>
              obtain ⟨r₀, k, hr⟩ := ihc
              refine ⟨r₀ + 1, k, fun r hle => ?_⟩
              obtain ⟨r, rfl⟩ : ∃ r', r = r' + 1 := ⟨r - 1, by omega⟩
              simp only [sendBytesLoop]
              rw [EStateM.run_bind, send_run]
              simpa [h0] using hr r (by omega)

/-- A message of at most 255 bytes goes out behind its length. -/
lemma sends_sendMessage (hfair : sch.Fair) (message : List UInt8)
    (hlen : message.length ≤ maxMessageLength) :
    Sends (fun r => sendMessage (channel sch) r message)
      (UInt8.ofNat message.length :: message) := by
  have h := (sends_sendLengthLoop hfair (UInt8.ofNat message.length)).seq
    (sends_sendBytesLoop hfair message)
  simpa [sendMessage, Nat.not_lt.mpr hlen] using h

/-- Past the end of the text the loop of `Network::SendText` sends nothing. -/
lemma sendTextLoop_end {rounds : ℕ} {text : List UInt8} {i : ℕ} (hi : text.length ≤ i) :
    sendTextLoop sys rounds text i = pure () := by
  rw [sendTextLoop, if_neg (by omega)]

/-- The loop of `Network::SendText` sends the frames of what is left. -/
lemma sends_sendTextLoop (hfair : sch.Fair) (text : List UInt8) (i : ℕ) :
    Sends (fun r => sendTextLoop (channel sch) r text i)
      ((pieces 254 (text.drop i)).flatMap frameBytes) := by
  have hmax : maxMessageLength = 255 := rfl
  induction hxs : text.drop i using pieces_induction (k := 254) generalizing i with
  | hnil =>
      have hlen : text.length ≤ i := by simpa using hxs
      simpa [sendTextLoop_end _ hlen] using Sends.pure
  | hshort xs hne h =>
      have hlen : xs.length = text.length - i := by rw [← hxs, List.length_drop]
      have hpos := List.length_pos_iff.mpr hne
      have hmsg := sends_sendMessage hfair (typeLast :: xs)
        (by rw [List.length_cons]; omega)
      have hrun : ∀ r, sendTextLoop (channel sch) r text i
          = sendMessage (channel sch) r (typeLast :: xs) := by
        intro r
        rw [sendTextLoop, if_pos (by omega), if_neg (by omega), hxs, ← hlen, List.take_length,
          sendTextLoop_end _ (by omega)]
        simp
      simpa [hrun, pieces_short hne h, frameBytes] using hmsg
  | hlong xs h ih =>
      have hlen : xs.length = text.length - i := by rw [← hxs, List.length_drop]
      have hmsg := sends_sendMessage hfair (typeMore :: xs.take 254)
        (by rw [List.length_cons, List.length_take]; omega)
      have hrest := ih (i + 254) (by rw [← hxs, List.drop_drop])
      have hrun : ∀ r, sendTextLoop (channel sch) r text i = (do
          sendMessage (channel sch) r (typeMore :: xs.take 254)
          sendTextLoop (channel sch) r text (i + 254)) := by
        intro r
        rw [sendTextLoop, if_pos (by omega), if_pos (by omega), hxs]
        rfl
      simpa [hrun, pieces_long h, frameBytes] using hmsg.seq hrest

/-- Under a fair schedule the texts are taken by the stream. -/
lemma sends_sendTexts (hfair : sch.Fair) (texts : List Text) :
    Sends (fun r => sendTexts (channel sch) r texts) (wireOf texts) := by
  induction texts with
  | nil => simpa [sendTexts, wireOf] using Sends.pure
  | cons t ts ih =>
      have ht : Sends (fun r => sendText (channel sch) r t) ((frames t).flatMap frameBytes) := by
        simpa [sendText, frames] using sends_sendTextLoop hfair t.bytes 0
      simpa [sendTexts, wireOf] using ht.seq ih

end Sender

/-! ### The reader -/

section Reader

variable {sch : Schedule}

lemma waitForNewData_run {c : Channel} (hwire : c.wire ≠ []) :
    (waitForNewData (channel sch)).run c = .ok () c := by
  simp [waitForNewData, waitForData, channel, hwire, modifyGet, MonadStateOf.modifyGet, EStateM.run,
    EStateM.modifyGet, bind, EStateM.bind, pure, EStateM.pure]

/-- One `Recv` on the stream. -/
lemma recv_run (sch : Schedule) {n k : ℕ} {c : Channel} (hn : 0 < n) (hwire : c.wire ≠ [])
    (hk : min (max 1 (sch.hands c.recvs)) n = k) :
    ∃ received : Received n, received.1 = c.wire.take k ∧
      (recv (channel sch) n).run c = .ok received
        { c with wire := c.wire.drop k, recvs := c.recvs + 1 } := by
  subst hk
  have hne : c.wire.take (min (max 1 (sch.hands c.recvs)) n) ≠ [] := by
    have := le_max_left 1 (sch.hands c.recvs)
    simp only [ne_eq, List.take_eq_nil_iff, hwire, or_false]
    omega
  refine ⟨⟨_, hne, ?_⟩, rfl, ?_⟩
  · rw [List.length_take]
    omega
  · show recv (channel sch) n c = _
    simp [recv, channel, hne]

/-- The reads of a body that is not empty. -/
lemma bodyReads_of_pos {hands : ℕ → ℕ} {turn left : ℕ} (h : 0 < left) :
    bodyReads hands turn left
      = (left - max 1 (hands turn)) :: bodyReads hands (turn + 1) (left - max 1 (hands turn)) := by
  rw [bodyReads, if_neg (by omega)]

@[simp] lemma bodyReads_zero {hands : ℕ → ℕ} {turn : ℕ} : bodyReads hands turn 0 = [] := by
  rw [bodyReads, if_pos rfl]

lemma length_pos_of_mem_bodyReads {hands : ℕ → ℕ} {turn left k : ℕ}
    (h : k ∈ bodyReads hands turn left) : 0 < left := by
  rcases Nat.eq_zero_or_pos left with h0 | h0
  · simp [h0] at h
  · exact h0

/-- With `total = pre.length + 1` the loop of `Network::RecvMessage` ends as soon
as at most one byte is missing, whether or not that byte has been read. -/
lemma recvMessageLoop_end {pre : List UInt8} {left : ℕ} (h : left ≤ 1) :
    recvMessageLoop sys (pre.length + left) (pre.length + 1) (pre ++ List.replicate left 0)
      = pure (pre ++ List.replicate left 0) := by
  rw [recvMessageLoop, if_neg (by omega)]

/-- Writing behind the part already received. -/
lemma memcpy_append_replicate {pre bytes : List UInt8} {left : ℕ} :
    memcpy (pre ++ List.replicate left 0) pre.length bytes
      = pre ++ bytes ++ List.replicate (left - bytes.length) 0 := by
  simp [memcpy, List.drop_append]

/-- One round of the loop of `Network::RecvMessage`: `pre` has been received,
`body` is missing and in front of `rest` on the wire. -/
lemma recvMessageLoop_step {pre body rest : List UInt8} {c : Channel}
    (h : 2 ≤ body.length) (hbuf : body.length ≤ bufferLength) (hwire : c.wire = body ++ rest) :
    let n := min (max 1 (sch.hands c.recvs)) body.length
    (recvMessageLoop (channel sch) (pre.length + body.length) (pre.length + 1)
        (pre ++ List.replicate body.length 0)).run c
      = (recvMessageLoop (channel sch) ((pre ++ body.take n).length + (body.drop n).length)
          ((pre ++ body.take n).length + 1)
          ((pre ++ body.take n) ++ List.replicate (body.drop n).length 0)).run
        { c with wire := body.drop n ++ rest, recvs := c.recvs + 1 } := by
  intro n
  have hn : n ≤ body.length := Nat.min_le_right _ _
  have hne : c.wire ≠ [] := by
    rw [hwire]
    intro h0
    simp [List.append_eq_nil_iff.mp h0] at h
  have hreq : (if pre.length + body.length + 1 - (pre.length + 1) > bufferLength then bufferLength
      else pre.length + body.length + 1 - (pre.length + 1)) = body.length := by
    rw [if_neg (by omega)]
    omega
  obtain ⟨received, hrec, hrun⟩ := recv_run sch (c := c) (k := n)
    (n := if pre.length + body.length + 1 - (pre.length + 1) > bufferLength then bufferLength
      else pre.length + body.length + 1 - (pre.length + 1)) (by omega) hne (by rw [hreq])
  rw [hwire, List.take_append_of_le_length hn] at hrec
  rw [hwire, List.drop_append_of_le_length hn] at hrun
  rw [recvMessageLoop, if_pos (by omega), EStateM.run_bind, waitForNewData_run hne]
  simp only [EStateM.run_bind, hrun]
  have hlen : received.1.length = n := by rw [hrec, List.length_take]; omega
  rw [show pre.length + 1 - 1 = pre.length from rfl, memcpy_append_replicate, hlen, hrec]
  simp only [List.length_append, List.length_take, List.length_drop, Nat.min_eq_left hn]
  rw [show pre.length + n + (body.length - n) = pre.length + body.length from by omega,
    show pre.length + 1 + n = pre.length + n + 1 from by omega]

/-- What is left after a read that hands back as much as it may. -/
lemma length_drop_min {body : List UInt8} (k : ℕ) :
    (body.drop (min k body.length)).length = body.length - k := by
  rw [List.length_drop]
  omega

/-- A body whose reads never leave one byte is received as it was sent. -/
lemma recvMessageLoop_whole (pre body : List UInt8) {rest : List UInt8} {c : Channel}
    (h : body.length ≠ 1)
    (hbuf : body.length ≤ bufferLength) (hwire : c.wire = body ++ rest)
    (hreads : 1 ∉ bodyReads sch.hands c.recvs body.length) :
    (recvMessageLoop (channel sch) (pre.length + body.length) (pre.length + 1)
        (pre ++ List.replicate body.length 0)).run c
      = .ok (pre ++ body) { c with
          wire := rest
          recvs := c.recvs + (bodyReads sch.hands c.recvs body.length).length } := by
  induction hn : body.length using Nat.strong_induction_on generalizing pre body c with
  | _ n ih =>
      rcases Nat.lt_or_ge n 2 with hlt | hge
      · have h0 : body = [] := List.eq_nil_of_length_eq_zero (by omega)
        subst hn h0
        rw [recvMessageLoop_end _ (by simp)]
        rw [List.nil_append] at hwire
        subst hwire
        simp
      · subst hn
        have hmax := le_max_left 1 (sch.hands c.recvs)
        rw [recvMessageLoop_step hge hbuf hwire]
        rw [bodyReads_of_pos (by omega), List.mem_cons, not_or] at hreads
        set body' := body.drop (min (max 1 (sch.hands c.recvs)) body.length) with hbody'
        have hlen : body'.length = body.length - max 1 (sch.hands c.recvs) := length_drop_min _
        rw [ih body'.length (by omega) _ _ (by omega) (by omega) rfl
          (by rw [hlen]; exact hreads.2) rfl,
          bodyReads_of_pos (by omega : 0 < body.length), hlen]
        simp [hbody', Nat.add_assoc, Nat.add_comm 1]

/-- A read that leaves one byte of a body ends the loop: the byte stays on the
wire, and its place in the message keeps the `0` it was given. -/
lemma recvMessageLoop_short (pre body : List UInt8) {rest : List UInt8} {c : Channel}
    (h : body.length ≠ 1)
    (hbuf : body.length ≤ bufferLength) (hwire : c.wire = body ++ rest)
    (hreads : 1 ∈ bodyReads sch.hands c.recvs body.length) :
    ∃ k, (recvMessageLoop (channel sch) (pre.length + body.length) (pre.length + 1)
        (pre ++ List.replicate body.length 0)).run c
      = .ok (pre ++ body.take (body.length - 1) ++ [0]) { c with
          wire := body.drop (body.length - 1) ++ rest
          recvs := k } := by
  induction hn : body.length using Nat.strong_induction_on generalizing pre body c with
  | _ n ih =>
      subst hn
      have hpos := length_pos_of_mem_bodyReads hreads
      have hmax := le_max_left 1 (sch.hands c.recvs)
      rw [recvMessageLoop_step (by omega) hbuf hwire]
      rw [bodyReads_of_pos hpos, List.mem_cons] at hreads
      set n := min (max 1 (sch.hands c.recvs)) body.length with hn
      have hlen : (body.drop n).length = body.length - max 1 (sch.hands c.recvs) :=
        length_drop_min _
      by_cases h1 : (body.drop n).length = 1
      · have hn1 : n = body.length - 1 := by rw [List.length_drop] at h1; omega
        rw [recvMessageLoop_end _ (by omega), h1]
        exact ⟨_, by simp [hn1]; rfl⟩
      · have htail := hreads.resolve_left (by rw [← hlen]; omega)
        rw [← hlen] at htail
        obtain ⟨k, hk⟩ := ih _ (by omega) (pre ++ body.take n) (body.drop n)
          (c := { c with wire := body.drop n ++ rest, recvs := c.recvs + 1 }) h1 (by omega) rfl
          htail rfl
        have hbody : (body.drop n).length = body.length - n := List.length_drop
        refine ⟨k, ?_⟩
        have hleft := length_pos_of_mem_bodyReads htail
        have hlast : n + (body.length - n - 1) = body.length - 1 := by omega
        rw [hk, List.drop_drop, hbody, List.append_assoc pre, ← List.take_add, hlast]

/-- The call after the reads of frames with these announced lengths. -/
def turnAfter (hands : ℕ → ℕ) : ℕ → List ℕ → ℕ
  | turn, [] => turn
  | turn, length :: lengths =>
      turnAfter hands (turn + 1 + (bodyReads hands (turn + 1) length).length) lengths

lemma wholeReads_append {hands : ℕ → ℕ} {turn : ℕ} {as bs : List ℕ} :
    WholeReads hands turn (as ++ bs) ↔
      WholeReads hands turn as ∧ WholeReads hands (turnAfter hands turn as) bs := by
  induction as generalizing turn with
  | nil => simp [WholeReads, turnAfter]
  | cons a as ih => simp only [List.cons_append, WholeReads, turnAfter, ih, and_assoc]

/-- The length byte is read and the loop entered with the whole body missing. -/
lemma recvMessage_run (body : List UInt8) {rest : List UInt8} {c : Channel}
    (hlen : body.length ≤ maxMessageLength)
    (hwire : c.wire = UInt8.ofNat body.length :: (body ++ rest)) :
    (recvMessage (channel sch)).run c
      = (recvMessageLoop (channel sch) body.length 1 (List.replicate body.length 0)).run
          { c with wire := body ++ rest, recvs := c.recvs + 1 } := by
  have hne : c.wire ≠ [] := by simp [hwire]
  obtain ⟨received, hrec, hrun⟩ := recv_run sch (c := c) (n := 1) (k := 1) one_pos hne
    (by have := le_max_left 1 (sch.hands c.recvs); omega)
  rw [hwire] at hrec hrun
  obtain ⟨bs, hbs⟩ := received
  obtain rfl : bs = [UInt8.ofNat body.length] := by simpa using hrec
  have hbyte : (UInt8.ofNat body.length).toNat = body.length := by
    have : maxMessageLength = 255 := rfl
    rw [UInt8.toNat_ofNat']
    exact Nat.mod_eq_of_lt (by omega)
  rw [recvMessage, EStateM.run_bind, waitForNewData_run hne]
  simp only [EStateM.run_bind, hrun, List.head_cons, hbyte, List.length_singleton, List.drop_one,
    List.tail_cons]

/-- A frame whose reads never leave one byte is received as it was sent. -/
lemma recvMessage_whole {p : Bool × List UInt8} {rest : List UInt8} {c : Channel}
    (hlen : 1 ≤ p.2.length ∧ p.2.length ≤ 254) (hwire : c.wire = frameBytes p ++ rest)
    (hreads : 1 ∉ bodyReads sch.hands (c.recvs + 1) (p.2.length + 1)) :
    (recvMessage (channel sch)).run c
      = .ok ((if p.1 then typeLast else typeMore) :: p.2) { c with
          wire := rest
          recvs := turnAfter sch.hands c.recvs [p.2.length + 1] } := by
  have hmax : maxMessageLength = 255 := rfl
  have hbuf : bufferLength = 256 := rfl
  set body := (if p.1 then typeLast else typeMore) :: p.2 with hbody
  have hb : body.length = p.2.length + 1 := List.length_cons
  rw [← hb] at hreads
  have h := recvMessageLoop_whole [] body
    (c := { c with wire := body ++ rest, recvs := c.recvs + 1 }) (by omega) (by omega) rfl hreads
  rw [recvMessage_run body (by omega) (by rw [hwire, frameBytes, hb]; rfl)]
  simpa [turnAfter, hb] using h

/-- A frame with a read that leaves one byte loses that byte to a `0`. -/
lemma recvMessage_short {p : Bool × List UInt8} {rest : List UInt8} {c : Channel}
    (hlen : 1 ≤ p.2.length ∧ p.2.length ≤ 254) (hwire : c.wire = frameBytes p ++ rest)
    (hreads : 1 ∈ bodyReads sch.hands (c.recvs + 1) (p.2.length + 1)) :
    ∃ c', (recvMessage (channel sch)).run c
      = .ok ((if p.1 then typeLast else typeMore) :: (p.2.take (p.2.length - 1) ++ [0])) c' := by
  have hmax : maxMessageLength = 255 := rfl
  have hbuf : bufferLength = 256 := rfl
  set body := (if p.1 then typeLast else typeMore) :: p.2 with hbody
  have hb : body.length = p.2.length + 1 := List.length_cons
  rw [← hb] at hreads
  obtain ⟨k, hk⟩ := recvMessageLoop_short [] body
    (c := { c with wire := body ++ rest, recvs := c.recvs + 1 }) (by omega) (by omega) rfl hreads
  rw [recvMessage_run body (by omega) (by rw [hwire, frameBytes, hb]; rfl)]
  have htake : body.take (body.length - 1) = (if p.1 then typeLast else typeMore)
      :: p.2.take (p.2.length - 1) := by
    rw [hb, show p.2.length + 1 - 1 = (p.2.length - 1)
      + 1 from by omega, hbody, List.take_succ_cons]
  rw [htake] at hk
  exact ⟨_, by simpa using hk⟩

/-- What a text is read into only grows. -/
lemma receiveTextLoop_prefix {rounds : ℕ} {acc out : List UInt8} {c c' : σ}
    (h : (receiveTextLoop sys rounds acc).run c = .ok out c') : acc <+: out := by
  induction rounds generalizing acc c with
  | zero => cases h
  | succ rounds ih =>
      rw [receiveTextLoop, EStateM.run_bind] at h
      cases hm : (recvMessage sys).run c with
      | error e s => simp [hm] at h
      | ok message s =>
          simp only [hm] at h
          cases message with
          | nil => cases h
          | cons messageType payload =>
              simp only [ne_eq, ite_not] at h
              split at h
              · simp only [EStateM.run_pure, EStateM.Result.ok.injEq] at h
                exact h.1 ▸ List.prefix_append _ _
              · exact (List.prefix_append _ _).trans (ih h)

/-- The loop of `Network::ReceiveText` over the frames of what is left of a text,
when no read leaves one byte. -/
lemma receiveTextLoop_whole (xs : List UInt8) {rest acc : List UInt8} {c : Channel} (hne : xs ≠ [])
    (hwire : c.wire = (pieces 254 xs).flatMap frameBytes ++ rest)
    (hreads : WholeReads sch.hands c.recvs ((pieces 254 xs).map fun p => p.2.length + 1)) {r : ℕ}
    (hr : (pieces 254 xs).length ≤ r) :
    (receiveTextLoop (channel sch) r acc).run c = .ok (acc ++ xs) { c with
      wire := rest
      recvs := turnAfter sch.hands c.recvs ((pieces 254 xs).map fun p => p.2.length + 1) } := by
  induction xs using pieces_induction (k := 254) generalizing acc c r with
  | hnil => exact absurd rfl hne
  | hshort xs hne h =>
      have hpos := List.length_pos_iff.mpr hne
      rw [pieces_short hne h] at *
      obtain ⟨r, rfl⟩ : ∃ r', r = r' + 1 := ⟨r - 1, by simp at hr; omega⟩
      rw [receiveTextLoop, EStateM.run_bind, recvMessage_whole (p := (true, xs)) ⟨hpos, h⟩
        (by simpa using hwire) (by simpa [WholeReads] using hreads)]
      simp
  | hlong xs h ih =>
      have htake : (xs.take 254).length = 254 := by rw [List.length_take]; omega
      have hdrop : xs.drop 254 ≠ [] := by
        intro h0
        have := congrArg List.length h0
        rw [List.length_drop, List.length_nil] at this
        omega
      rw [pieces_long h] at *
      rw [List.flatMap_cons, List.append_assoc] at hwire
      rw [List.map_cons, WholeReads] at hreads
      rw [List.length_cons] at hr
      obtain ⟨r, rfl⟩ : ∃ r', r = r' + 1 := ⟨r - 1, by omega⟩
      rw [receiveTextLoop, EStateM.run_bind,
        recvMessage_whole (by rw [htake]; omega) hwire hreads.1]
      have hmore : typeMore ≠ typeLast := by decide
      simp only [Bool.false_eq_true, if_false, hmore, ne_eq, not_false_eq_true, if_true]
      rw [ih hdrop rfl hreads.2 (by omega), List.append_assoc, List.take_append_drop]
      simp [turnAfter]

/-- A frame with a read that leaves one byte puts a `0` into the buffer. -/
lemma receiveTextLoop_frame_short {p : Bool × List UInt8} {rest acc out : List UInt8}
    {c c' : Channel} (hlen : 1 ≤ p.2.length ∧ p.2.length ≤ 254)
    (hwire : c.wire = frameBytes p ++ rest)
    (hreads : 1 ∈ bodyReads sch.hands (c.recvs + 1) (p.2.length + 1)) {r : ℕ}
    (h : (receiveTextLoop (channel sch) r acc).run c = .ok out c') :
    0 ∈ out.take (acc.length + p.2.length) := by
  have hpre : acc ++ (p.2.take (p.2.length - 1) ++ [0]) <+: out := by
    cases r with
    | zero => nomatch h
    | succ r =>
        obtain ⟨s, hs⟩ := recvMessage_short hlen hwire hreads
        rw [receiveTextLoop, EStateM.run_bind, hs] at h
        by_cases hlast : p.1 = true
        · simp only [hlast, if_true, ne_eq, not_true_eq_false, if_false, EStateM.run_pure,
            EStateM.Result.ok.injEq] at h
          exact h.1 ▸ List.prefix_rfl
        · have hmore : typeMore ≠ typeLast := by decide
          simp only [hlast] at h
          rw [if_pos (by simpa using hmore)] at h
          exact receiveTextLoop_prefix _ h
  have hfits : (acc ++ (p.2.take (p.2.length - 1) ++ [0])).length ≤ acc.length + p.2.length := by
    simp only [List.length_append, List.length_take, List.length_singleton]
    omega
  exact (List.prefix_take_iff.mpr ⟨hpre, hfits⟩).subset (by simp)

/-- If some read of a frame leaves one byte, whatever is read has a `0` in it
before the length of the text is reached. -/
lemma receiveTextLoop_short (xs : List UInt8) {rest acc out : List UInt8} {c c' : Channel}
    (hwire : c.wire = (pieces 254 xs).flatMap frameBytes ++ rest)
    (hreads : ¬WholeReads sch.hands c.recvs ((pieces 254 xs).map fun p => p.2.length + 1)) {r : ℕ}
    (h : (receiveTextLoop (channel sch) r acc).run c = .ok out c') :
    0 ∈ out.take (acc.length + xs.length) := by
  induction xs using pieces_induction (k := 254) generalizing acc c r with
  | hnil => exact absurd (by simp [WholeReads]) hreads
  | hshort xs hne hle =>
      have hpos := List.length_pos_iff.mpr hne
      rw [pieces_short hne hle] at *
      exact receiveTextLoop_frame_short (p := (true, xs)) ⟨hpos, hle⟩ (by simpa using hwire)
        (by simpa [WholeReads] using hreads) h
  | hlong xs hlt ih =>
      have htake : (xs.take 254).length = 254 := by rw [List.length_take]; omega
      rw [pieces_long hlt] at *
      rw [List.flatMap_cons, List.append_assoc] at hwire
      rw [List.map_cons, WholeReads, not_and_or, not_not] at hreads
      have hlen : 1 ≤ (xs.take 254).length ∧ (xs.take 254).length ≤ 254 := by rw [htake]; omega
      by_cases h1 : 1 ∈ bodyReads sch.hands (c.recvs + 1) ((xs.take 254).length + 1)
      · have hzero := receiveTextLoop_frame_short (p := (false, xs.take 254)) hlen hwire h1 h
        exact (List.take_subset_take_left _ (by simp only [htake]; omega)) hzero
      · cases r with
        | zero => cases h
        | succ r =>
            rw [receiveTextLoop, EStateM.run_bind,
              recvMessage_whole (p := (false, xs.take 254)) hlen hwire h1] at h
            have hmore : typeMore ≠ typeLast := by decide
            simp only [Bool.false_eq_true, if_false, hmore, ne_eq, not_false_eq_true, if_true] at h
            have hzero := ih rfl (hreads.resolve_left h1) h
            rwa [List.length_append, htake, List.length_drop,
              show acc.length + 254 + (xs.length - 254) = acc.length + xs.length from by omega]
              at hzero

/-- A buffer without a NUL is read as a whole. -/
lemma cString_append_zero (text : Text) : cString (text.bytes ++ [0]) = text := by
  apply Text.ext_bytes
  have hall : ∀ b ∈ text.bytes, decide (b ≠ 0) = true := fun b hb => by
    simpa using fun h0 : b = 0 => text.nul_free (h0 ▸ hb)
  show (text.bytes ++ [0]).takeWhile (fun b => decide (b ≠ 0)) = text.bytes
  rw [List.takeWhile_append_of_pos hall]
  simp

/-- A buffer with a NUL is read up to it at most. -/
lemma length_cString_lt {buffer : List UInt8} {n : ℕ} (h : 0 ∈ buffer.take n) :
    (cString buffer).bytes.length < n := by
  by_contra hle
  have hpre : buffer.take n <+: (cString buffer).bytes :=
    List.prefix_of_prefix_length_le (List.take_prefix _ _) (List.takeWhile_prefix _)
      ((List.length_take_le _ _).trans (not_lt.mp hle))
  exact (cString buffer).nul_free (hpre.subset h)

/-- One text is read back, given enough rounds. -/
lemma receiveText_whole {t : Text} {rest : List UInt8} {c : Channel} (hne : t.bytes ≠ [])
    (hwire : c.wire = (frames t).flatMap frameBytes ++ rest)
    (hreads : WholeReads sch.hands c.recvs ((frames t).map fun p => p.2.length + 1)) {r : ℕ}
    (hr : (frames t).length ≤ r) :
    (receiveText (channel sch) r).run c = .ok t { c with
      wire := rest
      recvs := turnAfter sch.hands c.recvs ((frames t).map fun p => p.2.length + 1) } := by
  rw [receiveText, EStateM.run_bind, receiveTextLoop_whole t.bytes hne hwire hreads hr]
  simp [cString_append_zero, frames]

/-- If some read of a frame of the text leaves one byte, the text read is another. -/
lemma receiveText_short {t t' : Text} {rest : List UInt8} {c c' : Channel}
    (hwire : c.wire = (frames t).flatMap frameBytes ++ rest)
    (hreads : ¬WholeReads sch.hands c.recvs ((frames t).map fun p => p.2.length + 1)) {r : ℕ}
    (h : (receiveText (channel sch) r).run c = .ok t' c') : t' ≠ t := by
  rw [receiveText, EStateM.run_bind] at h
  cases hloop : (receiveTextLoop (channel sch) r []).run c with
  | error e s => simp [hloop] at h
  | ok out s =>
      simp only [hloop, EStateM.run_pure, EStateM.Result.ok.injEq] at h
      have hzero := receiveTextLoop_short t.bytes hwire hreads hloop
      rw [List.length_nil, zero_add] at hzero
      have hsub : out.take t.bytes.length ⊆ (out ++ [0]).take t.bytes.length := by
        rw [List.take_append]
        exact List.subset_append_left _ _
      have hlt := length_cString_lt (hsub hzero)
      rintro rfl
      rw [h.1] at hlt
      exact lt_irrefl _ hlt

lemma wireOf_cons (t : Text) (ts : List Text) :
    wireOf (t :: ts) = (frames t).flatMap frameBytes ++ wireOf ts := rfl

lemma wireOf_append (ts us : List Text) : wireOf (ts ++ us) = wireOf ts ++ wireOf us :=
  List.flatMap_append

lemma bodyLengths_cons (t : Text) (ts : List Text) :
    bodyLengths (t :: ts) = ((frames t).map fun p => p.2.length + 1) ++ bodyLengths ts := rfl

lemma bodyLengths_append (ts us : List Text) :
    bodyLengths (ts ++ us) = bodyLengths ts ++ bodyLengths us := List.flatMap_append

/-- No text has more frames than all of them together. -/
lemma length_frames_le {t : Text} {texts : List Text} (ht : t ∈ texts) :
    (frames t).length ≤ (bodyLengths texts).length := by
  induction texts with
  | nil => simp at ht
  | cons u us ih =>
      rw [bodyLengths_cons, List.length_append, List.length_map]
      rcases List.mem_cons.mp ht with rfl | hu
      · exact Nat.le_add_right _ _
      · exact (ih hu).trans (Nat.le_add_left _ _)

/-- Texts are read back one after another as long as no read leaves one byte. -/
lemma receiveTexts_whole (texts : List Text) (rest : List UInt8) {c : Channel}
    (hne : ∀ t ∈ texts, t.bytes ≠ []) (hwire : c.wire = wireOf texts ++ rest)
    (hreads : WholeReads sch.hands c.recvs (bodyLengths texts)) {r : ℕ}
    (hr : ∀ t ∈ texts, (frames t).length ≤ r) :
    ∃ c', (receiveTexts (channel sch) r texts.length).run c = .ok texts c' ∧ c'.wire = rest := by
  induction texts generalizing c with
  | nil => exact ⟨c, rfl, by simpa [wireOf] using hwire⟩
  | cons t ts ih =>
      rw [wireOf_cons, List.append_assoc] at hwire
      rw [bodyLengths_cons, wholeReads_append] at hreads
      have ht := receiveText_whole (hne t List.mem_cons_self) hwire hreads.1
        (hr t List.mem_cons_self)
      obtain ⟨c', hrun, hrest⟩ := ih (c := ⟨_, c.sends, _⟩)
        (fun u hu => hne u (List.mem_cons_of_mem _ hu)) rfl hreads.2
        (fun u hu => hr u (List.mem_cons_of_mem _ hu))
      refine ⟨c', ?_, hrest⟩
      rw [List.length_cons, receiveTexts, EStateM.run_bind, ht]
      simp only [EStateM.run_bind, hrun, EStateM.run_pure]

/-- Texts that are read back have no read that leaves one byte. -/
lemma wholeReads_of_receiveTexts (texts : List Text) (rest : List UInt8) {c c' : Channel}
    (hne : ∀ t ∈ texts, t.bytes ≠ []) (hwire : c.wire = wireOf texts ++ rest) {r : ℕ}
    (hr : ∀ t ∈ texts, (frames t).length ≤ r)
    (h : (receiveTexts (channel sch) r texts.length).run c = .ok texts c') :
    WholeReads sch.hands c.recvs (bodyLengths texts) := by
  induction texts generalizing c with
  | nil => trivial
  | cons t ts ih =>
      rw [wireOf_cons, List.append_assoc] at hwire
      rw [bodyLengths_cons, wholeReads_append]
      rw [List.length_cons, receiveTexts, EStateM.run_bind] at h
      have hfirst : WholeReads sch.hands c.recvs ((frames t).map fun p => p.2.length + 1) := by
        by_contra hbad
        cases ht : (receiveText (channel sch) r).run c with
        | error e s => simp [ht] at h
        | ok t' s =>
            simp only [ht, EStateM.run_bind] at h
            cases hts : (receiveTexts (channel sch) r ts.length).run s with
            | error e s' => simp [hts] at h
            | ok ts' s' =>
                simp only [hts, EStateM.run_pure, EStateM.Result.ok.injEq, List.cons.injEq] at h
                exact receiveText_short hwire hbad ht h.1.1
      refine ⟨hfirst, ?_⟩
      rw [receiveText_whole (hne t List.mem_cons_self) hwire hfirst (hr t List.mem_cons_self)] at h
      simp only [EStateM.run_bind] at h
      refine ih (fun u hu => hne u (List.mem_cons_of_mem _ hu)) (c := ⟨_, c.sends, _⟩) rfl
        (fun u hu => hr u (List.mem_cons_of_mem _ hu)) ?_
      split at h
      · rename_i ts' s' hts
        simp only [EStateM.run_pure, EStateM.Result.ok.injEq, List.cons.injEq, true_and] at h
        rw [hts, h.1, h.2]
      · exact nomatch h

end Reader

/-! ### The round trip -/

section RoundTrip

variable {sch : Schedule}

lemma wholeReads_of_roundTrip (hfair : sch.Fair) {texts : List Text}
    (hne : ∀ t ∈ texts, t.bytes ≠ []) (h : RoundTrip sch texts) :
    WholeReads sch.hands 0 (bodyLengths texts) := by
  obtain ⟨r₀, sent, h⟩ := h
  obtain ⟨r₁, k, hsent⟩ := sends_sendTexts hfair texts Channel.init
  obtain ⟨hsend, hreceive⟩ := h (max r₀ (max r₁ (bodyLengths texts).length)) (le_max_left _ _)
  have hsame := hsend.symm.trans (hsent _ (by omega))
  simp only [EStateM.Result.ok.injEq, true_and] at hsame
  obtain ⟨c, hrun, -⟩ := hreceive texts.length le_rfl
  rw [List.take_length, hsame] at hrun
  exact wholeReads_of_receiveTexts texts [] hne (by simp [Channel.init])
    (fun t ht => (length_frames_le ht).trans (by omega)) hrun

lemma roundTrip_of_wholeReads (hfair : sch.Fair) {texts : List Text}
    (hne : ∀ t ∈ texts, t.bytes ≠ []) (hreads : WholeReads sch.hands 0 (bodyLengths texts)) :
    RoundTrip sch texts := by
  obtain ⟨r₁, k, hsent⟩ := sends_sendTexts hfair texts Channel.init
  refine ⟨max r₁ (bodyLengths texts).length, ⟨wireOf texts, k, 0⟩, fun r hr => ⟨?_, ?_⟩⟩
  · exact hsent r (by omega)
  · intro m hm
    have hsplit := List.take_append_drop m texts
    have hmem : ∀ t ∈ texts.take m, t ∈ texts := fun t ht => List.mem_of_mem_take ht
    rw [← hsplit, bodyLengths_append, wholeReads_append] at hreads
    have h := receiveTexts_whole (texts.take m) (wireOf (texts.drop m))
      (c := ⟨wireOf texts, k, 0⟩) (fun t ht => hne t (hmem t ht))
      (by rw [← wireOf_append, hsplit]) hreads.1
      (fun t ht => (length_frames_le (hmem t ht)).trans (by omega : _ ≤ r))
    rwa [List.length_take, Nat.min_eq_left hm] at h

/-- **The texts come back exactly when no read leaves one byte of a frame.** -/
theorem round_trip_iff (hfair : sch.Fair) (texts : List Text) (hne : ∀ t ∈ texts, t.bytes ≠ []) :
    RoundTrip sch texts ↔ WholeReads sch.hands 0 (bodyLengths texts) :=
  ⟨wholeReads_of_roundTrip hfair hne, roundTrip_of_wholeReads hfair hne⟩

end RoundTrip

/-- Reads that always hand back all that is requested leave nothing. -/
lemma wholeReads_of_full {hands : ℕ → ℕ} (hfull : ∀ k, bufferLength ≤ hands k) {lengths : List ℕ}
    (hlengths : ∀ l ∈ lengths, l ≤ bufferLength) (turn : ℕ) : WholeReads hands turn lengths := by
  induction lengths generalizing turn with
  | nil => trivial
  | cons l ls ih =>
      refine ⟨?_, ih (fun k hk => hlengths k (List.mem_cons_of_mem _ hk)) _⟩
      have hl := hlengths l List.mem_cons_self
      have hmax := (hfull (turn + 1)).trans (le_max_right 1 _)
      rcases Nat.eq_zero_or_pos l with rfl | hpos
      · simp
      · rw [bodyReads_of_pos hpos, Nat.sub_eq_zero_of_le (hl.trans hmax)]
        simp

lemma le_of_mem_bodyLengths {texts : List Text} {l : ℕ} (hl : l ∈ bodyLengths texts) :
    l ≤ bufferLength := by
  simp only [bodyLengths, List.mem_flatMap, List.mem_map] at hl
  obtain ⟨t, -, p, hp, rfl⟩ := hl
  have hlen : p.2.length ≤ 254 := (length_of_mem_pieces hp).2
  exact (Nat.add_le_add_right hlen 1).trans (by decide)

/-- Under such reads a text is received. -/
lemma receiveText_full {sch : Schedule} (hfull : ∀ k, bufferLength ≤ sch.hands k) {t : Text}
    (hne : t.bytes ≠ []) (c : Channel) (hwire : c.wire = wireOf [t]) {r : ℕ}
    (hr : (frames t).length ≤ r) : ∃ c', (receiveText (channel sch) r).run c = .ok t c' := by
  have hlengths : ∀ l ∈ (frames t).map (fun p => p.2.length + 1), l ≤ bufferLength := by
    intro l hl
    refine le_of_mem_bodyLengths (?_ : l ∈ bodyLengths [t])
    rwa [bodyLengths_cons, bodyLengths, List.flatMap_nil, List.append_nil]
  exact ⟨_, receiveText_whole hne (hwire.trans (wireOf_cons t []))
    (wholeReads_of_full hfull hlengths _) hr⟩

/-- Three bytes taken and whole requests handed back at a time. -/
theorem round_trip_full :
    RoundTrip ⟨fun _ => 3, fun _ => 256⟩
      [⟨[108, 115], by decide⟩, ⟨[112, 119, 100], by decide⟩] :=
  (round_trip_iff (fun k => ⟨k, le_rfl, Nat.succ_pos 2⟩) _ (by decide)).mpr
    (wholeReads_of_full (fun _ => le_rfl) (fun _ => le_of_mem_bodyLengths) 0)

/-- The text `A`, read one byte at a time, comes back as another. -/
theorem not_round_trip_single : ¬RoundTrip ⟨fun _ => 1, fun _ => 1⟩ [⟨[65], by decide⟩] := by
  intro h
  have hreads := wholeReads_of_roundTrip (fun k => ⟨k, le_rfl, Nat.succ_pos 0⟩) (by decide) h
  rw [bodyLengths_cons, frames, pieces_short (by simp) (by simp)] at hreads
  simp [WholeReads, bodyReads_of_pos] at hreads

end Slas.Network
