import Mathlib
import Slas.Network.WebClient
import Slas.Network.ReceiveSafe

/-!
The receive loops of `libslas/src/network/network.cpp` and of the web client,
`web/slas-web/network/network.py`, when the peer stops sending.

* `WebClient.recvMessage`: `Network.recv_message`;
* `Results`, `answers`: what the operating system may answer, in any sequence, and the
  system calls that answer so; `recorded`: the same with a record of the requests;
* `CutOff`: the peer closes the connection inside a frame;
* `ReceivingEnds`: both receivers leave their loops, with a message as long as announced
  or an exception, and every round has less to receive;
* `receiving_ends_iff`: they do exactly if no frame is cut off by a closed connection.

`Network::Recv` raises on the empty result of a closed connection. `recv_message` adds it
to its message and asks again.
-/

namespace Slas.Network

/-! ### The receiver of the web client -/

namespace WebClient

variable {σ : Type} (sys : SystemInterface σ)

/-- `Network.wait_for_data`; an error of `select` raises. -/
def waitForData : ClientM σ WaitStatus := do
  let status ← modifyGet sys.poll
  if status < 0 then throw .socketError
  else if status > 0 then pure .newData
  else pure .timeout

/-- The wait in front of every `recv` of `Network.recv_message`. -/
def waitForNewData : ClientM σ Unit := do
  let wait_status ← waitForData sys
  if wait_status ≠ .newData then throw .timeoutException

/-- `socket.recv`, the result of which is empty when the peer has closed. -/
def recv (length : ℕ) : ClientM σ (List UInt8) := do
  match ← modifyGet (sys.recv length) with
  | none => throw .socketError
  | some received => pure received

/-- The loop of `Network.recv_message`. -/
def recvMessageLoop (messageLength : ℕ) : ℕ → List UInt8 → ClientM σ (List UInt8)
  | rounds, message =>
      if message.length < messageLength then
        match rounds with
        | 0 => throw .stillRunning
        | rounds + 1 => do
            let leftToReceive := messageLength - message.length
            waitForNewData sys
            let received ← recv sys leftToReceive
            recvMessageLoop messageLength rounds (message ++ received)
      else pure message

/-- `Network.recv_message`. -/
def recvMessage (rounds : ℕ) : ClientM σ (List UInt8) := do
  waitForNewData sys
  let received ← recv sys 1
  match received with
  | [length] => recvMessageLoop sys length.toNat rounds []
  | _ => throw .ioError

end WebClient

/-! ### What the operating system answers -/

/-- The answer to a wait and the `recv` after it. `bytes` are as many as were requested
at most, the first ones if more are given. -/
inductive Result where
  | bytes (received : List UInt8) (ne : received ≠ [])
  | timeout
  | pollError
  | recvError
  | closed

/-- How many bytes an answer brings. -/
def Result.length : Result → ℕ
  | .bytes received _ => received.length
  | _ => 0

/-- A sequence of answers. A connection that the peer has closed stays closed. -/
structure Results where
  get : ℕ → Result
  closed_succ : ∀ {i}, get i = .closed → get (i + 1) = .closed

/-- The system calls that answer by `results`, in the state of how many answers were used. -/
def answers (results : Results) : SystemInterface ℕ where
  poll i := match results.get i with
    | .timeout => (0, i + 1)
    | .pollError => (-1, i + 1)
    | _ => (1, i)
  recv n i := match results.get i with
    | .bytes received _ => (some (received.take n), i + 1)
    | .closed => (some [], i + 1)
    | _ => (none, i + 1)
  send _ i := (none, i)
  recv_le := by
    intro n i bs h
    cases hget : results.get i <;> simp only [hget] at h
    case bytes received ne =>
      cases h
      exact List.length_take_le n received
    case closed =>
      cases h
      exact Nat.zero_le n
    all_goals cases h
  send_le := by
    intro bs i n h
    cases h

/-- The same system calls with a record of how many bytes were requested. -/
def recorded {σ : Type} (sys : SystemInterface σ) : SystemInterface (σ × List ℕ) where
  poll s := ((sys.poll s.1).1, (sys.poll s.1).2, s.2)
  recv n s := ((sys.recv n s.1).1, (sys.recv n s.1).2, s.2 ++ [n])
  send bs s := ((sys.send bs s.1).1, (sys.send bs s.1).2, s.2)
  recv_le := sys.recv_le
  send_le := sys.send_le

/-! ### The property -/

/-- The peer closes the connection after `k` answers from the `i`-th on, which bring less
than the `missing` bytes. -/
def CutOffFrom (results : Results) (i missing : ℕ) : Prop :=
  ∃ k, (∀ j < k, ∃ received ne, results.get (i + j) = .bytes received ne) ∧
    ∑ j ∈ Finset.range k, (results.get (i + j)).length < missing ∧
    results.get (i + k) = .closed

/-- The peer closes the connection between the length byte of a frame and its end. -/
def CutOff (results : Results) : Prop :=
  ∃ b bs ne, results.get 0 = .bytes (b :: bs) ne ∧ CutOffFrom results 1 b.toNat

/-- A receiver has left its loop with a message of the announced length or with an
exception, and after the length byte every round requested less than the one before. -/
def Left {ε : Type} (stillRunning : ε) (results : Results) :
    EStateM.Result ε (ℕ × List ℕ) (List UInt8) → Prop
  | .ok message (_, requests) =>
      (∃ b bs ne, results.get 0 = .bytes (b :: bs) ne ∧ message.length = b.toNat) ∧
        requests.tail.Pairwise (· > ·)
  | .error stop (_, requests) => stop ≠ stillRunning ∧ requests.tail.Pairwise (· > ·)

/-- Both receivers leave their loops. -/
structure ReceivingEnds (results : Results) : Prop where
  libslas : Left .stillRunning results ((recvMessage (recorded (answers results))).run (0, []))
  webClient : ∃ rounds,
    Left .stillRunning results
      ((WebClient.recvMessage (recorded (answers results)) rounds).run (0, []))

/-! ### One round -/

section Round

variable {σ : Type} {sys : SystemInterface σ} (results : Results)

lemma recv_of_some {n : ℕ} {bs : List UInt8} {s s' : σ} (h : sys.recv n s = (some bs, s'))
    (ne : bs ≠ []) (hle : bs.length ≤ n) : (recv sys n).run s = .ok ⟨bs, ne, hle⟩ s' := by
  simp only [EStateM.run, recv]
  split
  · next heq => rw [h] at heq; cases heq
  · next heq =>
      rw [h] at heq
      cases heq
      rw [dif_neg ne]

/-- Without bytes `Recv` raises, whether it fails or the peer has closed. -/
lemma recv_of_nothing {n : ℕ} {bs : Option (List UInt8)} {s s' : σ} (h : sys.recv n s = (bs, s'))
    (hnothing : bs.getD [] = []) : (recv sys n).run s = .error .recvException s' := by
  simp only [EStateM.run, recv]
  split
  · next heq =>
      rw [h] at heq
      cases heq
      rfl
  · next heq =>
      rw [h] at heq
      cases heq
      rw [dif_pos (by simpa using hnothing)]

lemma waitForNewData_answers (i : ℕ) (requests : List ℕ) :
    (waitForNewData (recorded (answers results))).run (i, requests) = match results.get i with
      | .timeout => .error .timeoutException (i + 1, requests)
      | .pollError => .error .pollException (i + 1, requests)
      | _ => .ok () (i, requests) := by
  cases hget : results.get i <;>
    simp [waitForNewData, waitForData, EStateM.run_bind, recorded, answers, hget]
  rfl

/-- A round of `Network::RecvMessage` gets bytes, or raises. -/
lemma round_cases {α : Type} {n : ℕ} (hn : 0 < n) (f : Received n → NetM (ℕ × List ℕ) α) (i : ℕ)
    (requests : List ℕ) :
    (∃ bytes ne, ∃ received : Received n, results.get i = .bytes bytes ne ∧
      received.1 = bytes.take n ∧
      (waitForNewData (recorded (answers results)) >>= fun _ =>
        recv (recorded (answers results)) n >>= f).run (i, requests)
        = (f received).run (i + 1, requests ++ [n])) ∨
    ∃ stop i' more, stop ≠ .stillRunning ∧ (more = [] ∨ more = [n]) ∧
      (waitForNewData (recorded (answers results)) >>= fun _ =>
        recv (recorded (answers results)) n >>= f).run (i, requests)
        = .error stop (i', requests ++ more) := by
  have hwait := waitForNewData_answers results i requests
  have hnothing : ∀ bs, (recorded (answers results)).recv n (i, requests)
      = (bs, i + 1, requests ++ [n]) → bs.getD [] = [] →
      (waitForNewData (recorded (answers results))).run (i, requests) = .ok () (i, requests) →
        (waitForNewData (recorded (answers results)) >>= fun _ =>
          recv (recorded (answers results)) n >>= f).run (i, requests)
          = .error .recvException (i + 1, requests ++ [n]) := by
    intro bs hrecv hbs hready
    rw [EStateM.run_bind, hready]
    simp only [EStateM.run_bind, recv_of_nothing hrecv hbs]
  cases hget : results.get i with
  | bytes bytes ne =>
      have hne : bytes.take n ≠ [] := by simp [ne, hn.ne']
      have hrecv : (recorded (answers results)).recv n (i, requests)
          = (some (bytes.take n), i + 1, requests ++ [n]) := by
        simp [recorded, answers, hget]
      refine .inl ⟨bytes, ne, ⟨bytes.take n, hne, List.length_take_le n bytes⟩, rfl, rfl, ?_⟩
      simp only [hget] at hwait
      rw [EStateM.run_bind, hwait]
      simp only [EStateM.run_bind, recv_of_some hrecv hne (List.length_take_le n bytes)]
  | timeout =>
      simp only [hget] at hwait
      exact .inr ⟨.timeoutException, i + 1, [], by simp, .inl rfl, by
        rw [EStateM.run_bind, hwait, List.append_nil]⟩
  | pollError =>
      simp only [hget] at hwait
      exact .inr ⟨.pollException, i + 1, [], by simp, .inl rfl, by
        rw [EStateM.run_bind, hwait, List.append_nil]⟩
  | recvError =>
      simp only [hget] at hwait
      refine .inr ⟨.recvException, i + 1, [n], by simp, .inr rfl, hnothing none ?_ rfl hwait⟩
      simp [recorded, answers, hget]
  | closed =>
      simp only [hget] at hwait
      refine .inr ⟨.recvException, i + 1, [n], by simp, .inr rfl, hnothing (some []) ?_ rfl hwait⟩
      simp [recorded, answers, hget]

/-- A round of `recv_message`, which takes the empty result for bytes. -/
lemma WebClient.round_run {α : Type} (n : ℕ) (f : List UInt8 → ClientM (ℕ × List ℕ) α) (i : ℕ)
    (requests : List ℕ) :
    (WebClient.waitForNewData (recorded (answers results)) >>= fun _ =>
      WebClient.recv (recorded (answers results)) n >>= f).run (i, requests)
    = match results.get i with
      | .bytes received _ => (f (received.take n)).run (i + 1, requests ++ [n])
      | .timeout => .error .timeoutException (i + 1, requests)
      | .pollError => .error .socketError (i + 1, requests)
      | .recvError => .error .socketError (i + 1, requests ++ [n])
      | .closed => (f []).run (i + 1, requests ++ [n]) := by
  cases hget : results.get i <;>
    simp [WebClient.waitForNewData, WebClient.waitForData, WebClient.recv, EStateM.run_bind,
      recorded, answers, hget]
  all_goals rfl

end Round

/-! ### The loops -/

section Loops

variable {results : Results}

/-- A loop that began with `missing` bytes missing and `requests` made has ended, and its
own requests drop from `missing` on. -/
def Ends {ε : Type} (stillRunning : ε) (messageLength missing : ℕ) (requests : List ℕ) :
    EStateM.Result ε (ℕ × List ℕ) (List UInt8) → Prop
  | .ok message (_, requests') => message.length = messageLength ∧
      ∃ more, requests' = requests ++ more ∧ more.Pairwise (· > ·) ∧ ∀ n ∈ more, n ≤ missing
  | .error stop (_, requests') => stop ≠ stillRunning ∧
      ∃ more, requests' = requests ++ more ∧ more.Pairwise (· > ·) ∧ ∀ n ∈ more, n ≤ missing

/-- A round in front, after which less is missing. -/
lemma Ends.cons {ε : Type} {stillRunning : ε} {messageLength missing missing' : ℕ}
    {requests : List ℕ} {r : EStateM.Result ε (ℕ × List ℕ) (List UInt8)}
    (h : Ends stillRunning messageLength missing' (requests ++ [missing]) r)
    (hless : missing' < missing) : Ends stillRunning messageLength missing requests r := by
  have hmore : ∀ more : List ℕ, more.Pairwise (· > ·) → (∀ n ∈ more, n ≤ missing') →
      (missing :: more).Pairwise (· > ·) ∧ ∀ n ∈ missing :: more, n ≤ missing := by
    intro more hpairwise hle
    refine ⟨List.pairwise_cons.mpr ⟨fun n hn => (hle n hn).trans_lt hless, hpairwise⟩, ?_⟩
    rintro n (_ | ⟨_, hn⟩)
    · exact le_rfl
    · exact (hle n hn).trans hless.le
  cases r with
  | ok message s =>
      obtain ⟨hlength, more, hrequests, hpairwise, hle⟩ := h
      exact ⟨hlength, missing :: more, by rw [hrequests, List.append_assoc]; rfl,
        hmore more hpairwise hle⟩
  | error stop s =>
      obtain ⟨hstop, more, hrequests, hpairwise, hle⟩ := h
      exact ⟨hstop, missing :: more, by rw [hrequests, List.append_assoc]; rfl,
        hmore more hpairwise hle⟩

/-- The loop of `Network::RecvMessage` ends on any answers. -/
lemma ends_recvMessageLoop {messageLength total : ℕ} {message : List UInt8}
    (hlength : message.length = messageLength) (hbyte : messageLength < 256) (htotal : 1 ≤ total)
    (i : ℕ) (requests : List ℕ) :
    Ends .stillRunning messageLength (messageLength + 1 - total) requests
      ((recvMessageLoop (recorded (answers results)) messageLength total message).run
        (i, requests)) := by
  induction hleft : messageLength - total using Nat.strong_induction_on
    generalizing total message i requests with
  | _ left ih =>
      rw [recvMessageLoop]
      split_ifs with hmore
      · have hbuffer : bufferLength = 256 := rfl
        simp only []
        generalize hrequest : (if messageLength + 1 - total > bufferLength then bufferLength
          else messageLength + 1 - total) = request
        rw [if_neg (by omega)] at hrequest
        rcases round_cases results (show 0 < request by omega) (fun received =>
            recvMessageLoop (recorded (answers results)) messageLength (total + received.1.length)
              (memcpy message (total - 1) received.1)) i requests with
          ⟨bytes, ne, received, -, -, hrun⟩ | ⟨stop, i', more, hstop, hmore', hrun⟩
        · have hpos := List.length_pos_iff.mpr received.2.1
          have hle := received.2.2
          have hfits : total - 1 + received.1.length ≤ message.length := by omega
          rw [hrun]
          subst hrequest
          exact (ih _ (by omega) ((length_memcpy hfits).trans hlength) (by omega) _ _ rfl).cons
            (by omega)
        · rw [hrun]
          subst hrequest
          refine ⟨hstop, more, rfl, ?_⟩
          rcases hmore' with rfl | rfl
          · simp
          · simp
      · exact ⟨hlength, [], (List.append_nil _).symm, List.Pairwise.nil, by simp⟩

lemma CutOffFrom.missing_pos {i missing : ℕ} (h : CutOffFrom results i missing) : 0 < missing := by
  obtain ⟨k, -, hsum, -⟩ := h
  omega

/-- Bytes in front bring the end of the connection no nearer to the end of the frame. -/
lemma cutOffFrom_of_bytes {i missing : ℕ} {bytes : List UInt8} {ne : bytes ≠ []}
    (hget : results.get i = .bytes bytes ne) :
    CutOffFrom results i missing ↔
      CutOffFrom results (i + 1) (missing - (bytes.take missing).length) := by
  have hlength : (results.get i).length = bytes.length := by rw [hget]; rfl
  have hshift : ∀ j, i + (j + 1) = i + 1 + j := fun j => by omega
  have hrest : ∀ k, ∑ j ∈ Finset.range (k + 1), (results.get (i + j)).length
      = ∑ j ∈ Finset.range k, (results.get (i + 1 + j)).length + bytes.length := fun k => by
    rw [Finset.sum_range_succ', Nat.add_zero, hlength]
    exact congrArg (· + bytes.length) (Finset.sum_congr rfl fun j _ => by rw [hshift])
  rw [List.length_take]
  constructor
  · rintro ⟨k, hbytes, hsum, hclosed⟩
    cases k with
    | zero => simp [hget] at hclosed
    | succ k =>
        rw [hrest] at hsum
        rw [hshift] at hclosed
        exact ⟨k, fun j hj => hshift j ▸ hbytes (j + 1) (by omega), by omega, hclosed⟩
  · rintro ⟨k, hbytes, hsum, hclosed⟩
    refine ⟨k + 1, fun j hj => ?_, ?_, by rw [hshift]; exact hclosed⟩
    · cases j with
      | zero => exact ⟨bytes, ne, hget⟩
      | succ j =>
          rw [hshift]
          exact hbytes j (by omega)
    · rw [hrest]
      omega

/-- Other answers end the frame before the peer can. -/
lemma not_cutOffFrom {i missing : ℕ} {result : Result} (hget : results.get i = result)
    (hbytes : ∀ bytes ne, result ≠ .bytes bytes ne) (hclosed : result ≠ .closed) :
    ¬CutOffFrom results i missing := by
  rintro ⟨k, hall, -, hend⟩
  cases k with
  | zero => exact hclosed (hget ▸ hend)
  | succ k =>
      obtain ⟨bytes, ne, hfirst⟩ := hall 0 (Nat.succ_pos k)
      exact hbytes bytes ne (hget ▸ hfirst)

/-- A closed connection stays inside the frame. -/
lemma cutOffFrom_of_closed {i missing : ℕ} (hget : results.get i = .closed) :
    CutOffFrom results i missing ↔ 0 < missing :=
  ⟨CutOffFrom.missing_pos, fun h => ⟨0, by simp, by simpa using h, hget⟩⟩

/-- The loop of `recv_message` ends where the peer does not close too early. -/
lemma WebClient.ends_recvMessageLoop {messageLength rounds : ℕ} {message : List UInt8} {i : ℕ}
    (hle : message.length ≤ messageLength) (hrounds : messageLength - message.length ≤ rounds)
    (hnot : ¬CutOffFrom results i (messageLength - message.length)) (requests : List ℕ) :
    Ends .stillRunning messageLength (messageLength - message.length) requests
      ((WebClient.recvMessageLoop (recorded (answers results)) messageLength rounds message).run
        (i, requests)) := by
  induction rounds generalizing message i requests with
  | zero =>
      rw [WebClient.recvMessageLoop, if_neg (by omega)]
      exact ⟨by omega, [], (List.append_nil _).symm, List.Pairwise.nil, by simp⟩
  | succ rounds ih =>
      rw [WebClient.recvMessageLoop]
      split_ifs with hmore
      · show Ends _ _ _ _ ((WebClient.waitForNewData (recorded (answers results)) >>= fun _ =>
          WebClient.recv (recorded (answers results)) (messageLength - message.length)
            >>= fun received =>
            WebClient.recvMessageLoop (recorded (answers results)) messageLength rounds
              (message ++ received)).run (i, requests))
        rw [WebClient.round_run results]
        cases hget : results.get i with
        | bytes bytes ne =>
            have hpos := List.length_pos_iff.mpr ne
            have hleft : messageLength
                - (message ++ bytes.take (messageLength - message.length)).length
                = messageLength - message.length
                  - (bytes.take (messageLength - message.length)).length := by
              rw [List.length_append]
              omega
            have htake : 0 < (bytes.take (messageLength - message.length)).length ∧
                (bytes.take (messageLength - message.length)).length
                  ≤ messageLength - message.length := by
              rw [List.length_take]
              omega
            rw [cutOffFrom_of_bytes hget, ← hleft] at hnot
            exact (ih (by rw [List.length_append]; omega) (by omega) hnot _).cons (by omega)
        | timeout => exact ⟨nofun, [], (List.append_nil _).symm, List.Pairwise.nil, by simp⟩
        | pollError => exact ⟨nofun, [], (List.append_nil _).symm, List.Pairwise.nil, by simp⟩
        | recvError => exact ⟨nofun, [messageLength - message.length], rfl, by simp, by simp⟩
        | closed => exact absurd ((cutOffFrom_of_closed hget).mpr (by omega)) hnot
      · exact ⟨by omega, [], (List.append_nil _).symm, List.Pairwise.nil, by simp⟩

/-- Where the peer closes too early the loop of `recv_message` never ends. -/
lemma WebClient.recvMessageLoop_stillRunning {messageLength : ℕ} (rounds : ℕ) {message : List UInt8}
    {i : ℕ} (h : CutOffFrom results i (messageLength - message.length)) (requests : List ℕ) :
    ∃ s, (WebClient.recvMessageLoop (recorded (answers results)) messageLength rounds message).run
      (i, requests) = .error .stillRunning s := by
  induction rounds generalizing message i requests with
  | zero =>
      have hpos := h.missing_pos
      rw [WebClient.recvMessageLoop, if_pos (by omega)]
      exact ⟨_, rfl⟩
  | succ rounds ih =>
      have hpos := h.missing_pos
      rw [WebClient.recvMessageLoop, if_pos (by omega)]
      show ∃ s, (WebClient.waitForNewData (recorded (answers results)) >>= fun _ =>
        WebClient.recv (recorded (answers results)) (messageLength - message.length)
          >>= fun received =>
          WebClient.recvMessageLoop (recorded (answers results)) messageLength rounds
            (message ++ received)).run (i, requests) = _
      rw [WebClient.round_run results]
      cases hget : results.get i with
      | bytes bytes ne =>
          rw [cutOffFrom_of_bytes hget, ← Nat.sub_add_eq, ← List.length_append] at h
          exact ih h _
      | closed =>
          refine ih ?_ _
          rw [List.append_nil]
          exact (cutOffFrom_of_closed (results.closed_succ hget)).mpr hpos
      | timeout => exact absurd h (not_cutOffFrom hget nofun nofun)
      | pollError => exact absurd h (not_cutOffFrom hget nofun nofun)
      | recvError => exact absurd h (not_cutOffFrom hget nofun nofun)

end Loops

/-! ### The receivers -/

section Receivers

variable {results : Results}

/-- A loop that has ended after the length byte. -/
lemma Ends.left {ε : Type} {stillRunning : ε} {missing : ℕ} {b : UInt8} {bs : List UInt8}
    {ne : b :: bs ≠ []} {r : EStateM.Result ε (ℕ × List ℕ) (List UInt8)}
    (hget : results.get 0 = .bytes (b :: bs) ne) (h : Ends stillRunning b.toNat missing [1] r) :
    Left stillRunning results r := by
  cases r with
  | ok message s =>
      obtain ⟨hlength, more, hrequests, hpairwise, -⟩ := h
      refine ⟨⟨b, bs, ne, hget, hlength⟩, ?_⟩
      rw [hrequests]
      exact hpairwise
  | error stop s =>
      obtain ⟨hstop, more, hrequests, hpairwise, -⟩ := h
      refine ⟨hstop, ?_⟩
      rw [hrequests]
      exact hpairwise

/-- `Network::RecvMessage` ends whatever the peer does. -/
lemma left_recvMessage :
    Left .stillRunning results ((recvMessage (recorded (answers results))).run (0, [])) := by
  rw [recvMessage]
  rcases round_cases results Nat.one_pos (fun received =>
      recvMessageLoop (recorded (answers results)) (received.1.head received.2.1).toNat
        received.1.length (List.replicate (received.1.head received.2.1).toNat 0)) 0 [] with
    ⟨bytes, ne, received, hget, htake, hrun⟩ | ⟨stop, i', more, hstop, hmore, hrun⟩
  · obtain ⟨b, bs, rfl⟩ := List.exists_cons_of_ne_nil ne
    obtain ⟨_, hne, hle⟩ := received
    cases htake
    rw [hrun]
    have hbyte := b.toNat_lt
    exact (ends_recvMessageLoop (List.length_replicate ..) (by simpa using hbyte) le_rfl 1 [1]).left
      hget
  · rw [hrun]
    refine ⟨hstop, ?_⟩
    rcases hmore with rfl | rfl
    · simp
    · simp

/-- After the length byte `recv_message` is in its loop. -/
lemma WebClient.recvMessage_bytes {b : UInt8} {bs : List UInt8} {ne : b :: bs ≠ []}
    (hget : results.get 0 = .bytes (b :: bs) ne) (rounds : ℕ) :
    (WebClient.recvMessage (recorded (answers results)) rounds).run (0, [])
      = (WebClient.recvMessageLoop (recorded (answers results)) b.toNat rounds
        []).run (1, [1]) := by
  refine (WebClient.round_run results 1 _ 0 []).trans ?_
  rw [hget]
  rfl

/-- Without a length byte `recv_message` raises. -/
lemma WebClient.left_recvMessage_of_nothing (hget : ∀ bytes ne, results.get 0 ≠ .bytes bytes ne) :
    Left .stillRunning results
      ((WebClient.recvMessage (recorded (answers results)) 0).run (0, [])) := by
  have hrun : (WebClient.recvMessage (recorded (answers results)) 0).run (0, []) = _ :=
    WebClient.round_run results 1 _ 0 []
  rw [hrun]
  cases hfirst : results.get 0 with
  | bytes bytes ne => exact absurd hfirst (hget bytes ne)
  | timeout => exact ⟨nofun, List.Pairwise.nil⟩
  | pollError => exact ⟨nofun, List.Pairwise.nil⟩
  | recvError => exact ⟨nofun, List.Pairwise.nil⟩
  | closed => exact ⟨nofun, List.Pairwise.nil⟩

/-- `Network.recv_message` ends where the peer does not close the connection too early. -/
lemma exists_left_recvMessage (hnot : ¬CutOff results) :
    ∃ rounds, Left .stillRunning results
      ((WebClient.recvMessage (recorded (answers results)) rounds).run (0, [])) := by
  by_cases hfirst : ∃ b bs ne, results.get 0 = .bytes (b :: bs) ne
  · obtain ⟨b, bs, ne, hget⟩ := hfirst
    refine ⟨b.toNat, ?_⟩
    rw [WebClient.recvMessage_bytes hget]
    have hnot' : ¬CutOffFrom results 1 (b.toNat - ([] : List UInt8).length) := fun h =>
      hnot ⟨b, bs, ne, hget, h⟩
    exact (WebClient.ends_recvMessageLoop (Nat.zero_le _) (Nat.sub_le _ _) hnot' [1]).left hget
  · refine ⟨0, WebClient.left_recvMessage_of_nothing fun bytes ne hget => hfirst ?_⟩
    obtain ⟨b, bs, rfl⟩ := List.exists_cons_of_ne_nil ne
    exact ⟨b, bs, ne, hget⟩

/-- Where the peer closes too early `recv_message` does not end. -/
lemma CutOff.not_receivingEnds (h : CutOff results) : ¬ReceivingEnds results := by
  rintro ⟨-, rounds, hleft⟩
  obtain ⟨b, bs, ne, hget, hcut⟩ := h
  rw [WebClient.recvMessage_bytes hget] at hleft
  have hcut' : CutOffFrom results 1 (b.toNat - ([] : List UInt8).length) := hcut
  obtain ⟨s, hrun⟩ := WebClient.recvMessageLoop_stillRunning rounds hcut' [1]
  rw [hrun] at hleft
  exact hleft.1 rfl

end Receivers

/-- **Receiving ends exactly where no frame is cut off** by a peer that closes the
connection: `RecvMessage` ends always, `recv_message` asks a closed connection for the
missing bytes without end. -/
theorem receiving_ends_iff (results : Results) : ReceivingEnds results ↔ ¬CutOff results :=
  ⟨fun h hcut => hcut.not_receivingEnds h, fun hnot =>
    ⟨left_recvMessage, exists_left_recvMessage hnot⟩⟩

/-- The peer announces five bytes and closes the connection. -/
theorem not_receivingEnds_closed : ∃ results : Results,
    results.get 0 = .bytes [5] (List.cons_ne_nil 5 []) ∧ (∀ i, results.get (i + 1) = .closed) ∧
      ¬ReceivingEnds results := by
  refine ⟨⟨fun | 0 => .bytes [5] (List.cons_ne_nil 5 []) | _ + 1 => .closed, ?_⟩, rfl,
    fun _ => rfl, ?_⟩
  · rintro (_ | i) h
    · cases h
    · rfl
  · exact CutOff.not_receivingEnds ⟨5, [], List.cons_ne_nil 5 [], rfl,
      (cutOffFrom_of_closed rfl).mpr (by decide)⟩

end Slas.Network
