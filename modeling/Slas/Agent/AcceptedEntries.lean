import Mathlib
import Slas.Agent.ReceiveLoops
import Slas.Network.RoundTrip

/-!
Whether the server takes what the agent sends.

* `ApacheLogEntry.Accepted`: the handler of the server does not throw on the message;
* `Untimed`: a line whose numbers can be read and whose timestamp is none;
* `entries_accepted`: a text gives an entry that is not accepted if and only if it is
  such a line, and a loop that receives none of them forwards accepted entries only.
-/

namespace Slas.Agent

open Network (Client Event clients startLoop left)
open Pattern

variable {σ : Type}

/-- `apache::dbus::object::Apache::OwnMessageHandler` does not throw before it stores the
entry. -/
def ApacheLogEntry.Accepted (entry : ApacheLogEntry) : Prop :=
  (Apache.ownMessageHandler entry.message).isSome

lemma ApacheLogEntry.accepted_iff {entry : ApacheLogEntry} :
    entry.Accepted ↔ entry.time.Checked := by
  rw [Accepted, Apache.ownMessageHandler, Apache.AddLogEntry.logEntry?, Option.isSome_map,
    Option.isSome_map, Apache.AddLogEntry.time?, Timestamp.isSome_create?]
  rfl

/-- A line whose third field is not of the form of a timestamp, and whose status code and
size are numbers. -/
def Untimed (text : Text) : Prop :=
  ∃ fields, IsLine text.bytes fields ∧
    regexMatch timestampPattern (subMatch fields 3) = none ∧
    (∃ statusCode, stoi (subMatch fields 5) = .ok statusCode) ∧
    ∃ bytes, stoi (subMatch fields 6) = .ok bytes

/-- A time that has not been set is not accepted. -/
lemma not_checked_default : ¬({} : Timestamp).Checked := by decide

/-- The entry of a line is accepted unless the line has no timestamp. -/
lemma accepted_iff_not_untimed {agentName : Str} {text : Text} :
    (∀ entry, newLogEntry agentName text = .ok (some entry) → entry.Accepted) ↔ ¬Untimed text := by
  constructor
  · rintro h ⟨fields, hline, hnone, ⟨statusCode, hstatusCode⟩, bytes, hbytes⟩
    have hadded : logEntryOf agentName fields = .ok _ := logEntryOf_eq_ok_iff.mpr ⟨{}, statusCode,
      bytes, logTimestampToTimestamp_eq_ok_iff.mpr (.inr ⟨hnone, rfl⟩), hstatusCode, hbytes, rfl⟩
    have haccepted := h _ (newLogEntry_eq_ok_iff.mpr (.inl ⟨fields, _, hline, hadded, rfl⟩))
    have hchecked := ApacheLogEntry.accepted_iff.mp haccepted
    exact not_checked_default hchecked
  · intro htimed entry hentry
    rcases newLogEntry_eq_ok_iff.mp hentry with ⟨fields, added, hline, hadded, heq⟩ | ⟨-, heq⟩
    · obtain rfl := Option.some.inj heq
      obtain ⟨time, statusCode, bytes, htime, hstatusCode, hbytes, rfl⟩ :=
        logEntryOf_eq_ok_iff.mp hadded
      rw [ApacheLogEntry.accepted_iff]
      rcases logTimestampToTimestamp_eq_ok_iff.mp htime with ⟨-, hchecked⟩ | ⟨hnone, -⟩
      · exact hchecked
      · exact absurd ⟨fields, hline, hnone, ⟨statusCode, hstatusCode⟩, bytes, hbytes⟩ htimed
    · exact absurd heq nofun

/-- What is in the queue when the loop stops was made of texts that clients sent. -/
lemma exists_text_of_mem_queue {rounds : ℕ} {agentName : Str} {events : List (Event (Client σ))}
    {entry : ApacheLogEntry}
    (hentry : entry ∈ left
    ((startLoop (serveApache rounds agentName) events).run { state := [] })) :
    ∃ client ∈ clients events, ∃ text, Sends client text ∧
      newLogEntry agentName text = .ok (some entry) := by
  refine Network.startLoop_keeps (serves_apache rounds agentName)
    (P := fun queue => ∀ entry ∈ queue, ∃ client ∈ clients events, ∃ text, Sends client text ∧
      newLogEntry agentName text = .ok (some entry)) ?_ (r := { state := [] })
        (by simp) entry hentry
  intro client hclient queue hqueue queue' houtcome new hnew
  rcases houtcome with hok | ⟨exception, herror⟩
  · obtain ⟨text, added, htext, hadded, rfl⟩ := apacheOutcome_eq_ok_iff.mp hok
    rcases List.mem_append.mp hnew with hold | hnew
    · exact hqueue new hold
    · obtain rfl := Option.mem_toList.mp hnew
      exact ⟨client, hclient, text, ⟨rounds, htext⟩, hadded⟩
  · obtain rfl := apacheOutcome_error herror
    exact hqueue new hnew

/-- The server accepts the entry of every text that is no line without a timestamp, and
rejects it otherwise; a loop whose clients send no such line forwards accepted entries
only, in whatever way it ends. -/
theorem entries_accepted (agentName : Str) :
    (∀ text, (∀ entry, newLogEntry agentName text = .ok (some entry) → entry.Accepted) ↔
      ¬Untimed text) ∧
    ∀ (rounds : ℕ) (events : List (Event (Client σ))),
      (∀ client ∈ clients events, ∀ text, Sends client text → ¬Untimed text) →
      ∀ entry ∈ left ((startLoop (serveApache rounds agentName) events).run { state := [] }),
        entry.Accepted := by
  constructor
  · intro text
    exact accepted_iff_not_untimed
  · intro rounds events htimed entry hentry
    obtain ⟨client, hclient, text, hsends, hnew⟩ := exists_text_of_mem_queue hentry
    exact accepted_iff_not_untimed.mpr (htimed client hclient text hsends) entry hnew

/-! ### Two lines -/

/-- Reads that hand back all that is requested. -/
def readsAll : Network.Schedule := ⟨fun _ => 0, fun _ => Network.bufferLength⟩

/-- A client that sends a text, which is there whenever it is read. -/
def sending (text : Text) : Client Network.Channel where
  system := Network.channel readsAll
  world := ⟨Network.wireOf [text], 0, 0⟩

/-- A text of one frame is received. -/
lemma receiveText_sending {text : Text} (hne : text.bytes ≠ [])
    (hlength : text.bytes.length ≤ 254) :
    receiveText 1 (sending text) = .ok text := by
  have hframes : (Network.frames text).length ≤ 1 := by
    rw [Network.frames, Framing.pieces_short hne hlength, List.length_singleton]
  have hfull : ∀ k, Network.bufferLength ≤ readsAll.hands k := fun _ => le_rfl
  obtain ⟨_, hrun⟩ := Network.receiveText_full hfull hne (sending text).world rfl hframes
  rw [receiveText, Calls.mapError_eq_ok_iff]
  exact congrArg (Except.map Prod.fst) (Network.call_eq_ok_iff.mpr hrun)

/-- A line of a request at ten o'clock. -/
def timedLine : Text :=
  ⟨ascii "<a> <::1> <[01/Jan/2016:10:00:00 +0000]> <GET /> <200> <5> <b>", by decide⟩

def fieldsOfTimedLine : List Str :=
  [ascii "a", ascii "::1", ascii "[01/Jan/2016:10:00:00 +0000]", ascii "GET /", ascii "200",
    ascii "5", ascii "b"]

lemma isLine_timedLine : IsLine timedLine.bytes fieldsOfTimedLine := ⟨rfl, by decide, by decide⟩

/-- Its entry. -/
lemma exists_newLogEntry_timedLine :
    ∃ entry, newLogEntry [] timedLine = .ok (some entry) := by
  have htime : logTimestampToTimestamp (subMatch fieldsOfTimedLine 3)
      = .ok ⟨10, 0, 0, 1, 1, 2016⟩ :=
    logTimestampToTimestamp_eq_ok_iff.mpr (.inl ⟨⟨_, rfl, by decide⟩, by decide⟩)
  exact ⟨_, newLogEntry_eq_ok_iff.mpr (.inl ⟨_, _, isLine_timedLine,
    logEntryOf_eq_ok_iff.mpr ⟨_, 200, 5, htime, by decide, by decide, rfl⟩, rfl⟩)⟩

lemma not_untimed_timedLine : ¬Untimed timedLine := by
  rintro ⟨fields, hline, hnone, -⟩
  obtain rfl := hline.unique isLine_timedLine
  exact absurd hnone (by decide)

/-- The loop forwards one entry, which the server accepts. -/
theorem entries_accepted_timedLine : ∃ entry,
    left ((startLoop (serveApache 1 []) [.newData (sending timedLine)]).run { state := [] })
        = [entry] ∧ entry.Accepted := by
  have hreceive : receiveText 1 (sending timedLine) = .ok timedLine :=
    receiveText_sending (by decide) (by decide)
  obtain ⟨entry, hentry⟩ := exists_newLogEntry_timedLine
  have hsteps : Network.Steps (fun client s s' => (apacheOutcome 1 [] client).run s = .ok () s')
      (clients [.newData (sending timedLine)]) [] [entry] :=
    .cons (apacheOutcome_eq_ok_iff.mpr ⟨timedLine, some entry, hreceive, hentry, rfl⟩) (.nil _)
  have hleft : left ((startLoop (serveApache 1 []) [.newData (sending timedLine)]).run
      { state := [] }) = [entry] :=
    congrArg left ((Network.startLoop_ok_iff (serves_apache 1 [])).mpr ⟨[entry], hsteps, rfl⟩)
  refine ⟨entry, hleft, (entries_accepted []).2 1 _ (fun client hclient text hsends => ?_) entry
    (hleft ▸ List.mem_singleton_self _)⟩
  obtain rfl := List.mem_singleton.mp hclient
  rw [hsends.unique ⟨1, hreceive⟩]
  exact not_untimed_timedLine

/-- A line of a request whose time is missing. -/
def untimedLine : Text := ⟨ascii "<a> <::1> <-> <GET /> <200> <5> <b>", by decide⟩

/-- The server rejects the entry the agent forwards for this line. -/
theorem not_entry_accepted_untimedLine :
    ¬∀ entry, newLogEntry [] untimedLine = .ok (some entry) → entry.Accepted := by
  rw [accepted_iff_not_untimed, not_not]
  have hline : IsLine untimedLine.bytes
      [ascii "a", ascii "::1", ascii "-", ascii "GET /", ascii "200", ascii "5", ascii "b"] :=
    ⟨rfl, by decide, by decide⟩
  exact ⟨_, hline, by decide, ⟨200, by decide⟩, 5, by decide⟩

end Slas.Agent
