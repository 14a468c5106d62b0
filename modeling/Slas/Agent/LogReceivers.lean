import Mathlib
import Slas.Apache.DBusObject
import Slas.Lib.Calls
import Slas.Lib.Pattern
import Slas.Network.AcceptLoop
import Slas.Util.Stoi

/-!
The two threads of the agent that receive logs, `agent/src/apache/apache_log_receiver.cpp`
and `agent/src/bash/bash_log_receiver.cpp`.

* `Timestamp.set`, `logTimestampToTimestamp`, `newLogEntry`: what the agent makes of a
  line that Apache writes;
* `ApacheLogEntry.message`: what it sends to the server;
* `serveApache`, `serveBash`: the bodies of the loops of the two threads;
* `IsLine`, `EntryOf`: the lines that are matched, and the entries with their values.

The clock and the credentials are calls no client has a hand in; they succeed.
-/

namespace Slas.Agent

open MonadExcept (ofExcept)
open Network (Client LoopM accept call close onState)
open Pattern

/-- What a loop can stop with. -/
inductive Exception where
  | std (exception : StdException)
  | network (stop : Network.Stop)
  | wrongTimeValueException
  | wrongDateValueException
  deriving DecidableEq

/-! ### Timestamps -/

/-- `type::Timestamp`, which is all zeros until it is set. -/
structure Timestamp where
  hour : Int32 := 0
  minute : Int32 := 0
  second : Int32 := 0
  day : Int32 := 0
  month : Int32 := 0
  year : Int32 := 0
  deriving DecidableEq

/-- The server accepts the fields. -/
def Timestamp.Checked (time : Timestamp) : Prop :=
  CheckTime time.hour.toInt time.minute.toInt time.second.toInt ∧
    CheckDate time.day.toInt time.month.toInt time.year.toInt

instance (time : Timestamp) : Decidable time.Checked := inferInstanceAs (Decidable (_ ∧ _))

/-- `Timestamp::Set`. -/
def Timestamp.set (hour minute second day month year : Int32) : Except Exception Timestamp :=
  if ¬CheckTime hour.toInt minute.toInt second.toInt then .error .wrongTimeValueException
  else if ¬CheckDate day.toInt month.toInt year.toInt then .error .wrongDateValueException
  else .ok { hour, minute, second, day, month, year }

lemma Timestamp.set_eq_ok_iff {hour minute second day month year : Int32} {time : Timestamp} :
    Timestamp.set hour minute second day month year = .ok time ↔
      time = { hour, minute, second, day, month, year } ∧ time.Checked := by
  by_cases htime : CheckTime hour.toInt minute.toInt second.toInt
  · by_cases hdate : CheckDate day.toInt month.toInt year.toInt
    · simp only [Timestamp.set, htime, hdate, not_true, if_false, Except.ok.injEq,
        eq_comm (b := time), iff_self_and]
      rintro rfl
      exact ⟨htime, hdate⟩
    · simp only [Timestamp.set, htime, hdate, not_true, not_false_eq_true, if_true, if_false,
        reduceCtorEq, false_iff, not_and]
      rintro rfl hchecked
      exact hdate hchecked.2
  · simp only [Timestamp.set, htime, not_false_eq_true, if_true, reduceCtorEq, false_iff, not_and]
    rintro rfl hchecked
    exact htime hchecked.1

/-! ### The lines of Apache -/

/-- `ApacheLogReceiver::months`. -/
def months : List (Str × Int32) :=
  [(ascii "Jan", 1), (ascii "Feb", 2), (ascii "Mar", 3), (ascii "Apr", 4), (ascii "May", 5),
    (ascii "Jun", 6), (ascii "Jul", 7), (ascii "Aug", 8), (ascii "Sep", 9), (ascii "Oct", 10),
    (ascii "Nov", 11), (ascii "Dec", 12)]

/-- `months.at`. -/
def monthsAt (name : Str) : Except StdException Int32 :=
  match months.lookup name with
  | some month => .ok month
  | none => .error .outOfRange

/-- `[A-Za-z]`. -/
def isLetter (c : UInt8) : Bool :=
  (byte 'A' ≤ c && c ≤ byte 'Z') || (byte 'a' ≤ c && c ≤ byte 'z')

/-- `.`, which stands for no line terminator. -/
def isAny (c : UInt8) : Bool := c ≠ byte '\n' && c ≠ byte '\r'

/-- `^\[(\d*)/([A-Za-z]*)/(\d*):(\d*):(\d*):(\d*).*`. -/
def timestampPattern : List (Piece UInt8) :=
  [.char (byte '['), .group isDigit, .char (byte '/'), .group isLetter, .char (byte '/'),
    .group isDigit, .char (byte ':'), .group isDigit, .char (byte ':'), .group isDigit,
    .char (byte ':'), .group isDigit, .run isAny]

/-- `ApacheLogReceiver::LogTimestampToTimestamp`. -/
def logTimestampToTimestamp (timestamp : Str) : Except Exception Timestamp :=
  match regexMatch timestampPattern timestamp with
  | some groups => do
      let d ← (stoi (subMatch groups 1)).mapError .std
      let mo ← (monthsAt (subMatch groups 2)).mapError .std
      let y ← (stoi (subMatch groups 3)).mapError .std
      let h ← (stoi (subMatch groups 4)).mapError .std
      let m ← (stoi (subMatch groups 5)).mapError .std
      let s ← (stoi (subMatch groups 6)).mapError .std
      Timestamp.set h m s d mo y
  | none => .ok {}

/-- `<([^>]*)>`. -/
def fieldPattern : List (Piece UInt8) :=
  [.char (byte '<'), .group fun c => c ≠ byte '>', .char (byte '>')]

/-- Seven fields with a space between them. -/
def linePattern : List (Piece UInt8) :=
  [.char (byte ' ')].intercalate (List.replicate 7 fieldPattern)

/-- `type::ApacheLogEntry`. -/
structure ApacheLogEntry where
  agentName : Str
  virtualhost : Str
  clientIp : Str
  time : Timestamp
  request : Str
  statusCode : Int32
  bytes : Int32
  userAgent : Str
  deriving DecidableEq

/-- The entry that is made of the fields of a line. -/
def logEntryOf (agentName : Str) (groups : List Str) : Except Exception ApacheLogEntry := do
  let time ← logTimestampToTimestamp (subMatch groups 3)
  let statusCode ← (stoi (subMatch groups 5)).mapError .std
  let bytes ← (stoi (subMatch groups 6)).mapError .std
  pure {
    agentName
    virtualhost := subMatch groups 1
    clientIp := subMatch groups 2
    time
    request := subMatch groups 4
    statusCode
    bytes
    userAgent := subMatch groups 7 }

/-- The entry the loop adds to the queue for a text, if it adds one. -/
def newLogEntry (agentName : Str) (newLog : Text) : Except Exception (Option ApacheLogEntry) :=
  match regexMatch linePattern newLog.bytes with
  | some groups => (logEntryOf agentName groups).map some
  | none => .ok none

/-- `ApacheProxy::AddLogEntry`: the arguments of the message, the strings passed as
`c_str()`. -/
def ApacheLogEntry.message (entry : ApacheLogEntry) : Apache.AddLogEntry :=
  { agentName := cString entry.agentName
    virtualhost := cString entry.virtualhost
    clientIp := cString entry.clientIp
    hour := entry.time.hour
    minute := entry.time.minute
    second := entry.time.second
    day := entry.time.day
    month := entry.time.month
    year := entry.time.year
    request := cString entry.request
    statusCode := entry.statusCode
    bytes := entry.bytes
    userAgent := cString entry.userAgent }

/-! ### The lines of Bash -/

/-- `struct tm` as `gmtime` fills it, of a clock that is not before 1970. -/
structure Tm where
  hour : Int32
  min : Int32
  sec : Int32
  mday : Int32
  mon : Int32
  year : Int32
  hour_range : 0 ≤ hour.toInt ∧ hour.toInt ≤ 23
  min_range : 0 ≤ min.toInt ∧ min.toInt ≤ 59
  sec_range : 0 ≤ sec.toInt ∧ sec.toInt ≤ 60
  mday_range : 1 ≤ mday.toInt ∧ mday.toInt ≤ 31
  mon_range : 0 ≤ mon.toInt ∧ mon.toInt ≤ 11
  year_range : 70 ≤ year.toInt ∧ year.toInt ≤ 2147481747

/-- `log_entry.utc_time.Set` of `BashLogReceiver::StartLoop`. -/
def Tm.utcTime (tm : Tm) : Except Exception Timestamp :=
  Timestamp.set tm.hour tm.min (tm.sec % 60) tm.mday (tm.mon + 1) (tm.year + 1900)

/-- The clock gives a time that can be set. -/
lemma Tm.exists_utcTime (tm : Tm) : ∃ time, tm.utcTime = .ok time := by
  refine ⟨_, Timestamp.set_eq_ok_iff.mpr ⟨rfl, ?_, ?_⟩⟩
  · have hhour := tm.hour_range
    have hmin := tm.min_range
    have hsec : (tm.sec % 60).toInt = tm.sec.toInt % 60 := by
      rw [Int32.toInt_mod, Int.tmod_eq_emod_of_nonneg tm.sec_range.1]
      rfl
    simp only [CheckTime, hsec]
    omega
  · have hmday := tm.mday_range
    have hmon : (tm.mon + 1).toInt = tm.mon.toInt + 1 := by
      have h := tm.mon_range
      rw [Int32.toInt_add, Int.bmod_eq_of_le] <;> simp <;> omega
    have hyear : (tm.year + 1900).toInt = tm.year.toInt + 1900 := by
      have h := tm.year_range
      rw [Int32.toInt_add, Int.bmod_eq_of_le] <;> simp <;> omega
    have hmonth := tm.mon_range
    have hyear' := tm.year_range
    simp only [CheckDate, hmon, hyear]
    omega

/-- `type::BashLogEntry`. -/
structure BashLogEntry where
  agentName : Str
  utcTime : Timestamp
  userId : UInt32
  command : Str
  deriving DecidableEq

/-! ### The loops -/

/-- A client of the Bash socket, with its credentials and the time of its connection. -/
structure BashClient (σ : Type) extends Client σ where
  uid : UInt32
  now : Tm

variable {σ E : Type}

/-- `DBusThread::AddCommand`, on the entries the loop has added so far. -/
def addCommand (entry : E) : EStateM Exception (List E) Unit := modify fun queue => queue ++ [entry]

/-- `Network::ReceiveText` on the socket of a client. -/
def receiveText (rounds : ℕ) (client : Client σ) : Except Exception Text :=
  ((call (Network.receiveText client.system rounds) client.world).map Prod.fst).mapError .network

/-- The body of the loop of `ApacheLogReceiver::StartLoop` for a new client. -/
def serveApache (rounds : ℕ) (agentName : Str) (client : Client σ) :
    LoopM Exception (List ApacheLogEntry) Unit := do
  let socket ← accept
  let newLog ← ofExcept (receiveText rounds client)
  match ← ofExcept (newLogEntry agentName newLog) with
  | some entry => onState (addCommand entry)
  | none => pure ()
  close socket

/-- The body of the loop of `BashLogReceiver::StartLoop` for a new client. -/
def serveBash (rounds : ℕ) (agentName : Str) (client : BashClient σ) :
    LoopM Exception (List BashLogEntry) Unit := do
  let socket ← accept
  let newCommand ← ofExcept (receiveText rounds client.toClient)
  close socket
  let utcTime ← ofExcept client.now.utcTime
  onState (addCommand { agentName, utcTime, userId := client.uid, command := newCommand.bytes })

/-! ### What a line is -/

/-- Fields in brackets, with a space between them. -/
def line (fields : List Str) : Str :=
  [byte ' '].intercalate (fields.map fun field => byte '<' :: (field ++ [byte '>']))

/-- The text is a line of seven fields that hold no closing bracket. -/
structure IsLine (text : Str) (fields : List Str) : Prop where
  seven : fields.length = 7
  closed : ∀ field ∈ fields, byte '>' ∉ field
  eq_line : text = line fields

lemma matches_fieldPattern_append {pieces : List (Piece UInt8)} {text : Str} {groups : List Str} :
    Matches (fieldPattern ++ pieces) text groups ↔
      ∃ field rest fields, byte '>' ∉ field ∧ text = byte '<' :: (field ++ [byte '>']) ++ rest ∧
        groups = field :: fields ∧ Matches pieces rest fields := by
  simp only [fieldPattern, List.cons_append, List.nil_append, matches_char_iff, matches_group_iff]
  constructor
  · rintro ⟨_, rfl, field, _, fields, hfield, rfl, rfl, rest, rfl, h⟩
    refine ⟨field, rest, fields, fun hgt => ?_, by simp, rfl, h⟩
    simpa using hfield _ hgt
  · rintro ⟨field, rest, fields, hgt, rfl, rfl, h⟩
    refine ⟨_, rfl, field, _, fields, fun c hc => ?_, List.append_assoc .., rfl, rest, rfl, h⟩
    simpa using ne_of_mem_of_not_mem hc hgt

lemma line_cons_cons {field next : Str} {fields : List Str} :
    line (field :: next :: fields) =
      byte '<' :: (field ++ [byte '>']) ++ (byte ' ' :: line (next :: fields)) := by
  rw [line, List.map_cons, List.map_cons, List.intercalate_cons_cons, List.append_assoc]
  rfl

lemma matches_fields {n : ℕ} {text : Str} {groups : List Str} :
    Matches ([.char (byte ' ')].intercalate (List.replicate (n + 1) fieldPattern)) text groups ↔
      groups.length = n + 1 ∧ (∀ field ∈ groups, byte '>' ∉ field) ∧ text = line groups := by
  induction n generalizing text groups with
  | zero =>
      rw [zero_add, List.replicate_one, List.intercalate_singleton,
        ← List.append_nil fieldPattern, matches_fieldPattern_append]
      constructor
      · rintro ⟨field, rest, fields, hgt, rfl, rfl, h⟩
        obtain ⟨rfl, rfl⟩ := matches_nil_iff.mp h
        exact ⟨rfl, by simpa using hgt, by simp [line]⟩
      · rintro ⟨hlength, hgt, rfl⟩
        obtain ⟨field, rfl⟩ := List.length_eq_one_iff.mp hlength
        exact ⟨field, [], [], hgt field (by simp), by simp [line], rfl, .nil⟩
  | succ n ih =>
      rw [List.replicate_succ, List.replicate_succ, List.intercalate_cons_cons,
        ← List.replicate_succ, List.append_assoc, matches_fieldPattern_append]
      simp only [List.cons_append, List.nil_append, matches_char_iff, ih]
      constructor
      · rintro ⟨field, _, fields, hgt, rfl, rfl, _, rfl, hlength, hclosed, rfl⟩
        obtain ⟨next, others, rfl⟩ := List.exists_cons_of_length_eq_add_one hlength
        refine ⟨by simp [hlength], fun f hf => ?_, line_cons_cons.symm⟩
        rcases List.mem_cons.mp hf with rfl | hf
        · exact hgt
        · exact hclosed f hf
      · rintro ⟨hlength, hclosed, rfl⟩
        obtain ⟨field, next, fields, rfl⟩ :
            ∃ field next fields, groups = field :: next :: fields := by
          match groups, hlength with
          | field :: next :: fields, _ => exact ⟨field, next, fields, rfl⟩
        exact ⟨field, _, next :: fields, hclosed field (by simp), line_cons_cons, rfl, _, rfl,
          by simpa using hlength, fun f hf => hclosed f (List.mem_cons_of_mem _ hf), rfl⟩

/-- The expression of the source matches lines only, and captures their fields. -/
theorem regexMatch_linePattern {text : Str} {fields : List Str} :
    regexMatch linePattern text = some fields ↔ IsLine text fields := by
  have hsep : Separated linePattern := by simp [linePattern, fieldPattern, Separated, StartsOutside]
  rw [regexMatch_eq_some_iff hsep, linePattern, matches_fields]
  exact ⟨fun ⟨hseven, hclosed, heq⟩ => ⟨hseven, hclosed, heq⟩,
    fun h => ⟨h.seven, h.closed, h.eq_line⟩⟩

/-! ### What a line says -/

/-- The time is the one the timestamp names. -/
def TimeOf (timestamp : Str) (time : Timestamp) : Prop :=
  ∃ groups, regexMatch timestampPattern timestamp = some groups ∧
    stoi (subMatch groups 1) = .ok time.day ∧ monthsAt (subMatch groups 2) = .ok time.month ∧
    stoi (subMatch groups 3) = .ok time.year ∧ stoi (subMatch groups 4) = .ok time.hour ∧
    stoi (subMatch groups 5) = .ok time.minute ∧ stoi (subMatch groups 6) = .ok time.second

/-- The entry has the values of the fields. -/
structure EntryOf (fields : List Str) (entry : ApacheLogEntry) : Prop where
  virtualhost : entry.virtualhost = subMatch fields 1
  clientIp : entry.clientIp = subMatch fields 2
  time : TimeOf (subMatch fields 3) entry.time
  request : entry.request = subMatch fields 4
  statusCode : stoi (subMatch fields 5) = .ok entry.statusCode
  bytes : stoi (subMatch fields 6) = .ok entry.bytes
  userAgent : entry.userAgent = subMatch fields 7

/-- The time of a line is the one it names, or all zeros if it names none. -/
lemma logTimestampToTimestamp_eq_ok_iff {timestamp : Str} {time : Timestamp} :
    logTimestampToTimestamp timestamp = .ok time ↔
      TimeOf timestamp time ∧ time.Checked ∨
        regexMatch timestampPattern timestamp = none ∧ time = {} := by
  rw [logTimestampToTimestamp]
  cases hmatch : regexMatch timestampPattern timestamp with
  | none =>
      constructor
      · rintro ⟨⟩
        exact .inr ⟨rfl, rfl⟩
      · rintro (⟨⟨groups, hgroups, -⟩, -⟩ | ⟨-, rfl⟩)
        · exact absurd (hmatch.symm.trans hgroups) nofun
        · rfl
  | some groups =>
      simp only [Calls.bind_eq_ok_iff, Calls.mapError_eq_ok_iff, Timestamp.set_eq_ok_iff]
      constructor
      · rintro ⟨d, hd, mo, hmo, y, hy, h, hh, m, hm, s, hs, rfl, hchecked⟩
        exact .inl ⟨⟨groups, hmatch, hd, hmo, hy, hh, hm, hs⟩, hchecked⟩
      · rintro (⟨⟨_, hgroups, hd, hmo, hy, hh, hm, hs⟩, hchecked⟩ | ⟨⟨⟩, -⟩)
        obtain rfl := Option.some.inj (hmatch.symm.trans hgroups)
        exact ⟨_, hd, _, hmo, _, hy, _, hh, _, hm, _, hs, rfl, hchecked⟩

lemma logEntryOf_eq_ok_iff {agentName : Str} {fields : List Str} {entry : ApacheLogEntry} :
    logEntryOf agentName fields = .ok entry ↔
      ∃ time statusCode bytes, logTimestampToTimestamp (subMatch fields 3) = .ok time ∧
        stoi (subMatch fields 5) = .ok statusCode ∧ stoi (subMatch fields 6) = .ok bytes ∧
        entry = {
          agentName
          virtualhost := subMatch fields 1
          clientIp := subMatch fields 2
          time
          request := subMatch fields 4
          statusCode
          bytes
          userAgent := subMatch fields 7 } := by
  simp only [logEntryOf, Calls.bind_eq_ok_iff, Calls.mapError_eq_ok_iff]
  constructor
  · rintro ⟨time, htime, statusCode, hstatusCode, bytes, hbytes, ⟨⟩⟩
    exact ⟨time, statusCode, bytes, htime, hstatusCode, hbytes, rfl⟩
  · rintro ⟨time, statusCode, bytes, htime, hstatusCode, hbytes, rfl⟩
    exact ⟨time, htime, statusCode, hstatusCode, bytes, hbytes, rfl⟩

/-- A text is dropped if it is not a line, and otherwise gives one entry if it gives any. -/
lemma newLogEntry_eq_ok_iff {agentName : Str} {newLog : Text} {entry : Option ApacheLogEntry} :
    newLogEntry agentName newLog = .ok entry ↔
      (∃ fields added, IsLine newLog.bytes fields ∧ logEntryOf agentName fields = .ok added ∧
        entry = some added) ∨ ((∀ fields, ¬IsLine newLog.bytes fields) ∧ entry = none) := by
  rw [newLogEntry]
  simp only [← regexMatch_linePattern]
  cases hmatch : regexMatch linePattern newLog.bytes with
  | none =>
      constructor
      · rintro ⟨⟩
        exact .inr ⟨nofun, rfl⟩
      · rintro (⟨fields, added, hfields, -⟩ | ⟨-, rfl⟩)
        · exact absurd hfields nofun
        · rfl
  | some fields =>
      cases hadded : logEntryOf agentName fields with
      | error exception =>
          constructor
          · simp [hadded, Except.map]
          · rintro (⟨_, added, ⟨⟩, hok, -⟩ | ⟨hnone, -⟩)
            · exact absurd (hadded.symm.trans hok) nofun
            · exact absurd rfl (hnone fields)
      | ok added =>
          constructor
          · intro h
            obtain rfl : some added = entry := by simpa [hadded, Except.map] using h
            exact .inl ⟨fields, added, rfl, hadded, rfl⟩
          · rintro (⟨_, _, ⟨⟩, hok, rfl⟩ | ⟨hnone, -⟩)
            · rw [hadded] at hok
              obtain rfl := Except.ok.inj hok
              simp [hadded, Except.map]
            · exact absurd rfl (hnone fields)

end Slas.Agent
