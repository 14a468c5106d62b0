import Mathlib
import Slas.Network.RoundTrip
import Slas.Web.CommandReceiver
import Slas.Web.PythonJson

/-!
The requests of the web interface, `web/slas-web/util/util.py`, and the server that reads
them with its JSON library.

* `jsonObject`: what `connect_and_get_result_from_command` writes;
* `ApacheCall`: the functions that ask for something of Apache;
* `ApacheCall.received`: the operation that the server is asked for;
* `Requests`, `Answered`: a client that has sent such a request, and what the server makes of it;
* `startListen_goesOn_calls`: the loop goes on as long as every request is answered, and
  characters arrive as they were typed.
-/

namespace Slas.Web

open JsonGrammar (Tree)
open Network (Client Event Steps GoesOn clients receiveText sendText waitForData)
open Apache (WebRequest WebOperations commandExecutorObject supportedCommands perform readRequest)

/-! ### The source -/

/-- A `str`, all of it ASCII. -/
def py (s : String) : PyText := (ascii s).map UInt8.toUInt16

/-- The dictionary of `connect_and_get_result_from_command`. In which order its members are
written is a matter of their hash values. -/
def jsonObject (argsFirst : Bool) (command : PyText) (args : List PyValue) : PyValue :=
  .object (
    if args.isEmpty then [(py "command", .string command)]
    else if argsFirst then [(py "args", .array args), (py "command", .string command)]
    else [(py "command", .string command), (py "args", .array args)])

/-- The functions for Apache, with texts of the type `T`. -/
inductive ApacheCall (T : Type) where
  | getApacheAgentNames
  | getApacheVirtualhostNames (agentName : T)
  | getApacheSessions (agentName virtualhostName beginDate endDate : T)
  | setApacheSessionsAsAnomaly (agentName virtualhostName : T) (allRowsIds anomaliesIds : List ℤ)
  | getApacheAnomalyDetectionConfiguration
  | setApacheAnomalyDetectionConfiguration (agentName virtualhostName beginDate endDate : T)
  | getApacheSessionsWithoutLearningSet (agentName virtualhostName beginDate endDate : T)
  | markLearningSetWithIqrMethod (agentName virtualhostName : T)
  | getAgentsAndVirtualhostsNamesFilteredBySessionsClassificationExists
  | getLearningSetSessions (agentName virtualhostName : T)
  | removeConfiguration (configurationId : T)

namespace ApacheCall

variable {T T' : Type}

/-- The command of a function. -/
def command : ApacheCall T → String
  | getApacheAgentNames => "get_apache_agent_names"
  | getApacheVirtualhostNames _ => "get_apache_virtualhosts_names"
  | getApacheSessions _ _ _ _ => "get_apache_sessions"
  | setApacheSessionsAsAnomaly _ _ _ _ => "set_apache_sessions_as_anomaly"
  | getApacheAnomalyDetectionConfiguration => "get_apache_anomaly_detection_configuration"
  | setApacheAnomalyDetectionConfiguration _ _ _ _ => "set_apache_anomaly_detection_configuration"
  | getApacheSessionsWithoutLearningSet _ _ _ _ => "get_apache_sessions_without_learning_set"
  | markLearningSetWithIqrMethod _ _ => "mark_learning_set_with_iqr_method"
  | getAgentsAndVirtualhostsNamesFilteredBySessionsClassificationExists =>
      "get_agents_and_virtualhosts_names_filtered_by_sessions_classification_exists"
  | getLearningSetSessions _ _ => "get_learning_set_sessions"
  | removeConfiguration _ => "remove_configuration"

/-- A list of row ids. -/
def idList (ids : List ℤ) : PyValue := .array (ids.map fun id => .atom (.number id))

/-- The arguments of a function. -/
def args : ApacheCall PyText → List PyValue
  | getApacheAgentNames => []
  | getApacheVirtualhostNames agentName => [.string agentName]
  | getApacheSessions agentName virtualhostName beginDate endDate =>
      [.string agentName, .string virtualhostName, .string beginDate, .string endDate]
  | setApacheSessionsAsAnomaly agentName virtualhostName allRowsIds anomaliesIds =>
      [.string agentName, .string virtualhostName, idList allRowsIds, idList anomaliesIds]
  | getApacheAnomalyDetectionConfiguration => []
  | setApacheAnomalyDetectionConfiguration agentName virtualhostName beginDate endDate =>
      [.string agentName, .string virtualhostName, .string beginDate, .string endDate]
  | getApacheSessionsWithoutLearningSet agentName virtualhostName beginDate endDate =>
      [.string agentName, .string virtualhostName, .string beginDate, .string endDate]
  | markLearningSetWithIqrMethod agentName virtualhostName =>
      [.string agentName, .string virtualhostName]
  | getAgentsAndVirtualhostsNamesFilteredBySessionsClassificationExists => []
  | getLearningSetSessions agentName virtualhostName => [.string agentName, .string virtualhostName]
  | removeConfiguration configurationId => [.string configurationId]

/-- What `json.dumps` writes for it. -/
def json (argsFirst : Bool) (call : ApacheCall PyText) : PyValue :=
  jsonObject argsFirst (py call.command) call.args

/-! ### What is asked for -/

/-- The operation of the server, its arguments being what `text` and `id` make of them. -/
def request (text : T → Str) (id : ℤ → ℤ) : ApacheCall T → WebRequest
  | getApacheAgentNames => .getHostnames
  | getApacheVirtualhostNames agentName => .getVirtualhostsNames (text agentName)
  | getApacheSessions agentName virtualhostName beginDate endDate =>
      .getSessions (text agentName) (text virtualhostName) (text beginDate) (text endDate)
  | setApacheSessionsAsAnomaly agentName virtualhostName allRowsIds anomaliesIds =>
      .setApacheSessionsAsAnomaly (text agentName) (text virtualhostName) (allRowsIds.map id)
        (anomaliesIds.map id)
  | getApacheAnomalyDetectionConfiguration => .getApacheAnomalyDetectionConfiguration
  | setApacheAnomalyDetectionConfiguration agentName virtualhostName beginDate endDate =>
      .setApacheAnomalyDetectionConfiguration (text agentName) (text virtualhostName)
        (text beginDate) (text endDate)
  | getApacheSessionsWithoutLearningSet agentName virtualhostName beginDate endDate =>
      .getSessionsWithoutLearningSet (text agentName) (text virtualhostName) (text beginDate)
        (text endDate)
  | markLearningSetWithIqrMethod agentName virtualhostName =>
      .markLearningSetWithIqrMethod (text agentName) (text virtualhostName)
  | getAgentsAndVirtualhostsNamesFilteredBySessionsClassificationExists =>
      .getAgentsAndVirtualhostsNamesFilteredBySessionsClassificationExists
  | getLearningSetSessions agentName virtualhostName =>
      .getLearningSetSessions (text agentName) (text virtualhostName)
  | removeConfiguration configurationId => .removeConfiguration (text configurationId)

/-- The texts among the arguments. -/
def texts : ApacheCall T → List T
  | getApacheAgentNames | getApacheAnomalyDetectionConfiguration
  | getAgentsAndVirtualhostsNamesFilteredBySessionsClassificationExists => []
  | getApacheVirtualhostNames text | removeConfiguration text => [text]
  | setApacheSessionsAsAnomaly agentName virtualhostName _ _
  | markLearningSetWithIqrMethod agentName virtualhostName
  | getLearningSetSessions agentName virtualhostName => [agentName, virtualhostName]
  | getApacheSessions agentName virtualhostName beginDate endDate
  | setApacheAnomalyDetectionConfiguration agentName virtualhostName beginDate endDate
  | getApacheSessionsWithoutLearningSet agentName virtualhostName beginDate endDate =>
      [agentName, virtualhostName, beginDate, endDate]

/-- The row ids among them. -/
def ids : ApacheCall T → List ℤ
  | setApacheSessionsAsAnomaly _ _ allRowsIds anomaliesIds => allRowsIds ++ anomaliesIds
  | _ => []

/-- The same function with other texts. -/
def map (f : T → T') : ApacheCall T → ApacheCall T'
  | getApacheAgentNames => getApacheAgentNames
  | getApacheVirtualhostNames agentName => getApacheVirtualhostNames (f agentName)
  | getApacheSessions agentName virtualhostName beginDate endDate =>
      getApacheSessions (f agentName) (f virtualhostName) (f beginDate) (f endDate)
  | setApacheSessionsAsAnomaly agentName virtualhostName allRowsIds anomaliesIds =>
      setApacheSessionsAsAnomaly (f agentName) (f virtualhostName) allRowsIds anomaliesIds
  | getApacheAnomalyDetectionConfiguration => getApacheAnomalyDetectionConfiguration
  | setApacheAnomalyDetectionConfiguration agentName virtualhostName beginDate endDate =>
      setApacheAnomalyDetectionConfiguration (f agentName) (f virtualhostName) (f beginDate)
        (f endDate)
  | getApacheSessionsWithoutLearningSet agentName virtualhostName beginDate endDate =>
      getApacheSessionsWithoutLearningSet (f agentName) (f virtualhostName) (f beginDate)
        (f endDate)
  | markLearningSetWithIqrMethod agentName virtualhostName =>
      markLearningSetWithIqrMethod (f agentName) (f virtualhostName)
  | getAgentsAndVirtualhostsNamesFilteredBySessionsClassificationExists =>
      getAgentsAndVirtualhostsNamesFilteredBySessionsClassificationExists
  | getLearningSetSessions agentName virtualhostName =>
      getLearningSetSessions (f agentName) (f virtualhostName)
  | removeConfiguration configurationId => removeConfiguration (f configurationId)

/-- The operation, with the bytes of the texts and the ids as `double`s. -/
def received (call : ApacheCall PyText) : WebRequest :=
  call.request (fun s => (toUtf8 s).getD []) fun id => number (stdToString id)

end ApacheCall

/-! ### What the server reads -/

section Read

open ApacheCall

lemma toUtf8_ascii {s : Str} (h : s.all (· < 0x80) = true) :
    toUtf8 (s.map UInt8.toUInt16) = some s := by
  induction s with
  | nil => rfl
  | cons c s ih =>
      rw [List.all_cons, Bool.and_eq_true, decide_eq_true_eq] at h
      have hc : c.toUInt16.toNat < 0x80 := by
        rw [UInt8.toNat_toUInt16]
        exact UInt8.lt_iff_toNat_lt.mp h.1
      have hhigh : ¬isHighSurrogate c.toUInt16.toNat = true := by
        simp only [isHighSurrogate, Bool.and_eq_true, decide_eq_true_eq]
        omega
      rw [List.map_cons, toUtf8_cons hhigh, ih h.2, codePointBytes, if_pos hc]
      simp

lemma ascii_ofList (cs : List Char) : ascii (String.ofList cs) = cs.map byte := by
  rw [ascii, String.toList_ofList]

lemma toUtf8_py {cs : List Char} (h : (cs.map byte).all (· < 0x80) = true) :
    toUtf8 (py (String.ofList cs)) = some (ascii (String.ofList cs)) := by
  rw [py, ascii_ofList]
  exact toUtf8_ascii h

lemma ApacheCall.command_mem {T : Type} (call : ApacheCall T) :
    ascii call.command ∈ supportedCommands := by
  cases call <;> simp [ApacheCall.command, supportedCommands]

lemma ApacheCall.toUtf8_command {T : Type} (call : ApacheCall T) :
    toUtf8 (py call.command) = some (ascii call.command) := by
  cases call <;> exact toUtf8_py (by decide)

lemma insertMember_nil (key : Str) (j : Json) : insertMember key j [] = [(key, j)] := rfl

lemma insertMember_args (j j' : Json) : insertMember (ascii "args") j [(ascii "command", j')]
    = [(ascii "args", j), (ascii "command", j')] :=
  if_pos (by decide : (ascii "args").map UInt8.toNat < (ascii "command").map UInt8.toNat)

lemma insertMember_command (j j' : Json) : insertMember (ascii "command") j [(ascii "args", j')]
    = [(ascii "args", j'), (ascii "command", j)] :=
  (if_neg (by decide : ¬(ascii "command").map UInt8.toNat < (ascii "args").map UInt8.toNat)).trans
    (if_neg (by decide : ¬ascii "command" = ascii "args"))

lemma received_array (vs : List PyValue) :
    Web.received (.array vs) = .array (vs.map Web.received) := by
  rw [Web.received, Writer.reread, JsonGrammar.Tree.map, Tree.build, JsonGrammar.buildElements_eq,
    JsonGrammar.mapElements_eq, List.map_map]
  rfl

lemma received_string {s : PyText} {bytes : Str} (h : toUtf8 s = some bytes) :
    Web.received (.string s) = .string bytes := by
  rw [Web.received, Writer.reread, JsonGrammar.Tree.map, h]
  rfl

lemma received_object (ms : List (PyText × PyValue)) :
    Web.received (.object ms)
      = .object ((ms.map fun m => ((toUtf8 m.1).getD [], Web.received m.2)).foldl
          (fun map m => insertMember m.1 m.2 map) []) := by
  rw [Web.received, Writer.reread, JsonGrammar.Tree.map, Tree.build, JsonGrammar.buildMembers_eq,
    JsonGrammar.mapMembers_eq, List.map_map]
  rfl

/-- The members are sorted, so their order does not matter. -/
lemma received_jsonObject {argsFirst : Bool} {command : PyText} {bytes : Str}
    (h : toUtf8 command = some bytes) (args : List PyValue) :
    Web.received (jsonObject argsFirst command args) = .object (
      if args.isEmpty then [(ascii "command", .string bytes)]
      else [(ascii "args", .array (args.map Web.received)), (ascii "command", .string bytes)]) := by
  have hcommand : toUtf8 (py "command") = some (ascii "command") := toUtf8_py (by decide)
  have hargs : toUtf8 (py "args") = some (ascii "args") := toUtf8_py (by decide)
  rw [jsonObject, received_object]
  split_ifs
  · simp [hcommand, received_string h, insertMember_nil]
  · simp [hcommand, hargs, received_string h, received_array, insertMember_nil,
      insertMember_command]
  · simp [hcommand, hargs, received_string h, received_array, insertMember_nil, insertMember_args]

lemma mapM_getInteger (ids : List ℤ) : (ids.map Json.number).mapM Json.getInteger = .ok ids := by
  induction ids with
  | nil => rfl
  | cons id ids ih =>
      rw [List.map_cons, List.mapM_cons, ih]
      rfl

lemma received_idList (ids : List ℤ) : Web.received (idList ids)
    = .array ((ids.map fun id => number (stdToString id)).map Json.number) := by
  rw [idList, received_array, List.map_map, List.map_map]
  rfl

lemma index_command (argsFirst : Bool) (call : ApacheCall PyText) :
    (Web.received (call.json argsFirst)).index (ascii "command")
      = .ok (.string (ascii call.command)) := by
  rw [json, received_jsonObject call.toUtf8_command]
  split_ifs
  · rfl
  · rfl

lemma withArgs_json {argsFirst : Bool} {call : ApacheCall PyText} {count : ℕ}
    {f : Json → Except StdException WebRequest} (hlength : call.args.length = count + 1) :
    Apache.withArgs (Web.received (call.json argsFirst)) (count + 1) f
      = f (.array (call.args.map Web.received)) := by
  have hargs : (Web.received (call.json argsFirst)).index (ascii "args")
      = .ok (.array (call.args.map Web.received)) := by
    have hne : ¬call.args.isEmpty = true := by
      rw [List.isEmpty_iff_length_eq_zero]
      omega
    rw [json, received_jsonObject call.toUtf8_command, if_neg hne]
    rfl
  have hsize : ¬(Json.array (call.args.map Web.received)).size ≠ count + 1 := by
    simp [Json.size, hlength]
  rw [Apache.withArgs, hargs]
  exact if_neg hsize

lemma idsArg_of_atIndex {as : Json} {i : ℕ} {ids : List ℤ}
    (h : as.atIndex i = .ok (.array (ids.map Json.number))) : Apache.idsArg as i = .ok ids := by
  rw [Apache.idsArg, h]
  exact mapM_getInteger ids

lemma equals_self (s : Str) : (Json.string s).equals s = true := decide_eq_true rfl

lemma not_equals {cs cs' : List Char} (h : cs.map byte ≠ cs'.map byte) :
    ¬(Json.string (ascii (String.ofList cs))).equals (ascii (String.ofList cs')) = true := by
  rw [ascii_ofList, ascii_ofList, Json.equals, decide_eq_true_iff]
  exact h

/-- **The server calls the operation that is asked for.** -/
lemma readRequest_json {argsFirst : Bool} {call : ApacheCall PyText}
    (h : ∀ s ∈ call.texts, (toUtf8 s).isSome = true) :
    readRequest (Web.received (call.json argsFirst)) = .ok call.received := by
  have hs : ∀ s ∈ call.texts, Web.received (.string s) = .string ((toUtf8 s).getD []) := by
    intro s hs
    obtain ⟨bytes, hbytes⟩ := Option.isSome_iff_exists.mp (h s hs)
    rw [received_string hbytes, hbytes, Option.getD_some]
  rw [readRequest, index_command]
  simp only [bind, Except.bind]
  cases call with
  | getApacheAgentNames | getApacheAnomalyDetectionConfiguration
  | getAgentsAndVirtualhostsNamesFilteredBySessionsClassificationExists =>
      repeat refine (if_neg (not_equals (by decide))).trans ?_
      exact if_pos (equals_self _)
  | setApacheSessionsAsAnomaly agentName virtualhostName allRowsIds anomaliesIds =>
      repeat refine (if_neg (not_equals (by decide))).trans ?_
      refine (if_pos (equals_self _)).trans ((withArgs_json rfl).trans ?_)
      simp only [texts, List.forall_mem_cons] at hs
      simp only [args, List.map_cons, List.map_nil, hs, received_idList]
      rw [idsArg_of_atIndex (i := 2) rfl, idsArg_of_atIndex (i := 3) rfl]
      rfl
  | getApacheVirtualhostNames | getApacheSessions | setApacheAnomalyDetectionConfiguration
  | getApacheSessionsWithoutLearningSet | markLearningSetWithIqrMethod | getLearningSetSessions
  | removeConfiguration =>
      repeat refine (if_neg (not_equals (by decide))).trans ?_
      refine (if_pos (equals_self _)).trans ((withArgs_json rfl).trans ?_)
      simp only [texts, List.forall_mem_cons] at hs
      simp only [args, List.map_cons, List.map_nil, hs]
      rfl

lemma string_mem_idList (s : PyText) (ids : List ℤ) : ¬.string s ∈ (idList ids).tokens := by
  rw [idList, JsonGrammar.string_mem_array_iff]
  simp [Tree.tokens]

/-- The strings of the object. -/
lemma string_mem_jsonObject {argsFirst : Bool} {command s : PyText} {args : List PyValue}
    (h : .string s ∈ (jsonObject argsFirst command args).tokens) :
    s = py "command" ∨ s = py "args" ∨ s = command ∨ ∃ v ∈ args, .string s ∈ v.tokens := by
  obtain ⟨m, hm, hs⟩ := JsonGrammar.string_mem_object_iff.mp h
  have hmember : m = (py "command", .string command) ∨ m = (py "args", .array args) := by
    split_ifs at hm <;> simp at hm <;> tauto
  rcases hmember with rfl | rfl
  · rcases hs with hs | hs
    · exact .inl hs
    · exact .inr (.inr (.inl (by simpa [Tree.tokens] using hs)))
  · rcases hs with hs | hs
    · exact .inr (.inl hs)
    · exact .inr (.inr (.inr (JsonGrammar.string_mem_array_iff.mp hs)))

lemma string_mem_jsonObject_of_mem {argsFirst : Bool} {command s : PyText} {args : List PyValue}
    {v : PyValue} (hv : v ∈ args) (h : .string s ∈ v.tokens) :
    .string s ∈ (jsonObject argsFirst command args).tokens := by
  refine JsonGrammar.string_mem_object_iff.mpr ⟨(py "args", .array args), ?_,
    .inr (JsonGrammar.string_mem_array_iff.mpr ⟨v, hv, h⟩)⟩
  rw [if_neg (by simpa using List.ne_nil_of_mem hv)]
  cases argsFirst <;> simp

/-- Nothing but the arguments can be wrong about the texts that are written. -/
lemma paired_json_iff {argsFirst : Bool} {call : ApacheCall PyText} :
    (∀ s, .string s ∈ (call.json argsFirst).tokens → Paired s) ↔ ∀ s ∈ call.texts, Paired s := by
  have hpaired : ∀ {s : PyText} {bytes : Str}, toUtf8 s = some bytes → Paired s := by
    intro s bytes h
    exact (isSome_toUtf8_iff s).mp (h ▸ rfl)
  have hmem : ∀ s, (∃ v ∈ call.args, .string s ∈ v.tokens) ↔ s ∈ call.texts := by
    intro s
    cases call <;> simp [args, texts, Tree.tokens, string_mem_idList]
  constructor
  · intro h s hs
    obtain ⟨v, hv, hs⟩ := (hmem s).mpr hs
    exact h s (string_mem_jsonObject_of_mem hv hs)
  · intro h s hs
    rcases string_mem_jsonObject hs with rfl | rfl | rfl | hs
    · exact hpaired (toUtf8_py (by decide))
    · exact hpaired (toUtf8_py (by decide))
    · exact hpaired call.toUtf8_command
    · exact h s ((hmem s).mp hs)

end Read

/-! ### The texts that are sent -/

section Message

lemma Escaped.zero_notMem {top most n : ℕ} {piece : Str} (h : Escaped top most n piece) :
    0 ∉ piece := by
  have hne : ∀ c : UInt8, isHex c = true → c ≠ 0 := by
    rintro _ hc rfl
    exact absurd hc (by decide)
  cases h with
  | @letter e c he =>
      have hzero : e ≠ 0 := by
        rintro rfl
        exact absurd he (by decide)
      simp [hzero.symm, byte]
  | @raw c _ _ hraw =>
      have hzero : c ≠ 0 := by
        rintro rfl
        exact absurd hraw (by decide)
      simp [hzero.symm]
  | hex =>
      have hdigits := isHex_hexDigits n
      simp only [Bool.and_eq_true] at hdigits
      simp [hexDigits, byte, (hne _ hdigits.1.1.1).symm, (hne _ hdigits.1.1.2).symm,
        (hne _ hdigits.1.2).symm, (hne _ hdigits.2).symm]

/-- `json.dumps` writes no NUL. -/
lemma zero_notMem_dumps (v : PyValue) : 0 ∉ dumps v := by
  rw [dumps, Writer.text, List.mem_flatMap]
  rintro ⟨t, -, ht⟩
  have hnumber : ∀ n : ℤ, (0 : UInt8) ∉ stdToString n := by
    intro n hn
    rcases isInteger_stdToString n 0 hn with h | h
    · exact absurd h (by decide)
    · exact absurd h (by decide)
  have hliterals : (0 : UInt8) ∉ ascii "null" ∧ (0 : UInt8) ∉ ascii "true" ∧
      (0 : UInt8) ∉ ascii "false" := by decide
  cases t with
  | atom a =>
      cases a with
      | null => exact hliterals.1 ht
      | boolean value =>
          cases value with
          | true => exact hliterals.2.1 ht
          | false => exact hliterals.2.2 ht
      | number n => exact hnumber n ht
  | string s =>
      have hstring : (0 : UInt8) ∉ s.flatMap escapeUnit := by
        rw [List.mem_flatMap]
        rintro ⟨u, -, hu⟩
        exact (escaped_escapeUnit u).zero_notMem hu
      rcases List.mem_cons.mp ht with hquote | ht
      · exact absurd hquote (by decide)
      · rcases List.mem_append.mp ht with hs | hquote
        · exact hstring hs
        · exact absurd (List.mem_singleton.mp hquote) (by decide)
  | beginArray => exact absurd ht (by decide)
  | endArray => exact absurd ht (by decide)
  | beginObject => exact absurd ht (by decide)
  | endObject => exact absurd ht (by decide)
  | nameSeparator => exact absurd ht (by decide)
  | valueSeparator => exact absurd ht (by decide)

/-- The text of a request. -/
def ApacheCall.message (argsFirst : Bool) (call : ApacheCall PyText) : Text :=
  ⟨dumps (call.json argsFirst), zero_notMem_dumps _⟩

/-- The parser of the server. -/
def parseText (message : Text) : Option Json := parse message.bytes

lemma parseText_eq_some_iff {argsFirst : Bool} {call : ApacheCall PyText} {j : Json} :
    parseText (call.message argsFirst) = some j ↔
      (∀ s ∈ call.texts, Paired s) ∧ received (call.json argsFirst) = j := by
  rw [parseText, ApacheCall.message, parse_dumps_iff, paired_json_iff]

end Message

/-! ### What the server makes of them -/

variable {σ W : Type}

/-- The operation returns, or throws what the executor catches. -/
def Completes (operations : WebOperations W) (request : WebRequest) (w w' : W) : Prop :=
  ∃ response, (perform operations request).run w = .ok response w' ∨
    (perform operations request).run w = .error (.interface response) w'

/-- A request is answered: its texts have bytes, and the operation ends. -/
def Answered (operations : WebOperations W) (call : ApacheCall PyText) (w w' : W) : Prop :=
  (∀ s ∈ call.texts, Paired s) ∧ Completes operations call.received w w'

section Objects

variable {name : Str} {message result response : Text} {objects objects' : List (CommandObject W)}
  {w w' : W}

lemma caught_append : Caught name message (objects ++ objects') result w response w' ↔
    ∃ result' w₁, Caught name message objects result w result' w₁ ∧
      Caught name message objects' result' w₁ response w' := by
  simp only [← foldlM_executeObject_ok_iff, List.foldlM_append, Calls.run_bind_eq_ok_iff]

/-- Objects that have nothing to do with the command. -/
lemma caught_unsupported_iff (h : ∀ object ∈ objects, object.isCommandSupported name = false) :
    Caught name message objects result w response w' ↔ response = result ∧ w' = w := by
  induction objects with
  | nil =>
      constructor
      · intro hcaught
        cases hcaught
        exact ⟨rfl, rfl⟩
      · rintro ⟨rfl, rfl⟩
        exact .nil
  | cons object objects ih =>
      rw [List.forall_mem_cons] at h
      rw [← ih h.2]
      constructor
      · intro hcaught
        cases hcaught with
        | unsupported _ hrest => exact hrest
        | returns hsupported _ _ => exact absurd (h.1.symm.trans hsupported) (by decide)
        | throws hsupported _ _ => exact absurd (h.1.symm.trans hsupported) (by decide)
      · intro hcaught
        exact .unsupported h.1 hcaught

/-- One object among others that have nothing to do with the command. -/
lemma caught_supported_iff {object : CommandObject W}
    (hobjects : ∀ other ∈ objects ++ objects', other.isCommandSupported name = false)
    (hsupported : object.isCommandSupported name = true) :
    (∃ response, Caught name message (objects ++ object :: objects') result w response w') ↔
      ∃ response, (object.execute message).run w = .ok response w' ∨
        (object.execute message).run w = .error (.interface response) w' := by
  rw [List.forall_mem_append] at hobjects
  have hbefore : ∀ response,
      Caught name message (objects ++ object :: objects') result w response w'
      ↔ Caught name message (object :: objects') result w response w' := by
    intro response
    simp [caught_append, caught_unsupported_iff hobjects.1]
  have hafter : ∀ result w response w', Caught name message objects' result w response w' ↔
      response = result ∧ w' = w := fun _ _ _ _ => caught_unsupported_iff hobjects.2
  simp only [hbefore]
  constructor
  · rintro ⟨response, hcaught⟩
    cases hcaught with
    | unsupported hnot _ => exact absurd (hnot.symm.trans hsupported) (by decide)
    | returns _ hrun hrest =>
        obtain ⟨rfl, rfl⟩ := (hafter _ _ _ _).mp hrest
        exact ⟨_, .inl hrun⟩
    | throws _ hrun hrest =>
        obtain ⟨rfl, rfl⟩ := (hafter _ _ _ _).mp hrest
        exact ⟨_, .inr hrun⟩
  · rintro ⟨response, hrun | hrun⟩
    · exact ⟨response, .returns hsupported hrun ((hafter _ _ _ _).mpr ⟨rfl, rfl⟩)⟩
    · exact ⟨errorMessage response, .throws hsupported hrun ((hafter _ _ _ _).mpr ⟨rfl, rfl⟩)⟩

end Objects

/-! ### The loop -/

/-- A client that has sent a text, and takes any answer. -/
def Requests (client : Client σ) (message : Text) : Prop :=
  ∃ world world' rounds, (waitForData client.system).run client.world = .ok .newData world ∧
    (receiveText client.system rounds).run world = .ok message world' ∧
    ∀ response, ∃ rounds' world'', (sendText client.system rounds' response).run world'
      = .ok () world''

/-- A client that has called a function of the web interface. -/
def Asks (client : Client σ) (call : ApacheCall PyText) : Prop :=
  ∃ argsFirst, Requests client (call.message argsFirst)

section Loop

variable {operations : WebOperations W} {before after : List (CommandObject W)}

/-- Such a client is served if its command is read, and the objects are caught. -/
lemma served_iff {parse : Text → Option Json} {objects : List (CommandObject W)}
    {client : Client σ} {message : Text} (h : Requests client message) {w w' : W} :
    Served parse objects client w w' ↔ ∃ name, Web.command parse message = .ok name ∧
      ∃ response, Caught name message objects unknownCommandErrorJson w response w' := by
  obtain ⟨world, world', rounds, hwait, hreceive, hsend⟩ := h
  constructor
  · intro hserved
    cases hserved with
    | silent hsilent => exact absurd (hwait.symm.trans hsilent) (by simp)
    | @answered world₁ world₂ world₃ message' name response _ rounds₁ rounds₂ hwait' hreceive'
        hname hcaught hsend' =>
        obtain ⟨-, rfl⟩ := EStateM.Result.ok.inj (hwait.symm.trans hwait')
        have hmore := Network.receiveText_mono hreceive (le_max_left rounds rounds₁)
        have hmore' := Network.receiveText_mono hreceive' (le_max_right rounds rounds₁)
        obtain ⟨rfl, -⟩ := EStateM.Result.ok.inj (hmore.symm.trans hmore')
        exact ⟨name, hname, response, hcaught⟩
  · rintro ⟨name, hname, response, hcaught⟩
    obtain ⟨rounds', world'', hsent⟩ := hsend response
    exact .answered hwait hreceive hname hcaught hsent

lemma parseJson_message_eq_ok_iff {argsFirst : Bool} {call : ApacheCall PyText} {j : Json} :
    parseJson parseText (call.message argsFirst) = .ok j ↔
      (∀ s ∈ call.texts, Paired s) ∧ received (call.json argsFirst) = j := by
  rw [← parseText_eq_some_iff, parseJson]
  cases parseText (call.message argsFirst) with
  | none => simp
  | some j' => simp

/-- The command of a request is read, if its texts have bytes. -/
lemma command_message_eq_ok_iff {argsFirst : Bool} {call : ApacheCall PyText} {name : Str} :
    Web.command parseText (call.message argsFirst) = .ok name ↔
      (∀ s ∈ call.texts, Paired s) ∧ ascii call.command = name := by
  have hread : ∀ j, parseJson parseText (call.message argsFirst) = .ok j ↔
      (∀ s ∈ call.texts, Paired s) ∧ received (call.json argsFirst) = j :=
    fun _ => parseJson_message_eq_ok_iff
  rw [Web.command]
  cases hjson : parseJson parseText (call.message argsFirst) with
  | error exception =>
      have hpaired : ¬∀ s ∈ call.texts, Paired s := fun h => by
        simpa [hjson] using (hread _).mpr ⟨h, rfl⟩
      exact iff_of_false (by simp [bind, Except.bind]) fun h => hpaired h.1
  | ok j =>
      obtain ⟨hpaired, rfl⟩ := (hread j).mp hjson
      have hcommand : ((Except.ok (received (call.json argsFirst))).bind fun j =>
          (j.index (ascii "command")).bind Json.getString) = .ok (ascii call.command) :=
        congrArg (Except.bind · Json.getString) (index_command argsFirst call)
      rw [and_iff_right hpaired]
      exact ⟨fun h => Except.ok.inj (hcommand.symm.trans h), fun h => h ▸ hcommand⟩

/-- The object for Apache performs the operation that is asked for. -/
lemma run_commandExecutorObject {argsFirst : Bool} {call : ApacheCall PyText}
    (h : ∀ s ∈ call.texts, Paired s) (w : W) :
    ((commandExecutorObject parseText operations).execute (call.message argsFirst)).run w
      = (perform operations call.received).run w := by
  have hjson : parseJson parseText (call.message argsFirst)
      = .ok (received (call.json argsFirst)) :=
    parseJson_message_eq_ok_iff.mpr ⟨h, rfl⟩
  have hread : readRequest (received (call.json argsFirst)) = .ok call.received :=
    readRequest_json fun s hs => (isSome_toUtf8_iff s).mpr (h s hs)
  simp only [commandExecutorObject, EStateM.run_bind, Calls.run_ofExcept, hjson, hread,
    Except.mapError]

lemma served_call_iff {client : Client σ} {call : ApacheCall PyText} {argsFirst : Bool}
    (hothers : ∀ other ∈ before ++ after, ∀ name ∈ supportedCommands, other.isCommandSupported name
      = false)
    (h : Requests client (call.message argsFirst)) {w w' : W} :
    Served parseText (before ++ commandExecutorObject parseText operations :: after) client w w' ↔
      Answered operations call w w' := by
  have hsupported : (commandExecutorObject parseText operations).isCommandSupported
      (ascii call.command) = true := decide_eq_true call.command_mem
  have hcaught : ∀ result, (∃ response, Caught (ascii call.command) (call.message argsFirst)
      (before ++ commandExecutorObject parseText operations :: after) result w response w') ↔ _ :=
        fun result =>
    caught_supported_iff (fun other hother => hothers other hother _ call.command_mem) hsupported
  rw [served_iff h]
  simp only [command_message_eq_ok_iff]
  constructor
  · rintro ⟨_, ⟨hpaired, rfl⟩, hresponse⟩
    refine ⟨hpaired, ?_⟩
    rw [hcaught, run_commandExecutorObject hpaired] at hresponse
    exact hresponse
  · rintro ⟨hpaired, hcompletes⟩
    refine ⟨_, ⟨hpaired, rfl⟩, ?_⟩
    rw [hcaught, run_commandExecutorObject hpaired]
    exact hcompletes

end Loop

/-! ### Characters -/

section Characters

/-- What was typed, as Python has it. -/
def typed (cs : List Char) : PyText := cs.flatMap fun c => units c.toNat

/-- Its bytes in UTF-8. -/
def utf8 (cs : List Char) : Str := cs.flatMap String.utf8EncodeChar

lemma toUtf8_typed (cs : List Char) : toUtf8 (typed cs) = some (utf8 cs) := toUtf8_flatMap_units cs

lemma number_stdToString_of_le {n : ℤ} (h : |n| ≤ 2 ^ 53) : number (stdToString n) = n :=
  number_stdToString_eq_iff.mpr (NearestDouble.nearest_intCast_of_le h)

lemma ApacheCall.texts_map {T T' : Type} (f : T → T') (call : ApacheCall T) :
    (call.map f).texts = call.texts.map f := by
  cases call <;> rfl

/-- **Characters arrive as they were typed,** and row ids as they are. -/
lemma ApacheCall.received_map {call : ApacheCall (List Char)} (h : ∀ n ∈ call.ids, |n| ≤ 2 ^ 53) :
    (call.map typed).received = call.request utf8 id := by
  have htext : ∀ cs, (toUtf8 (typed cs)).getD [] = utf8 cs := fun cs => by rw [toUtf8_typed]; rfl
  cases call with
  | setApacheSessionsAsAnomaly agentName virtualhostName allRowsIds anomaliesIds =>
      rw [ids, List.forall_mem_append] at h
      have hids : ∀ ids : List ℤ, (∀ n ∈ ids, |n| ≤ 2 ^ 53) →
          ids.map (fun n => number (stdToString n)) = ids.map id := fun ids h =>
        List.map_congr_left fun n hn => number_stdToString_of_le (h n hn)
      simp only [ApacheCall.received, ApacheCall.map, ApacheCall.request, htext, hids _ h.1,
        hids _ h.2]
  | _ => simp only [ApacheCall.received, ApacheCall.map, ApacheCall.request, htext]

lemma answered_typed_iff {operations : WebOperations W} {call : ApacheCall (List Char)}
    (h : ∀ n ∈ call.ids, |n| ≤ 2 ^ 53) {w w' : W} :
    Answered operations (call.map typed) w w' ↔
      Completes operations (call.request utf8 id) w w' := by
  have hpaired : ∀ s ∈ (call.map typed).texts, Paired s := by
    intro s hs
    rw [ApacheCall.texts_map, List.mem_map] at hs
    obtain ⟨cs, -, rfl⟩ := hs
    rw [← isSome_toUtf8_iff, toUtf8_typed]
    rfl
  rw [Answered, and_iff_right hpaired, ApacheCall.received_map h]

end Characters

/-- The loop goes on for clients that have called a function of the web interface if and only
if all their requests are answered, one after the other: their texts have bytes, and the
operations return or throw what is caught. What was typed reaches the operation as UTF-8. -/
theorem startListen_goesOn_calls {operations : WebOperations W}
    {before after : List (CommandObject W)}
    (hothers : ∀ other ∈ before ++ after, ∀ name ∈ supportedCommands,
      other.isCommandSupported name = false) :
    (∀ (events : List (Event (Client σ))) (w : W),
      (∀ client ∈ clients events, ∃ call, Asks client call) →
      ((∃ rounds r, GoesOn (serve rounds parseText
          (before ++ commandExecutorObject parseText operations :: after)) events w r) ↔
        ∃ w', Steps (fun client w w' => ∃ call, Asks client call ∧ Answered operations call w w')
          (clients events) w w')) ∧
    ∀ (call : ApacheCall (List Char)) (w w' : W), (∀ n ∈ call.ids, |n| ≤ 2 ^ 53) →
      (Answered operations (call.map typed) w w' ↔
        Completes operations (call.request utf8 id) w w') := by
  constructor
  · intro events w hasks
    have hgoesOn := Network.exists_goesOn_iff
      (fun rounds => Network.serves_onState (readAndExecuteCommand rounds parseText
        (before ++ commandExecutorObject parseText operations :: after)))
      readAndExecuteCommand_ok eventually_readAndExecuteCommand events w fun _ => True
    simp only [and_true] at hgoesOn
    refine hgoesOn.trans (exists_congr fun w' => ⟨fun h => ?_, fun h => ?_⟩)
    · refine h.imp fun client hclient w w' hserved => ?_
      obtain ⟨call, argsFirst, hrequests⟩ := hasks client hclient
      exact ⟨call, ⟨argsFirst, hrequests⟩, (served_call_iff hothers hrequests).mp hserved⟩
    · refine h.imp fun client _ w w' hanswered => ?_
      obtain ⟨call, ⟨argsFirst, hrequests⟩, hanswered⟩ := hanswered
      exact (served_call_iff hothers hrequests).mpr hanswered
  · intro call w w' h
    exact answered_typed_iff h

/-! ### Two requests -/

/-- Writes of one byte, and reads that hand back all that is requested. -/
def readsAll : Network.Schedule := ⟨fun _ => 1, fun _ => Network.bufferLength⟩

/-- A client whose text is there whenever it is read. -/
def wired (message : Text) : Client Network.Channel where
  system := Network.channel readsAll
  world := ⟨Network.wireOf [message], 0, 0⟩

lemma wire_wired_ne_nil {message : Text} (hne : message.bytes ≠ []) :
    (wired message).world.wire ≠ [] := by
  intro hwire
  have hframes : ∀ p ∈ Network.frames message, Network.frameBytes p = [] := by
    simpa [wired, Network.wireOf] using hwire
  refine hne ?_
  rw [← Framing.flatMap_pieces (k := 254) message.bytes, List.flatMap_eq_nil_iff]
  intro p hp
  exact absurd (hframes p hp) (List.cons_ne_nil _ _)

lemma requests_wired {message : Text} (hne : message.bytes ≠ []) :
    Requests (wired message) message := by
  have hwait : (waitForData (wired message).system).run (wired message).world
      = .ok .newData (wired message).world := by
    have hpoll : (wired message).system.poll (wired message).world = (1, (wired message).world) :=
      Prod.ext (if_neg (wire_wired_ne_nil hne)) rfl
    simp [waitForData, modifyGet, MonadStateOf.modifyGet, EStateM.run, EStateM.modifyGet, hpoll,
      bind, EStateM.bind, pure, EStateM.pure]
  have hfull : ∀ k, Network.bufferLength ≤ readsAll.hands k := fun _ => le_rfl
  have hfair : readsAll.Fair := fun k => ⟨k, le_rfl, Nat.one_pos⟩
  obtain ⟨world, hreceive⟩ := Network.receiveText_full hfull hne (wired message).world rfl le_rfl
  refine ⟨_, world, _, hwait, hreceive, fun response => ?_⟩
  obtain ⟨rounds, _, hsend⟩ := Network.sends_sendTextLoop hfair response.bytes 0 world
  exact ⟨rounds, _, hsend rounds le_rfl⟩

/-- Operations that do nothing but keep a record of the requests. -/
def recorded (request : WebRequest) : EStateM Exception (List WebRequest) Text := fun requests =>
  .ok unknownCommandErrorJson (requests ++ [request])

def recording : WebOperations (List WebRequest) where
  getHostnames := recorded .getHostnames
  getVirtualhostsNames agentName := recorded (.getVirtualhostsNames agentName)
  getSessions agentName virtualhostName beginDate endDate :=
    recorded (.getSessions agentName virtualhostName beginDate endDate)
  setApacheSessionsAsAnomaly agentName virtualhostName all anomalies :=
    recorded (.setApacheSessionsAsAnomaly agentName virtualhostName all anomalies)
  getApacheAnomalyDetectionConfiguration := recorded .getApacheAnomalyDetectionConfiguration
  setApacheAnomalyDetectionConfiguration agentName virtualhostName beginDate endDate :=
    recorded (.setApacheAnomalyDetectionConfiguration agentName virtualhostName beginDate endDate)
  getSessionsWithoutLearningSet agentName virtualhostName beginDate endDate :=
    recorded (.getSessionsWithoutLearningSet agentName virtualhostName beginDate endDate)
  markLearningSetWithIqrMethod agentName virtualhostName :=
    recorded (.markLearningSetWithIqrMethod agentName virtualhostName)
  getAgentsAndVirtualhostsNamesFilteredBySessionsClassificationExists :=
    recorded .getAgentsAndVirtualhostsNamesFilteredBySessionsClassificationExists
  getLearningSetSessions agentName virtualhostName :=
    recorded (.getLearningSetSessions agentName virtualhostName)
  removeConfiguration id := recorded (.removeConfiguration (stdToString id))

/-- An object with commands of its own. -/
def programOptions : CommandObject (List WebRequest) where
  isCommandSupported command := command = ascii "get_server_version"
  execute _ := pure unknownCommandErrorJson

/-- A name that is not ASCII, and two row ids. -/
def markOne : ApacheCall (List Char) := .setApacheSessionsAsAnomaly ['ż'] ['a'] [3, 4] [4]

/-- The server is asked for the names of the agents, and then to mark a session. -/
def twoRequests : List (Event (Client Network.Channel)) :=
  [.newData (wired (ApacheCall.message true .getApacheAgentNames)), .timeout,
    .newData (wired ((markOne.map typed).message false))]

/-- Both are answered. -/
theorem startListen_goesOn_calls_two : ∃ rounds r,
    GoesOn (serve rounds parseText [programOptions, commandExecutorObject parseText recording])
      twoRequests [] r := by
  have hothers : ∀ other ∈ [programOptions] ++ [], ∀ name ∈ supportedCommands,
      other.isCommandSupported name = false := by
    intro other hother
    obtain rfl := List.mem_singleton.mp hother
    have hne : ∀ {cs : List Char}, cs.map byte ≠ "get_server_version".toList.map byte →
        programOptions.isCommandSupported (ascii (String.ofList cs)) = false := by
      intro cs h
      rw [ascii_ofList]
      exact decide_eq_false h
    simp only [supportedCommands, List.forall_mem_cons]
    exact ⟨hne (by decide), hne (by decide), hne (by decide), hne (by decide), hne (by decide),
      hne (by decide), hne (by decide), hne (by decide), hne (by decide), hne (by decide),
      hne (by decide), by simp⟩
  obtain ⟨hloop, htyped⟩ := startListen_goesOn_calls hothers
  have hasks : ∀ argsFirst call, Asks (wired (ApacheCall.message argsFirst call)) call := by
    refine fun argsFirst call => ⟨argsFirst, requests_wired ?_⟩
    exact List.append_ne_nil_of_left_ne_nil (by decide : ascii "\x7b" ≠ []) _
  have hfirst : Answered recording .getApacheAgentNames [] [.getHostnames] :=
    ⟨by simp [ApacheCall.texts], _, .inl rfl⟩
  have hsecond : Answered recording (markOne.map typed) [.getHostnames] [.getHostnames,
      .setApacheSessionsAsAnomaly [0xC5, 0xBC] (ascii "a") [3, 4] [4]] :=
    (htyped markOne _ _ (by decide)).mpr ⟨_, .inl rfl⟩
  refine (hloop twoRequests [] ?_).mpr ⟨_, .cons ⟨_, hasks true _, hfirst⟩
    (.cons ⟨_, hasks false _, hsecond⟩ (.nil _))⟩
  simp only [twoRequests, clients, List.forall_mem_cons]
  exact ⟨⟨_, hasks true _⟩, ⟨_, hasks false _⟩, by simp⟩

end Slas.Web
