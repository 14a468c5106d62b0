import Mathlib
import Slas.Lib.Calls
import Slas.Network.Basic
import Slas.Type.Text
import Slas.Util.Stoi

/-!
The commands of the web interface, `server/src/web/command_executor.cpp`.

* `Json`: the values of the JSON library, with the accessors that throw;
* `Exception`: what a command may throw;
* `CommandObject`: the objects that are registered for the commands;
* `execute`: `CommandExecutor::Execute`, with the parser of the library as a parameter.
-/

namespace Slas.Web

open MonadExcept (ofExcept)

/-! ### The JSON library -/

/-- A value. Of a number only its conversion to `long long` is used. -/
inductive Json where
  | null
  | boolean (value : Bool)
  | number (value : ℤ)
  | string (value : Str)
  | array (elements : List Json)
  | object (members : List (Str × Json))

namespace Json

/-- `operator[]` with a key, which makes an object of `null` and inserts what is missing. -/
def index (key : Str) : Json → Except StdException Json
  | null => .ok null
  | object members => .ok ((members.lookup key).getD null)
  | _ => .error .domainError

/-- `size`. -/
def size : Json → ℕ
  | null => 0
  | array elements => elements.length
  | object members => members.length
  | _ => 1

/-- `at` with a position. -/
def atIndex (i : ℕ) : Json → Except StdException Json
  | array elements =>
      match elements[i]? with
      | some element => .ok element
      | none => .error .outOfRange
  | _ => .error .domainError

/-- The conversion to `std::string`. -/
def getString : Json → Except StdException Str
  | string value => .ok value
  | _ => .error .domainError

/-- The conversion to `long long`. -/
def getInteger : Json → Except StdException ℤ
  | number value => .ok value
  | _ => .error .domainError

/-- The conversion to `std::vector<long long>`. -/
def getIntegers : Json → Except StdException (List ℤ)
  | array elements => elements.mapM getInteger
  | _ => .error .domainError

/-- The comparison with a string. -/
def equals (s : Str) : Json → Bool
  | string value => value = s
  | _ => false

end Json

/-! ### The executor -/

/-- What may be thrown while a request is served: an `interface::Exception` with its
text, or something else. -/
inductive Exception where
  | interface (what : Text)
  | std (exception : StdException)
  | network (stop : Network.Stop)
  deriving DecidableEq

/-- `CommandExecutorObjectInterface`, on the states `W` of the server. -/
structure CommandObject (W : Type) where
  isCommandSupported : Str → Bool
  execute : Text → EStateM Exception W Text

/-- `GetUnknownCommandErrorJson`. -/
def unknownCommandErrorJson : Text :=
  ⟨ascii "\x7b \"status\" : \"error\", \"message\" : \"Unknown command\" \x7d", by decide⟩

/-- `GetInvalidArgumentErrorJson`. -/
def invalidArgumentErrorJson : Text :=
  ⟨ascii "\x7b \"status\" : \"error\", \"message\" : \"Invalid argument\" \x7d", by decide⟩

/-- `CommandExecutor::GetErrorMessage`. -/
def errorMessage (what : Text) : Text :=
  ⟨ascii "\x7b \"status\" : \"error\", \"message\" : \"" ++ what.bytes ++ ascii "\" \x7d", by
    have h := what.nul_free
    simp only [List.mem_append, h, or_false, not_or]
    decide⟩

variable {W : Type}

/-- `json::parse`, which throws where the parser finds no value. -/
def parseJson (parse : Text → Option Json) (message : Text) : Except StdException Json :=
  match parse message with
  | some json => .ok json
  | none => .error .invalidArgument

/-- The command of a message. -/
def command (parse : Text → Option Json) (message : Text) : Except StdException Str := do
  let jsonObject ← parseJson parse message
  let command ← jsonObject.index (ascii "command")
  command.getString

/-- One round of the loop over the objects. -/
def executeObject (command : Str) (message result : Text) (object : CommandObject W) :
    EStateM Exception W Text := fun w =>
  if object.isCommandSupported command then
    match (object.execute message).run w with
    | .ok result w' => .ok result w'
    | .error (.interface what) w' => .ok (errorMessage what) w'
    | .error exception w' => .error exception w'
  else .ok result w

/-- `CommandExecutor::Execute`. -/
def execute (parse : Text → Option Json) (objects : List (CommandObject W)) (message : Text) :
    EStateM Exception W Text := do
  let command ← ofExcept ((command parse message).mapError .std)
  objects.foldlM (executeObject command message) unknownCommandErrorJson

/-! ### What the executor catches -/

/-- Nothing but an `interface::Exception` is thrown. -/
def Harmless (m : EStateM Exception W Text) (w : W) : Prop :=
  ∀ exception w', m.run w = .error exception w' → ∃ what, exception = .interface what

/-- `Caught command message objects result w response w'`: each object that supports the
command returns or throws an `interface::Exception`, and what they make of `result` in
the end is `response`. -/
inductive Caught (command : Str) (message : Text) :
    List (CommandObject W) → Text → W → Text → W → Prop
  | nil {result w} : Caught command message [] result w result w
  | unsupported {object objects result w response w'}
      (hsupported : object.isCommandSupported command = false)
      (hrest : Caught command message objects result w response w') :
      Caught command message (object :: objects) result w response w'
  | returns {object objects result w result' w₁ response w'}
      (hsupported : object.isCommandSupported command = true)
      (h : (object.execute message).run w = .ok result' w₁)
      (hrest : Caught command message objects result' w₁ response w') :
      Caught command message (object :: objects) result w response w'
  | throws {object objects result w what w₁ response w'}
      (hsupported : object.isCommandSupported command = true)
      (h : (object.execute message).run w = .error (.interface what) w₁)
      (hrest : Caught command message objects (errorMessage what) w₁ response w') :
      Caught command message (object :: objects) result w response w'

lemma executeObject_run {command : Str} {message result : Text} {object : CommandObject W} {w : W} :
    (executeObject command message result object).run w =
      if object.isCommandSupported command then
        match (object.execute message).run w with
        | .ok result w' => .ok result w'
        | .error (.interface what) w' => .ok (errorMessage what) w'
        | .error exception w' => .error exception w'
      else .ok result w := rfl

/-- One object: it has nothing to do with the command, or it returns, or what it throws
is caught. -/
lemma executeObject_ok_iff {command : Str} {message result result' : Text}
    {object : CommandObject W} {w w₁ : W} :
    (executeObject command message result object).run w = .ok result' w₁ ↔
      (object.isCommandSupported command = false ∧ result' = result ∧ w₁ = w) ∨
      (object.isCommandSupported command = true ∧ ((object.execute message).run w = .ok result' w₁ ∨
        ∃ what, (object.execute message).run w = .error (.interface what) w₁ ∧
          result' = errorMessage what)) := by
  rw [executeObject_run]
  cases object.isCommandSupported command with
  | false => simp [eq_comm]
  | true =>
      simp only [if_true]
      cases (object.execute message).run w with
      | ok returned w₂ => simp
      | error exception w₂ =>
          cases exception with
          | interface what => simp [eq_comm, and_comm]
          | std exception => simp
          | network stop => simp

lemma foldlM_executeObject_ok_iff {command : Str} {message result response : Text}
    {objects : List (CommandObject W)} {w w' : W} :
    (objects.foldlM (executeObject command message) result).run w = .ok response w' ↔
      Caught command message objects result w response w' := by
  induction objects generalizing result w with
  | nil =>
      constructor
      · intro h
        obtain ⟨rfl, rfl⟩ := EStateM.Result.ok.inj h
        exact .nil
      · intro h
        cases h
        rfl
  | cons object objects ih =>
      simp only [List.foldlM_cons, Calls.run_bind_eq_ok_iff, executeObject_ok_iff, ih]
      constructor
      · rintro ⟨result', w₁, ⟨hsupported, rfl, rfl⟩ | ⟨hsupported, hrun | ⟨what, hrun, rfl⟩⟩, hrest⟩
        · exact .unsupported hsupported hrest
        · exact .returns hsupported hrun hrest
        · exact .throws hsupported hrun hrest
      · intro h
        cases h with
        | unsupported hsupported hrest => exact ⟨_, _, .inl ⟨hsupported, rfl, rfl⟩, hrest⟩
        | returns hsupported hrun hrest => exact ⟨_, _, .inr ⟨hsupported, .inl hrun⟩, hrest⟩
        | throws hsupported hrun hrest =>
            exact ⟨_, _, .inr ⟨hsupported, .inr ⟨_, hrun, rfl⟩⟩, hrest⟩

/-- The executor answers if the message has a command and all objects are caught. -/
lemma execute_ok_iff {parse : Text → Option Json} {objects : List (CommandObject W)}
    {message response : Text} {w w' : W} :
    (execute parse objects message).run w = .ok response w' ↔
      ∃ name, command parse message = .ok name ∧
        Caught name message objects unknownCommandErrorJson w response w' := by
  simp only [execute, Calls.run_bind_eq_ok_iff, Calls.run_ofExcept_eq_ok_iff,
    Calls.mapError_eq_ok_iff, foldlM_executeObject_ok_iff]
  constructor
  · rintro ⟨name, _, ⟨hname, rfl⟩, h⟩
    exact ⟨name, hname, h⟩
  · rintro ⟨name, hname, h⟩
    exact ⟨name, w, ⟨hname, rfl⟩, h⟩

end Slas.Web
