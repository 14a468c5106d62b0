import Mathlib
import Slas.Type.Str

/-!
`std::stoi` and `std::stoll`, which read the number a string begins with.

* `StdException`: what they and other functions of the standard library throw;
* `parseInteger`: spaces, a sign and digits; whatever follows them is not looked at.
-/

namespace Slas

/-- Exceptions of the standard library. -/
inductive StdException where
  | invalidArgument
  | outOfRange
  | domainError
  deriving DecidableEq, Repr

/-- `std::isspace`. -/
def isSpace (c : UInt8) : Bool := c = byte ' ' || (9 ≤ c && c ≤ 13)

/-- `std::isdigit`, the class `\d`. -/
def isDigit (c : UInt8) : Bool := byte '0' ≤ c && c ≤ byte '9'

/-- The number that decimal digits denote. -/
def ofDigits (digits : Str) : ℤ :=
  digits.foldl (fun n c => 10 * n + (c.toNat - (byte '0').toNat : ℤ)) 0

/-- The digits a string begins with, as a number with the given sign. -/
def parseDigits (min max sign : ℤ) (str : Str) : Except StdException ℤ :=
  let digits := str.takeWhile isDigit
  let value := sign * ofDigits digits
  if digits = [] then .error .invalidArgument
  else if min ≤ value ∧ value ≤ max then .ok value
  else .error .outOfRange

/-- A number in a range. -/
def parseInteger (min max : ℤ) (str : Str) : Except StdException ℤ :=
  match str.dropWhile isSpace with
  | [] => .error .invalidArgument
  | c :: rest =>
      if c = byte '-' then parseDigits min max (-1) rest
      else if c = byte '+' then parseDigits min max 1 rest
      else parseDigits min max 1 (c :: rest)

/-- `std::stoi`. -/
def stoi (str : Str) : Except StdException Int32 :=
  (parseInteger (-2147483648) 2147483647 str).map Int32.ofInt

/-- `std::stoll`. -/
def stoll (str : Str) : Except StdException ℤ :=
  parseInteger (-9223372036854775808) 9223372036854775807 str

example : stoi (ascii " -42x") = .ok (-42) := by decide

end Slas
