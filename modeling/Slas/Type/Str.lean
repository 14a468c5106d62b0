import Mathlib

/-!
Strings of the standard library, which unlike C strings may hold any byte.
-/

namespace Slas

/-- `std::string`. -/
abbrev Str := List UInt8

/-- The byte of an ASCII character. -/
def byte (c : Char) : UInt8 := UInt8.ofNat c.toNat

/-- The bytes of an ASCII string. -/
def ascii (s : String) : Str := s.toList.map byte

end Slas
