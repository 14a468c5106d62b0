import Mathlib

/-!
C strings: the texts that cross the sockets, the message bus and the `?`
placeholders of the SQL statements, all of them as `c_str()` pointers.
-/

namespace Slas

/-- A C string: its bytes, none of them the terminating NUL. -/
structure Text where
  bytes : List UInt8
  nul_free : 0 ∉ bytes
  deriving DecidableEq

namespace Text

@[ext] lemma ext_bytes {s t : Text} (h : s.bytes = t.bytes) : s = t := by
  cases s; cases t; simp_all

/-- Bytes compare as numbers, and strings by their first difference, as
`std::string::operator<` has it. -/
def key (t : Text) : List ℕ := t.bytes.map UInt8.toNat

lemma key_injective : Function.Injective key := fun _ _ h =>
  ext_bytes (List.map_injective_iff.mpr (fun _ _ => UInt8.toNat_inj.mp) h)

instance : LinearOrder Text := LinearOrder.lift' key key_injective

/-- Dropping bytes from a C string leaves a C string. -/
def filter (p : UInt8 → Bool) (t : Text) : Text :=
  ⟨t.bytes.filter p, fun h => t.nul_free (List.mem_filter.mp h).1⟩

@[simp] lemma filter_bytes (p : UInt8 → Bool) (t : Text) :
    (t.filter p).bytes = t.bytes.filter p := rfl

end Text

/-- The C string a buffer begins with. -/
def cString (buffer : List UInt8) : Text :=
  ⟨buffer.takeWhile (· ≠ 0), fun h => by simpa using List.mem_takeWhile_imp h⟩

end Slas
