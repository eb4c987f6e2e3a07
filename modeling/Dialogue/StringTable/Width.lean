/-!
# Numbers in as few bytes as the ladder allows

A string table writes a character as a little-endian number of 1, 2, 3, 4 or 8 bytes, whichever is
the least that holds it.

Results:
* `length_littleEndian`, `length_minBytes`: how many bytes are written.
* `width_mem`: only the five widths occur.
* `lt_shiftLeft_width`: the width holds the number.
-/

namespace Dialogue.StringTable

/-- The `width` lowest bytes of a number, the lowest first. -/
def littleEndian : (width : Nat) → (n : Nat) → List UInt8
  | 0, _ => []
  | width + 1, n => UInt8.ofNat n :: littleEndian width (n / 256)

@[simp] theorem length_littleEndian (width n : Nat) : (littleEndian width n).length = width := by
  induction width generalizing n with
  | zero => rfl
  | succ width ih => simp [littleEndian, ih]

/-- The number of bytes for a number: the least of 1, 2, 3, 4 and 8 that hold it. -/
def width (v : UInt64) : Nat :=
  if v.toNat < 0x100 then 1
  else if v.toNat < 0x10000 then 2
  else if v.toNat < 0x1000000 then 3
  else if v.toNat < 0x100000000 then 4
  else 8

/-- A number in as few bytes as the ladder allows. -/
def minBytes (v : UInt64) : List UInt8 := littleEndian (width v) v.toNat

@[simp] theorem length_minBytes (v : UInt64) : (minBytes v).length = width v := by
  simp [minBytes]

theorem width_mem (v : UInt64) : width v ∈ [1, 2, 3, 4, 8] := by
  unfold width
  repeat' split
  all_goals simp

theorem width_pos (v : UInt64) : 0 < width v := by
  have := width_mem v
  simp only [List.mem_cons, List.not_mem_nil, or_false] at this
  omega

theorem lt_shiftLeft_width (v : UInt64) : v.toNat < 1 <<< (8 * width v) := by
  have := v.toNat_lt
  unfold width
  repeat' split
  all_goals omega

end Dialogue.StringTable
