import Dialogue.StringTable.Width
import Mathlib.Data.Nat.Digits.Defs
import Mathlib.Order.Bounds.Basic

/-!
# The least width that holds a number

A number is written with the least number of bytes, out of 1, 2, 3, 4 and 8, that holds it. The
bytes stand for that number again, so no other number is written the same. A last byte of zero
could be left out, so there is none unless the width has to be one byte or all eight.

* `value`: the number that bytes stand for, the lowest first.
* `IsNumberWriter`: what is asked of a writer of numbers with a given number of bytes.

Results:
* `value_littleEndian`, `getLast?_littleEndian`: what the lowest bytes of a number stand for, and
  the last of them.
* **`width_le_iff`**: for which numbers a width is enough.
* `exists_getLast?_minBytes`: the last byte is not zero.
* **`minBytes_least`**: numbers are written without loss, as short as the ladder allows, and without
  a panic.
-/

namespace Dialogue.StringTable

/-! ## The number that bytes stand for -/

/-- The number that bytes stand for, the lowest first. -/
def value (bytes : List UInt8) : Nat := Nat.ofDigits 256 (bytes.map UInt8.toNat)

/-- The lowest bytes of a number stand for its remainder. -/
theorem value_littleEndian (width n : Nat) : value (littleEndian width n) = n % 256 ^ width := by
  induction width generalizing n with
  | zero => rw [pow_zero, Nat.mod_one]; rfl
  | succ width ih =>
    have low : (UInt8.ofNat n).toNat = n % 256 := UInt8.toNat_ofNat'
    calc value (littleEndian (width + 1) n)
        = (UInt8.ofNat n).toNat + 256 * value (littleEndian width (n / 256)) := rfl
      _ = n % 256 + 256 * (n / 256 % 256 ^ width) := by rw [low, ih]
      _ = n % 256 ^ (width + 1) := by rw [pow_succ', Nat.mod_mul]

/-- The last of the lowest bytes. -/
theorem getLast?_littleEndian (width n : Nat) :
    (littleEndian (width + 1) n).getLast? = some (UInt8.ofNat (n / 256 ^ width)) := by
  induction width generalizing n with
  | zero => rw [pow_zero, Nat.div_one]; rfl
  | succ width ih =>
    have more : littleEndian (width + 1) (n / 256) ≠ [] := nofun
    rw [littleEndian, List.getLast?_cons_of_ne_nil more, ih, Nat.div_div_eq_div_mul, pow_succ']

/-! ## Widths -/

/-- **A width is enough for the numbers that it holds**, if the ladder offers it. -/
theorem width_le_iff {v : UInt64} {w : Nat} (hw : w ∈ [1, 2, 3, 4, 8]) :
    width v ≤ w ↔ v.toNat < 256 ^ w := by
  have bound := v.toNat_lt
  simp only [List.mem_cons, List.not_mem_nil, or_false] at hw
  unfold width
  rcases hw with rfl | rfl | rfl | rfl | rfl <;> norm_num <;> split_ifs <;> omega

theorem toNat_lt_pow_width (v : UInt64) : v.toNat < 256 ^ width v :=
  (width_le_iff (width_mem v)).mp le_rfl

theorem width_mono {v w : UInt64} (h : v ≤ w) : width v ≤ width w :=
  (width_le_iff (width_mem w)).mpr <|
    (UInt64.le_iff_toNat_le.mp h).trans_lt (toNat_lt_pow_width w)

/-- The width of a number is the least that the ladder offers for it. -/
theorem isLeast_width (v : UInt64) :
    IsLeast {w | w ∈ [1, 2, 3, 4, 8] ∧ v.toNat < 256 ^ w} (width v) :=
  ⟨⟨width_mem v, toNat_lt_pow_width v⟩, fun _ hw => (width_le_iff hw.1).mpr hw.2⟩

/-! ## What is written -/

/-- The bytes of a number stand for it. -/
theorem value_minBytes (v : UInt64) : value (minBytes v) = v.toNat := by
  rw [minBytes, value_littleEndian, Nat.mod_eq_of_lt (toNat_lt_pow_width v)]

theorem minBytes_injective : Function.Injective minBytes := by
  intro v w h
  have same := congrArg value h
  rw [value_minBytes, value_minBytes] at same
  exact UInt64.toNat_inj.mp same

/-- **The last byte is not zero** where one byte less would be on the ladder. -/
theorem exists_getLast?_minBytes {v : UInt64} (h : width v ∈ [2, 3, 4]) :
    ∃ last, (minBytes v).getLast? = some last ∧ last ≠ 0 := by
  -- The number does not fit into one byte less, so its last byte is at least one.
  obtain ⟨w, hw, hwidth⟩ : ∃ w, w ∈ [1, 2, 3, 4, 8] ∧ width v = w + 1 := by
    simp only [List.mem_cons, List.not_mem_nil, or_false] at h
    rcases h with h | h | h
    · exact ⟨1, by decide, h⟩
    · exact ⟨2, by decide, h⟩
    · exact ⟨3, by decide, h⟩
  have short : ¬ v.toNat < 256 ^ w := fun fits => by
    have := (width_le_iff hw).mpr fits
    omega
  have top : v.toNat / 256 ^ w < 256 := by
    have holds := toNat_lt_pow_width v
    rw [hwidth, pow_succ] at holds
    exact Nat.div_lt_of_lt_mul holds
  have pos : 0 < v.toNat / 256 ^ w := Nat.div_pos (Nat.not_lt.mp short) (by positivity)
  refine ⟨UInt8.ofNat (v.toNat / 256 ^ w), ?_, fun zero => ?_⟩
  · rw [minBytes, hwidth, getLast?_littleEndian]
  · have toNat : (UInt8.ofNat (v.toNat / 256 ^ w)).toNat = 0 := congrArg UInt8.toNat zero
    rw [UInt8.toNat_ofNat', Nat.mod_eq_of_lt top] at toNat
    omega

/-! ## Writers -/

/-- A writer of numbers with a given number of bytes, the lowest first. It panics, for which `none`
stands, if the number does not fit. -/
structure IsNumberWriter (write : UInt64 → Nat → Option (List UInt8)) : Prop where
  /-- A number that fits into one to eight bytes is written. -/
  writes : ∀ v w, 1 ≤ w → w ≤ 8 → v.toNat < 256 ^ w → write v w = some (littleEndian w v.toNat)
  /-- A number that does not fit is not. -/
  panics : ∀ v w, 256 ^ w ≤ v.toNat → write v w = none

theorem IsNumberWriter.write_width {write : UInt64 → Nat → Option (List UInt8)}
    (h : IsNumberWriter write) (v : UInt64) : write v (width v) = some (minBytes v) := by
  have offered : 1 ≤ width v ∧ width v ≤ 8 := by
    have := width_mem v
    simp only [List.mem_cons, List.not_mem_nil, or_false] at this
    omega
  exact h.writes v (width v) offered.1 offered.2 (toNat_lt_pow_width v)

/-- **Numbers are written without loss and as short as the ladder allows.** A number is written as
its width says, the bytes stand for it, and the width is the least on the ladder that holds it; the
last of two, three or four bytes is not zero. A greater number does not take fewer bytes, and no two
numbers are written the same. A writer that panics when a number does not fit never does so. -/
theorem minBytes_least :
    (∀ v, (minBytes v).length = width v ∧ value (minBytes v) = v.toNat ∧
      IsLeast {w | w ∈ [1, 2, 3, 4, 8] ∧ v.toNat < 256 ^ w} (width v) ∧
      (width v ∈ [2, 3, 4] → ∃ last, (minBytes v).getLast? = some last ∧ last ≠ 0)) ∧
    (∀ v w, v ≤ w → width v ≤ width w) ∧
    (∀ v w, minBytes v = minBytes w → v = w) ∧
    ∀ write, IsNumberWriter write → ∀ v, write v (width v) = some (minBytes v) :=
  ⟨fun v => ⟨length_minBytes v, value_minBytes v, isLeast_width v, exists_getLast?_minBytes⟩,
    fun _ _ => width_mono, fun _ _ h => minBytes_injective h, fun _ h => h.write_width⟩

/-- A writer that looks at the number of bytes first, and then whether the number fits. -/
def writeNumber (v : UInt64) (w : Nat) : Option (List UInt8) :=
  if 1 ≤ w ∧ w ≤ 8 ∧ v.toNat < 256 ^ w then some (littleEndian w v.toNat) else none

theorem isNumberWriter_writeNumber : IsNumberWriter writeNumber where
  writes _ _ pos le fits := if_pos ⟨pos, le, fits⟩
  panics _ _ long := if_neg fun h => Nat.not_lt.mpr long h.2.2

/-- The code point of a smiling face takes three bytes, of which the first is zero and the last is
not. Two bytes are not enough for it. -/
theorem minBytes_least_smile :
    width 0x1F600 ∈ [2, 3, 4] ∧ IsNumberWriter writeNumber ∧
      writeNumber 0x1F600 (width 0x1F600) = some [0x00, 0xF6, 0x01] ∧
      writeNumber 0x1F600 2 = none ∧ value [0x00, 0xF6, 0x01] = 0x1F600 ∧
      ∃ last, [0x00, 0xF6, 0x01].getLast? = some last ∧ last ≠ (0 : UInt8) := by
  have bytes : minBytes 0x1F600 = [0x00, 0xF6, 0x01] := by decide
  have three : width 0x1F600 ∈ [2, 3, 4] := by decide
  obtain ⟨each, -, -, writers⟩ := minBytes_least
  obtain ⟨-, whole, -, last⟩ := each 0x1F600
  have written := writers writeNumber isNumberWriter_writeNumber 0x1F600
  rw [bytes] at whole last written
  exact ⟨three, isNumberWriter_writeNumber, written,
    isNumberWriter_writeNumber.panics 0x1F600 2 (by decide), whole, last three⟩

end Dialogue.StringTable
