import Dialogue.Proofs.EncodingLimits
import Mathlib.Algebra.BigOperators.Ring.List
import Mathlib.Algebra.Order.BigOperators.Group.List
import Mathlib.Algebra.Order.Ring.Nat

/-!
# The length of the binary form

A row takes twenty bytes for its number, which stands in both columns, the separator and the lengths
of its two texts. The rest is characters: each takes as many bytes as its width, and in a value one
more for the zero byte. The space for a table is set aside before any character is looked at, by the
lengths of the texts in UTF-8. UTF-8 takes one byte more from U+0080, from U+0800 and from U+10000
on, the ladder of widths from U+0100 and from U+10000 on. So a width is never more than the bytes in
UTF-8, and less by one at most.

* `rowLength`, `rowReservation`: the bytes of a row, and those that are set aside for it.

Results:
* `width_le_utf8Size`, `utf8Size_le_width_succ`: the two measures of a character.
* `utf8ByteSize_eq_sum`, `length_textBytes`: the two measures of a text.
* `length_bytes`, `reservation_eq`: tables are measured row by row.
* **`encode_within_reservation`**: how long the binary form is, that there is room for it in what is
  set aside, and that the room is at most twice as much as is needed.
-/

namespace Dialogue.StringTable

/-! ## Characters -/

/-- The bytes of a character in UTF-8, by its code point. -/
theorem utf8Size_eq (c : Char) :
    c.utf8Size = if c.toNat < 0x80 then 1 else if c.toNat < 0x800 then 2
      else if c.toNat < 0x10000 then 3 else 4 := by
  have le (bound : UInt32) : c.val ≤ bound ↔ c.toNat < bound.toNat + 1 :=
    UInt32.le_iff_toNat_le.trans Nat.lt_succ_iff.symm
  simp only [Char.utf8Size, le]
  rfl

/-- A character is not wider than in UTF-8. Below U+0100 it takes one byte, and from U+10000 on
three are enough, as there are no code points above U+10FFFF; in between it takes two, and UTF-8 at
least as many. -/
theorem width_le_utf8Size (c : Char) : width c.val.toUInt64 ≤ c.utf8Size := by
  have valid : c.toNat < 0xD800 ∨ 0xDFFF < c.toNat ∧ c.toNat < 0x110000 := c.valid
  rw [width, toNat_toUInt64, utf8Size_eq]
  split_ifs <;> omega

/-- In UTF-8 a character takes at most one byte more than its width. -/
theorem utf8Size_le_width_succ (c : Char) : c.utf8Size ≤ width c.val.toUInt64 + 1 := by
  rw [width, toNat_toUInt64, utf8Size_eq]
  split_ifs <;> omega

/-- With a zero byte behind it, a character takes at most twice its bytes in UTF-8. -/
theorem width_succ_le_mul_utf8Size (c : Char) : width c.val.toUInt64 + 1 ≤ 2 * c.utf8Size := by
  have := width_le_utf8Size c
  have := c.utf8Size_pos
  omega

theorem utf8Size_le_mul_width (c : Char) : c.utf8Size ≤ 2 * width c.val.toUInt64 := by
  have := utf8Size_le_width_succ c
  have := width_pos c.val.toUInt64
  omega

/-! ## Texts -/

/-- What is at most so many times as much for each member is so for the sum. -/
theorem sum_map_le_mul {α : Type} {f g : α → Nat} {factor : Nat} (h : ∀ a, f a ≤ factor * g a)
    (as : List α) : (as.map f).sum ≤ factor * (as.map g).sum := by
  rw [← List.sum_map_mul_left]
  exact List.sum_le_sum fun a _ => h a

/-- A text has in UTF-8 the bytes of its characters. -/
theorem utf8ByteSize_eq_sum (text : String) :
    text.utf8ByteSize = (text.toList.map Char.utf8Size).sum := by
  suffices h : ∀ cs : List Char, (String.ofList cs).utf8ByteSize = (cs.map Char.utf8Size).sum by
    simpa using h text.toList
  intro cs
  induction cs with
  | nil => rfl
  | cons c cs ih =>
    rw [String.ofList_cons, String.utf8ByteSize_append, String.utf8ByteSize_singleton, ih,
      List.map_cons, List.sum_cons]

theorem length_textBytes (padding : List UInt8) (text : String) :
    (textBytes padding text).length =
      4 + (text.toList.map fun c => width c.val.toUInt64 + padding.length).sum := by
  simp only [textBytes, charBytes, List.length_append, List.length_flatMap, length_littleEndian,
    length_minBytes]

/-! ## Rows -/

/-- The bytes of the characters of a value, each with a zero byte behind it. -/
def valueWidth (r : Row) : Nat := (r.value.toList.map fun c => width c.val.toUInt64 + 1).sum

/-- The bytes of the characters of a key. -/
def keyWidth (r : Row) : Nat := (r.key.toList.map fun c => width c.val.toUInt64).sum

/-- The bytes of a row in both columns. -/
def rowLength (r : Row) : Nat := 20 + valueWidth r + keyWidth r

/-- The bytes that are set aside for a row. -/
def rowReservation (r : Row) : Nat := 20 + (r.key.utf8ByteSize + 2 * r.value.utf8ByteSize)

theorem length_valueBytes (number : Nat) (r : Row) :
    (valueBytes number r).length = 12 + valueWidth r := by
  have text : (textBytes [0] r.value).length = 4 + valueWidth r := length_textBytes [0] r.value
  have mark : separator.length = 4 := rfl
  rw [valueBytes, List.length_append, List.length_append, length_littleEndian, mark, text]
  omega

theorem length_keyBytes (number : Nat) (r : Row) :
    (keyBytes number r).length = 8 + keyWidth r := by
  have text : (textBytes [] r.key).length = 4 + keyWidth r := length_textBytes [] r.key
  rw [keyBytes, List.length_append, length_littleEndian, text]
  omega

theorem valueWidth_le (r : Row) : valueWidth r ≤ 2 * r.value.utf8ByteSize := by
  rw [utf8ByteSize_eq_sum]
  exact sum_map_le_mul width_succ_le_mul_utf8Size r.value.toList

theorem keyWidth_le (r : Row) : keyWidth r ≤ r.key.utf8ByteSize := by
  rw [utf8ByteSize_eq_sum]
  exact List.sum_le_sum fun c _ => width_le_utf8Size c

theorem rowLength_le (r : Row) : rowLength r ≤ rowReservation r := by
  have := valueWidth_le r
  have := keyWidth_le r
  unfold rowLength rowReservation
  omega

theorem rowReservation_le (r : Row) : rowReservation r ≤ 2 * rowLength r := by
  have value : r.value.utf8ByteSize ≤ valueWidth r := by
    rw [utf8ByteSize_eq_sum]
    exact List.sum_le_sum fun c _ => utf8Size_le_width_succ c
  have key : r.key.utf8ByteSize ≤ 2 * keyWidth r := by
    rw [utf8ByteSize_eq_sum]
    exact sum_map_le_mul utf8Size_le_mul_width r.key.toList
  unfold rowLength rowReservation
  omega

/-! ## Tables -/

/-- A column is as long as the entries of its rows, if their numbers do not count. -/
theorem length_columnBytes {entry : Nat → Row → List UInt8} {size : Row → Nat}
    (h : ∀ number r, (entry number r).length = size r) (rows : List Row) :
    (columnBytes entry rows).length = (rows.map size).sum := by
  calc (columnBytes entry rows).length
      = ((rows.zipIdx 1).map fun p => size p.1).sum := by
        simp only [columnBytes, List.length_flatMap, h]
    _ = (((rows.zipIdx 1).map Prod.fst).map size).sum := by rw [List.map_map]; rfl
    _ = (rows.map size).sum := by rw [List.zipIdx_map_fst]

variable {t : StringTable}

theorem length_bytes (t : StringTable) : t.bytes.length = 13 + (t.rows.map rowLength).sum := by
  have columns : (t.rows.map rowLength).sum =
      (t.rows.map fun r => 12 + valueWidth r).sum + (t.rows.map fun r => 8 + keyWidth r).sum := by
    rw [← List.sum_map_add]
    refine congrArg List.sum (List.map_congr_left fun r _ => ?_)
    unfold rowLength
    omega
  have front : signature.length = 9 := rfl
  rw [bytes, List.length_append, List.length_append, List.length_append, front, length_littleEndian,
    length_columnBytes length_valueBytes, length_columnBytes length_keyBytes, columns,
    Nat.add_assoc]

theorem reservation_eq (t : StringTable) :
    t.reservation = 13 + (t.rows.map rowReservation).sum := by
  have texts : t.rows.foldl (fun n r => n + (r.key.utf8ByteSize + 2 * r.value.utf8ByteSize)) 0 =
      (t.rows.map fun r => r.key.utf8ByteSize + 2 * r.value.utf8ByteSize).sum := by
    rw [List.sum_eq_foldl, List.foldl_map]
  have rows : (t.rows.map rowReservation).sum = t.size * 20 +
      (t.rows.map fun r => r.key.utf8ByteSize + 2 * r.value.utf8ByteSize).sum := by
    unfold rowReservation size
    rw [List.sum_map_add, List.map_const', List.sum_replicate_nat]
  have front : signature.length = 9 := rfl
  rw [reservation, texts, rows, front, Nat.add_assoc]

/-- The space that is set aside is enough. -/
theorem length_bytes_le (t : StringTable) : t.bytes.length ≤ t.reservation := by
  rw [length_bytes, reservation_eq]
  exact Nat.add_le_add_left (List.sum_le_sum fun r _ => rowLength_le r) 13

/-- At least half of the space that is set aside is needed. -/
theorem reservation_le (t : StringTable) : t.reservation ≤ 2 * t.bytes.length := by
  have rows := sum_map_le_mul rowReservation_le t.rows
  rw [length_bytes, reservation_eq]
  omega

/-- **The binary form has a known length, and there is room for it in what is set aside.** A table
that is written takes thirteen bytes, and for each row twenty, the widths of the characters of its
value with one byte more for each, and the widths of the characters of its key. This is no more than
is set aside. What has been written at any time is a beginning of it, so there is room for that
as well. At least half of the room is needed: where fewer than 2^63 bytes are written, 64 bits hold
the size of the room, and adding it up does not wrap around. -/
theorem encode_within_reservation {bytes : List UInt8} (h : t.encode = .ok bytes) :
    bytes.length = 13 + (t.rows.map fun r =>
        20 + (r.value.toList.map fun c => width c.val.toUInt64 + 1).sum +
          (r.key.toList.map fun c => width c.val.toUInt64).sum).sum ∧
      bytes.length ≤ t.reservation ∧
      (∀ written, written <+: bytes → written.length ≤ t.reservation) ∧
      t.reservation ≤ 2 * bytes.length := by
  obtain ⟨-, rfl⟩ := encode_eq_ok_iff.mp h
  exact ⟨length_bytes t, length_bytes_le t,
    fun written beginning => beginning.length_le.trans (length_bytes_le t), reservation_le t⟩

/-- A price list with characters of each length in UTF-8 and of each width that characters have. -/
def prices : StringTable := ⟨[⟨"thé", "3 €"⟩, ⟨"ō", "🍵"⟩]⟩

/-- The price list takes 69 bytes, for which 77 are set aside. -/
theorem encode_within_reservation_prices :
    ∃ bytes, prices.encode = .ok bytes ∧ bytes.length = 69 ∧ prices.reservation = 77 ∧
      ∀ written, written <+: bytes → written.length ≤ 77 := by
  have written : prices.encode = .ok prices.bytes := encode_eq_ok_iff.mpr ⟨by decide, rfl⟩
  have room : prices.reservation = 77 := by decide
  obtain ⟨length, -, fits, -⟩ := encode_within_reservation written
  rw [room] at fits
  exact ⟨prices.bytes, written, length.trans (by decide), room, fits⟩

/-- Texts in ASCII leave nothing of the room. -/
example : (⟨[⟨"tea", "3 p"⟩]⟩ : StringTable).bytes.length =
    (⟨[⟨"tea", "3 p"⟩]⟩ : StringTable).reservation := by decide

end Dialogue.StringTable
