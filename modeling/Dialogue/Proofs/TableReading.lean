import Dialogue.StringTable.Encoding

/-!
# String tables are read back

The binary form of a table says how many rows there are and how many characters each text has, but
not how wide a character is. `StringTable.decode` is a reader that goes by these counts alone. It
takes the characters of a key to be one byte wide. A character of a value is one or two bytes wide
and ends with a zero byte: as the ladder never leaves the highest byte zero, the byte after the first
is zero exactly if it does not belong to the character.

* `StringTable.Legible`: the counts fit, and the characters are of the widths that the reader knows.

Results:
* `recovers_many`: what is written one after the other is read one after the other.
* `recovers_keyChar`, `recovers_valueChar`: a character is read back in front of any bytes.
* `encodeColumn_recovers`: a column is written, and read back with the numbers of its rows.
* **`decode_encode`**: a legible table is written and read back, and no other is written the same.
-/

namespace Dialogue.StringTable

/-! ## Reading -/

/-- Takes something off the front of the bytes. -/
abbrev ByteReader (α : Type) := List UInt8 → Option (α × List UInt8)

/-- The bytes behind `mark`. -/
def skip : (mark bytes : List UInt8) → Option (List UInt8)
  | [], bytes => some bytes
  | _ :: _, [] => none
  | m :: mark, b :: bytes => if b = m then skip mark bytes else none

/-- A little-endian number. -/
def readNumber : (width : Nat) → ByteReader Nat
  | 0, bytes => some (0, bytes)
  | _ + 1, [] => none
  | width + 1, b :: bytes =>
    (readNumber width bytes).map fun (high, bytes) => (b.toNat + 256 * high, bytes)

/-- As many things as are counted. -/
def readMany {α : Type} (read : ByteReader α) : (count : Nat) → ByteReader (List α)
  | 0, bytes => some ([], bytes)
  | count + 1, bytes => do
    let (a, bytes) ← read bytes
    let (as, bytes) ← readMany read count bytes
    return (a :: as, bytes)

/-- The character with the given number, if there is one. -/
def char? (n : Nat) : Option Char := if n.isValidChar then some (Char.ofNat n) else none

/-- A character of a key. -/
def readKeyChar : ByteReader Char
  | b :: bytes => (char? b.toNat).map (·, bytes)
  | [] => none

/-- A character of a value with the zero byte behind it. -/
def readValueChar : ByteReader Char
  | low :: 0 :: bytes => (char? low.toNat).map (·, bytes)
  | low :: high :: 0 :: bytes => (char? (low.toNat + 256 * high.toNat)).map (·, bytes)
  | _ => none

/-- A text: its length, and as many characters. -/
def readText (readChar : ByteReader Char) : ByteReader String := fun bytes => do
  let (length, bytes) ← readNumber 4 bytes
  let (cs, bytes) ← readMany readChar length bytes
  return (String.ofList cs, bytes)

/-- The number of a row and its value. -/
def readValue : ByteReader (Nat × String) := fun bytes => do
  let (number, bytes) ← readNumber 4 bytes
  let bytes ← skip separator bytes
  let (value, bytes) ← readText readValueChar bytes
  return ((number, value), bytes)

/-- The number of a row and its key. -/
def readKey : ByteReader (Nat × String) := fun bytes => do
  let (number, bytes) ← readNumber 4 bytes
  let (key, bytes) ← readText readKeyChar bytes
  return ((number, key), bytes)

/-- A table as its binary form shows it. -/
structure Columns where
  /-- The values, each with the number of its row. -/
  values : List (Nat × String)
  /-- The keys, each with the number of its row. -/
  keys : List (Nat × String)
  deriving DecidableEq, Repr

/-- The columns of a whole file. -/
def readColumns (bytes : List UInt8) : Option Columns := do
  let bytes ← skip signature bytes
  let (count, bytes) ← readNumber 4 bytes
  let (values, bytes) ← readMany readValue count bytes
  let (keys, bytes) ← readMany readKey count bytes
  if bytes.isEmpty then return { values, keys } else none

/-- The table with the given columns. -/
def Columns.table (c : Columns) : StringTable :=
  ⟨List.zipWith (fun key value => ⟨key.2, value.2⟩) c.keys c.values⟩

/-- The table of a whole file. -/
def decode (bytes : List UInt8) : Option StringTable := (readColumns bytes).map Columns.table

/-! ## What is read back -/

section

variable {α β : Type}

/-- In front of any bytes, `bytes` is read as `a`. -/
def Recovers (read : ByteReader α) (bytes : List UInt8) (a : α) : Prop :=
  ∀ rest, read (bytes ++ rest) = some (a, rest)

@[simp] theorem skip_append (mark rest : List UInt8) : skip mark (mark ++ rest) = some rest := by
  induction mark with
  | nil => rfl
  | cons m mark ih => simpa [skip] using ih

/-- A number is read back if it fits. -/
theorem recovers_littleEndian (width : Nat) {n : Nat} (h : n < Nat.pow 256 width) :
    Recovers (readNumber width) (littleEndian width n) n := by
  intro rest
  induction width generalizing n with
  | zero =>
    obtain rfl : n = 0 := Nat.lt_one_iff.mp h
    rfl
  | succ width ih =>
    have high : n / 256 < Nat.pow 256 width := Nat.div_lt_of_lt_mul (by rwa [Nat.mul_comm])
    rw [littleEndian, List.cons_append, readNumber, ih high]
    simp only [Option.map_some, UInt8.toNat_ofNat']
    rw [Nat.mod_add_div]

/-- What is written one after the other is read one after the other. -/
theorem recovers_many {read : ByteReader α} {write : α → List UInt8} {as : List α}
    (h : ∀ a ∈ as, Recovers read (write a) a) :
    Recovers (readMany read as.length) (as.flatMap write) as := by
  intro rest
  induction as with
  | nil => rfl
  | cons a as ih =>
    have later := ih fun b hb => h b (List.mem_cons_of_mem a hb)
    rw [List.flatMap_cons, List.append_assoc, List.length_cons, readMany,
      h a List.mem_cons_self]
    simp only [Option.bind_eq_bind, Option.bind_some, later]
    rfl

end

/-! ### Characters -/

theorem char?_toNat (c : Char) : char? c.toNat = some c := by
  have valid : c.toNat.isValidChar := c.valid
  rw [char?, if_pos valid, Char.ofNat_toNat]

theorem charBytes_of_lt {c : Char} (h : c.toNat < 0x100) :
    charBytes c = [UInt8.ofNat c.toNat] := by
  have hwidth : width c.val.toUInt64 = 1 := by rw [width, toNat_toUInt64, if_pos h]
  rw [charBytes, minBytes, hwidth, toNat_toUInt64]
  rfl

theorem charBytes_of_le {c : Char} (h : 0x100 ≤ c.toNat) (hlt : c.toNat < 0x10000) :
    charBytes c = [UInt8.ofNat c.toNat, UInt8.ofNat (c.toNat / 256)] := by
  have hwidth : width c.val.toUInt64 = 2 := by
    rw [width, toNat_toUInt64, if_neg (Nat.not_lt.mpr h), if_pos hlt]
  rw [charBytes, minBytes, hwidth, toNat_toUInt64]
  rfl

/-- A character below U+0100 is read back as it stands in keys. -/
theorem recovers_keyChar {c : Char} (h : c.toNat < 0x100) :
    Recovers readKeyChar (charBytes c) c := by
  intro rest
  have low : (UInt8.ofNat c.toNat).toNat = c.toNat := by
    rw [UInt8.toNat_ofNat']
    omega
  rw [charBytes_of_lt h, List.singleton_append, readKeyChar, low, char?_toNat]
  rfl

/-- A character below U+10000 is read back as it stands in values. -/
theorem recovers_valueChar {c : Char} (h : c.toNat < 0x10000) :
    Recovers readValueChar (charBytes c ++ [0]) c := by
  intro rest
  by_cases hc : c.toNat < 0x100
  · have low : (UInt8.ofNat c.toNat).toNat = c.toNat := by
      rw [UInt8.toNat_ofNat']
      omega
    rw [charBytes_of_lt hc]
    simp only [List.cons_append, List.nil_append, readValueChar, low, char?_toNat]
    rfl
  · -- The high byte is not zero, so it is not taken for the end.
    have high : (UInt8.ofNat (c.toNat / 256)).toNat = c.toNat / 256 := by
      rw [UInt8.toNat_ofNat']
      omega
    have both : (UInt8.ofNat c.toNat).toNat + 256 * (UInt8.ofNat (c.toNat / 256)).toNat =
        c.toNat := by
      rw [high, UInt8.toNat_ofNat']
      omega
    have hne : UInt8.ofNat (c.toNat / 256) ≠ 0 := by
      intro he
      rw [he] at high
      have : (0 : UInt8).toNat = 0 := rfl
      omega
    rw [charBytes_of_le (Nat.not_lt.mp hc) h]
    simp only [List.cons_append, List.nil_append]
    rw [readValueChar]
    · rw [both, char?_toNat]
      rfl
    · exact hne

/-! ### Texts and columns -/

/-- A text of characters that are read back is written and read back. -/
theorem encodeText_recovers {readChar : ByteReader Char} {padding : List UInt8} {text : String}
    (row : Nat) (column : Column) (hlength : text.length < countLimit)
    (h : ∀ c ∈ text.toList, Recovers readChar (charBytes c ++ padding) c) :
    ∃ bytes, encodeText row column padding text = .ok bytes ∧
      Recovers (readText readChar) bytes text := by
  refine ⟨_, if_pos hlength, fun rest => ?_⟩
  have number := recovers_littleEndian 4 hlength
  have chars := recovers_many h
  rw [String.length_toList] at chars
  rw [List.append_assoc, readText, number]
  simp only [Option.bind_eq_bind, Option.bind_some, chars _, String.ofList_toList]
  rfl

/-- The value of a row. -/
theorem encodeValue_recovers {number : Nat} {r : Row} (hnumber : number < countLimit)
    (hlength : r.value.length < countLimit) (h : ∀ c ∈ r.value.toList, c.toNat < 0x10000) :
    ∃ bytes, encodeValue number r = .ok bytes ∧ Recovers readValue bytes (number, r.value) := by
  obtain ⟨bytes, hbytes, text⟩ := encodeText_recovers number .value hlength
    fun c hc => recovers_valueChar (h c hc)
  refine ⟨littleEndian 4 number ++ separator ++ bytes, by rw [encodeValue, hbytes]; rfl,
    fun rest => ?_⟩
  rw [List.append_assoc, List.append_assoc, readValue, recovers_littleEndian 4 hnumber]
  simp only [Option.bind_eq_bind, Option.bind_some, skip_append, text rest]
  rfl

/-- The key of a row. -/
theorem encodeKey_recovers {number : Nat} {r : Row} (hnumber : number < countLimit)
    (hlength : r.key.length < countLimit) (h : ∀ c ∈ r.key.toList, c.toNat < 0x100) :
    ∃ bytes, encodeKey number r = .ok bytes ∧ Recovers readKey bytes (number, r.key) := by
  have chars : ∀ c ∈ r.key.toList, Recovers readKeyChar (charBytes c ++ []) c := fun c hc => by
    rw [List.append_nil]
    exact recovers_keyChar (h c hc)
  obtain ⟨bytes, hbytes, text⟩ := encodeText_recovers number .key hlength chars
  refine ⟨littleEndian 4 number ++ bytes, by rw [encodeKey, hbytes]; rfl, fun rest => ?_⟩
  rw [List.append_assoc, readKey, recovers_littleEndian 4 hnumber]
  simp only [Option.bind_eq_bind, Option.bind_some, text rest]
  rfl

/-- A column is written, and read back with the numbers of its rows. -/
theorem encodeColumn_recovers {entry : Nat → Row → Except EncodingError (List UInt8)}
    {read : ByteReader (Nat × String)} {text : Row → String} {rows : List Row} (number : Nat)
    (hnumber : number + rows.length ≤ countLimit)
    (h : ∀ r ∈ rows, ∀ n < countLimit,
      ∃ bytes, entry n r = .ok bytes ∧ Recovers read bytes (n, text r)) :
    ∃ bytes, encodeColumn entry number rows = .ok bytes ∧
      Recovers (readMany read rows.length) bytes
        ((List.range' number rows.length).zip (rows.map text)) := by
  induction rows generalizing number with
  | nil => exact ⟨[], rfl, fun rest => rfl⟩
  | cons r rows ih =>
    rw [List.length_cons] at hnumber
    obtain ⟨first, hfirst, here⟩ := h r List.mem_cons_self number (by omega)
    obtain ⟨later, hlater, there⟩ := ih (number + 1) (by omega)
      fun s hs => h s (List.mem_cons_of_mem r hs)
    refine ⟨first ++ later, by rw [encodeColumn, hfirst, hlater]; rfl, fun rest => ?_⟩
    rw [List.append_assoc, List.length_cons, readMany, here]
    simp only [Option.bind_eq_bind, Option.bind_some, there rest]
    rfl

/-! ## Tables -/

/-- A table whose binary form can be read by its counts. -/
structure Legible (t : StringTable) : Prop where
  /-- Four bytes hold the number of rows. -/
  size_lt : t.size < countLimit
  /-- Four bytes hold the length of each key. -/
  key_length_lt : ∀ r ∈ t.rows, r.key.length < countLimit
  /-- Four bytes hold the length of each value. -/
  value_length_lt : ∀ r ∈ t.rows, r.value.length < countLimit
  /-- Keys have no character above U+00FF. -/
  key_char_le : ∀ r ∈ t.rows, ∀ c ∈ r.key.toList, c.toNat ≤ 0xFF
  /-- Values have no character above U+FFFF. -/
  value_char_le : ∀ r ∈ t.rows, ∀ c ∈ r.value.toList, c.toNat ≤ 0xFFFF

/-- The columns of a table, with its rows numbered from 1. -/
def columns (t : StringTable) : Columns where
  values := (List.range' 1 t.size).zip (t.rows.map (·.value))
  keys := (List.range' 1 t.size).zip (t.rows.map (·.key))

theorem table_columns (t : StringTable) : t.columns.table = t := by
  obtain ⟨rows⟩ := t
  suffices h : ∀ number, List.zipWith (fun key value => (⟨key.2, value.2⟩ : Row))
      ((List.range' number rows.length).zip (rows.map (·.key)))
      ((List.range' number rows.length).zip (rows.map (·.value))) = rows from
    congrArg StringTable.mk (h 1)
  induction rows with
  | nil => exact fun _ => rfl
  | cons r rows ih => exact fun number => congrArg (r :: ·) (ih (number + 1))

/-- A legible table is written, and its columns are read back. -/
theorem encode_eq_ok {t : StringTable} (h : t.Legible) :
    ∃ bytes, t.encode = .ok bytes ∧ readColumns bytes = some t.columns := by
  have hcount : 1 + t.rows.length ≤ countLimit := by
    have := h.size_lt
    rw [size] at this
    omega
  have value : ∀ r ∈ t.rows, ∀ n < countLimit, ∃ bytes, encodeValue n r = .ok bytes ∧
      Recovers readValue bytes (n, r.value) := fun r hr n hn =>
    encodeValue_recovers hn (h.value_length_lt r hr) fun c hc =>
      Nat.lt_succ_of_le (h.value_char_le r hr c hc)
  have key : ∀ r ∈ t.rows, ∀ n < countLimit, ∃ bytes, encodeKey n r = .ok bytes ∧
      Recovers readKey bytes (n, r.key) := fun r hr n hn =>
    encodeKey_recovers hn (h.key_length_lt r hr) fun c hc =>
      Nat.lt_succ_of_le (h.key_char_le r hr c hc)
  obtain ⟨values, hvalues, valuesRead⟩ := encodeColumn_recovers 1 hcount value
  obtain ⟨keys, hkeys, keysRead⟩ := encodeColumn_recovers 1 hcount key
  refine ⟨signature ++ littleEndian 4 t.size ++ values ++ keys, ?_, ?_⟩
  · rw [encode, if_pos h.size_lt, hvalues, hkeys]
    rfl
  · have last := keysRead []
    rw [List.append_nil] at last
    rw [List.append_assoc, List.append_assoc, readColumns, skip_append]
    simp only [Option.bind_eq_bind, Option.bind_some,
      recovers_littleEndian 4 h.size_lt _]
    rw [size, valuesRead keys]
    simp only [Option.bind_some, last]
    rfl

/-- **A legible table is written and read back**, with its rows numbered from 1 in order in both
columns; no other legible table is written the same. -/
theorem decode_encode {t : StringTable} (h : t.Legible) :
    ∃ bytes, t.encode = .ok bytes ∧ decode bytes = some t ∧
      (∃ c, readColumns bytes = some c ∧
        c.values = (List.range' 1 t.size).zip (t.rows.map (·.value)) ∧
        c.keys = (List.range' 1 t.size).zip (t.rows.map (·.key))) ∧
      ∀ u : StringTable, u.Legible → u.encode = .ok bytes → u = t := by
  obtain ⟨bytes, hbytes, hread⟩ := encode_eq_ok h
  have decoded : decode bytes = some t := by rw [decode, hread, Option.map_some, table_columns]
  refine ⟨bytes, hbytes, decoded, ⟨t.columns, hread, rfl, rfl⟩, fun u hu hsame => ?_⟩
  obtain ⟨other, hother, otherRead⟩ := encode_eq_ok hu
  obtain rfl : other = bytes := Except.ok.inj (hother.symm.trans hsame)
  rw [decode, otherRead, Option.map_some, table_columns] at decoded
  exact Option.some.inj decoded

/-- A repeated key, an empty key and an empty value, and the characters at the bounds. -/
def narrows : StringTable := ⟨[⟨"a", "\x00\uFFFF"⟩, ⟨"a", ""⟩, ⟨"", "\u00FFĀ"⟩]⟩

theorem decode_encode_narrows :
    narrows.Legible ∧ ∃ bytes, narrows.encode = .ok bytes ∧ decode bytes = some narrows := by
  have legible : narrows.Legible := by constructor <;> simp [narrows, size] <;> decide
  obtain ⟨bytes, hbytes, hdecode, -⟩ := decode_encode legible
  exact ⟨legible, bytes, hbytes, hdecode⟩

/-- The bound on keys is sharp: the high byte of one character passes for the next character. -/
example : (⟨[⟨"\u0141\u0041", ""⟩]⟩ : StringTable).encode =
    (⟨[⟨"\u0041\u4101", ""⟩]⟩ : StringTable).encode := by
  rfl

end Dialogue.StringTable
