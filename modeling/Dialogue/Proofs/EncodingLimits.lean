import Dialogue.Plan
import Dialogue.Proofs.FirstFailure

/-!
# Tables that have no binary form

Counts are four bytes wide. A table with more rows than that, or with a text of more characters, has
no binary form, and nothing is stored for it. The number of rows is looked at first, then the values
of all rows, then the keys; the first text that is too long is reported with the number of its row.

* `StringTable.bytes`: the binary form that a table would have.
* `StringTable.fault?`: what keeps a table from having one.
* `StringTable.Overflows`: the same, told by the rows.

Results:
* `StringTable.encodeColumn_eq`: a column is written unless one of its entries has a fault.
* `StringTable.encode_eq`: a table is written unless it has a fault.
* `StringTable.fault?_eq_some_iff`: which fault that is.
* **`StringTable.encode_fails`**: when a table has no binary form, for which reason, and that storing
  it then changes nothing.
-/

namespace Dialogue

open Decimal Storage

namespace StringTable

/-! ## Entries -/

/-- The bytes of a text: its length and its characters, each with `padding` behind it. -/
def textBytes (padding : List UInt8) (text : String) : List UInt8 :=
  littleEndian 4 text.length ++ text.toList.flatMap fun c => charBytes c ++ padding

/-- The bytes of the value of the row with the given number. -/
def valueBytes (number : Nat) (r : Row) : List UInt8 :=
  littleEndian 4 number ++ separator ++ textBytes [0] r.value

/-- The bytes of the key of the row with the given number. -/
def keyBytes (number : Nat) (r : Row) : List UInt8 := littleEndian 4 number ++ textBytes [] r.key

/-- What is wrong with the text that the row with the given number has in a column. -/
def lengthFault? (column : Column) (text : Row → String) (r : Row) (number : Nat) :
    Option EncodingError :=
  if (text r).length < countLimit then none
  else some (.lengthOverflow number column (text r).length)

variable {column : Column} {text : Row → String}

theorem lengthFault?_eq_none_iff (r : Row) (number : Nat) :
    lengthFault? column text r number = none ↔ (text r).length < countLimit := by
  simp [lengthFault?]

theorem lengthFault?_eq_some_iff {r : Row} {number : Nat} {cause : EncodingError} :
    lengthFault? column text r number = some cause ↔
      countLimit ≤ (text r).length ∧ .lengthOverflow number column (text r).length = cause := by
  simp [lengthFault?]

theorem encodeText_eq (number : Nat) (padding : List UInt8) (r : Row) :
    encodeText number column padding (text r) =
      (lengthFault? column text r number).elim (.ok (textBytes padding (text r))) .error := by
  unfold encodeText lengthFault?
  by_cases h : (text r).length < countLimit
  · rw [if_pos h, if_pos h]
    rfl
  · rw [if_neg h, if_neg h]
    rfl

theorem encodeValue_eq (number : Nat) (r : Row) :
    encodeValue number r =
      (lengthFault? .value (·.value) r number).elim (.ok (valueBytes number r)) .error := by
  rw [encodeValue, encodeText_eq number [0] r]
  cases lengthFault? .value (·.value) r number <;> rfl

theorem encodeKey_eq (number : Nat) (r : Row) :
    encodeKey number r =
      (lengthFault? .key (·.key) r number).elim (.ok (keyBytes number r)) .error := by
  rw [encodeKey, encodeText_eq number [] r]
  cases lengthFault? .key (·.key) r number <;> rfl

/-! ## Columns -/

/-- The bytes of a column: the entries of all rows, which are numbered from 1. -/
def columnBytes (entry : Nat → Row → List UInt8) (rows : List Row) : List UInt8 :=
  (rows.zipIdx 1).flatMap fun p => entry p.2 p.1

/-- The first text of a column that is too long. -/
def columnFault? (column : Column) (text : Row → String) (rows : List Row) : Option EncodingError :=
  (rows.zipIdx 1).findSome? fun p => lengthFault? column text p.1 p.2

/-- A column is written unless an entry has a fault. The first fault counts. -/
theorem encodeColumn_eq {entry : Nat → Row → Except EncodingError (List UInt8)}
    {fault? : Row → Nat → Option EncodingError} {bytes : Nat → Row → List UInt8}
    (h : ∀ number r, entry number r = (fault? r number).elim (.ok (bytes number r)) .error)
    (number : Nat) (rows : List Row) :
    encodeColumn entry number rows =
      ((rows.zipIdx number).findSome? fun p => fault? p.1 p.2).elim
        (.ok ((rows.zipIdx number).flatMap fun p => bytes p.2 p.1)) .error := by
  induction rows generalizing number with
  | nil => rfl
  | cons r rows ih =>
    rw [encodeColumn, h, ih, List.zipIdx_cons, List.findSome?_cons, List.flatMap_cons]
    cases fault? r number with
    | some fault => rfl
    | none => cases (rows.zipIdx (number + 1)).findSome? fun p => fault? p.1 p.2 <;> rfl

theorem encodeValues_eq (rows : List Row) :
    encodeColumn encodeValue 1 rows =
      (columnFault? .value (·.value) rows).elim (.ok (columnBytes valueBytes rows)) .error :=
  encodeColumn_eq encodeValue_eq 1 rows

theorem encodeKeys_eq (rows : List Row) :
    encodeColumn encodeKey 1 rows =
      (columnFault? .key (·.key) rows).elim (.ok (columnBytes keyBytes rows)) .error :=
  encodeColumn_eq encodeKey_eq 1 rows

theorem columnFault?_eq_none_iff {rows : List Row} :
    columnFault? column text rows = none ↔ ∀ r ∈ rows, (text r).length < countLimit :=
  findSome?_zipIdx_eq_none_iff lengthFault?_eq_none_iff

theorem columnFault?_eq_some_iff {rows : List Row} {cause : EncodingError} :
    columnFault? column text rows = some cause ↔
      ∃ before r after, rows = before ++ r :: after ∧
        (∀ b ∈ before, (text b).length < countLimit) ∧ countLimit ≤ (text r).length ∧
        .lengthOverflow (before.length + 1) column (text r).length = cause := by
  unfold columnFault?
  rw [findSome?_zipIdx_eq_some_iff lengthFault?_eq_none_iff]
  simp only [lengthFault?_eq_some_iff, Nat.add_comm 1]

/-! ## Tables -/

/-- The binary form that a table has if nothing in it is too long. -/
def bytes (t : StringTable) : List UInt8 :=
  signature ++ littleEndian 4 t.size ++ columnBytes valueBytes t.rows ++ columnBytes keyBytes t.rows

/-- What keeps a table from having a binary form. -/
def fault? (t : StringTable) : Option EncodingError :=
  if t.size < countLimit then
    (columnFault? .value (·.value) t.rows).or (columnFault? .key (·.key) t.rows)
  else some (.rowCountOverflow t.size)

/-- Why a table has no binary form, told by its rows. -/
inductive Overflows (t : StringTable) : EncodingError → Prop
  /-- There are too many rows. -/
  | rows (many : countLimit ≤ t.size) : Overflows t (.rowCountOverflow t.size)
  /-- A value is too long, and those in front of it are not. -/
  | value {before after : List Row} {r : Row} (few : t.size < countLimit)
      (split : t.rows = before ++ r :: after)
      (earlier : ∀ b ∈ before, b.value.length < countLimit)
      (long : countLimit ≤ r.value.length) :
      Overflows t (.lengthOverflow (before.length + 1) .value r.value.length)
  /-- A key is too long, and neither the keys in front of it nor the values are. -/
  | key {before after : List Row} {r : Row} (few : t.size < countLimit)
      (values : ∀ b ∈ t.rows, b.value.length < countLimit)
      (split : t.rows = before ++ r :: after)
      (earlier : ∀ b ∈ before, b.key.length < countLimit)
      (long : countLimit ≤ r.key.length) :
      Overflows t (.lengthOverflow (before.length + 1) .key r.key.length)

variable {t : StringTable}

/-- The number that is reported is that of a row of the table, and four bytes count it. -/
theorem Overflows.row_le {row length : Nat} (h : t.Overflows (.lengthOverflow row column length)) :
    row ≤ t.size ∧ t.size < countLimit := by
  have behind : ∀ {before after : List Row} {r : Row}, t.rows = before ++ r :: after →
      before.length + 1 ≤ t.size := by
    intro before after r split
    rw [size, split, List.length_append, List.length_cons]
    omega
  rcases h with _ | ⟨few, split, -, -⟩ | ⟨few, -, split, -, -⟩
  · exact ⟨behind split, few⟩
  · exact ⟨behind split, few⟩

/-- A table is written unless it has a fault. -/
theorem encode_eq (t : StringTable) : t.encode = t.fault?.elim (.ok t.bytes) .error := by
  unfold encode fault?
  by_cases few : t.size < countLimit
  · rw [if_pos few, if_pos few, encodeValues_eq, encodeKeys_eq]
    cases columnFault? .value (·.value) t.rows with
    | some fault => rfl
    | none => cases columnFault? .key (·.key) t.rows <;> rfl
  · rw [if_neg few, if_neg few]
    rfl

theorem encode_eq_error_iff {cause : EncodingError} :
    t.encode = .error cause ↔ t.fault? = some cause := by
  rw [encode_eq]
  cases t.fault? <;> simp

theorem encode_eq_ok_iff {bytes : List UInt8} :
    t.encode = .ok bytes ↔ t.fault? = none ∧ t.bytes = bytes := by
  rw [encode_eq]
  cases t.fault? <;> simp

theorem fault?_eq_none_iff :
    t.fault? = none ↔ t.size < countLimit ∧
      ∀ r ∈ t.rows, r.key.length < countLimit ∧ r.value.length < countLimit := by
  unfold fault?
  by_cases few : t.size < countLimit
  · rw [if_pos few, Option.or_eq_none_iff, columnFault?_eq_none_iff, columnFault?_eq_none_iff]
    simp only [few, true_and, forall_and, and_comm]
  · simp [few]

theorem exists_fault_iff :
    (∃ cause, t.fault? = some cause) ↔
      countLimit ≤ t.size ∨
        ∃ r ∈ t.rows, countLimit ≤ r.key.length ∨ countLimit ≤ r.value.length := by
  rw [← Option.ne_none_iff_exists', ne_eq, fault?_eq_none_iff]
  simp only [Classical.not_and_iff_not_or_not, Classical.not_forall, Nat.not_lt, exists_prop]

theorem fault?_eq_some_iff {cause : EncodingError} : t.fault? = some cause ↔ t.Overflows cause := by
  unfold fault?
  constructor
  · by_cases few : t.size < countLimit
    · rw [if_pos few, Option.or_eq_some_iff, columnFault?_eq_some_iff, columnFault?_eq_none_iff,
        columnFault?_eq_some_iff]
      rintro (⟨before, r, after, split, earlier, long, rfl⟩ |
        ⟨values, before, r, after, split, earlier, long, rfl⟩)
      · exact .value few split earlier long
      · exact .key few values split earlier long
    · rw [if_neg few]
      rintro ⟨⟩
      exact .rows (Nat.not_lt.mp few)
  · rintro (many | ⟨few, split, earlier, long⟩ | ⟨few, values, split, earlier, long⟩)
    · rw [if_neg (Nat.not_lt.mpr many)]
    · rw [if_pos few, columnFault?_eq_some_iff.mpr ⟨_, _, _, split, earlier, long, rfl⟩]
      rfl
    · rw [if_pos few, columnFault?_eq_none_iff.mpr values,
        columnFault?_eq_some_iff.mpr ⟨_, _, _, split, earlier, long, rfl⟩]
      rfl

/-! ## Storing -/

/-- Nothing is stored for a table without a binary form. -/
theorem perform_savePlan_of_error {cause : EncodingError} (h : t.encode = .error cause)
    (tree : FileTree) (path : String) :
    (t.savePlan path).perform tree = { tree, failure := some (.encoding cause) } := by
  rw [savePlan, h]
  exact Plan.perform_failed tree (.encoding cause)

/-- **A table without a binary form has too many rows or too long a text, and is not stored.** A
table fails to be written exactly if it has more rows, or one of its keys or values more characters,
than four bytes count. Too many rows are reported whatever they hold. Otherwise the first value that
is too long is reported, or the first key if no value is, by the number of the row counted from 1
and the number of its characters; the row is one of the table's, and four bytes count it. The files
are then left as they are. -/
theorem encode_fails (t : StringTable) :
    ((∃ cause, t.encode = .error cause) ↔
        countLimit ≤ t.size ∨
          ∃ r ∈ t.rows, countLimit ≤ r.key.length ∨ countLimit ≤ r.value.length) ∧
      (∀ cause, t.encode = .error cause ↔ t.Overflows cause) ∧
      (∀ row column length, t.Overflows (.lengthOverflow row column length) →
        row ≤ t.size ∧ t.size < countLimit) ∧
      ∀ cause, t.encode = .error cause → ∀ (tree : FileTree) (path : String),
        (t.savePlan path).perform tree = { tree, failure := some (.encoding cause) } := by
  refine ⟨?_, fun cause => encode_eq_error_iff.trans fault?_eq_some_iff,
    fun row column length h => h.row_le, fun cause h => perform_savePlan_of_error h⟩
  simp only [encode_eq_error_iff]
  exact exists_fault_iff

/-- The key of the first row and the value of the second have one character more than four bytes
count. The value is reported, and the file it was to be stored in keeps what it holds. -/
theorem encode_fails_gate :
    let endless := String.ofList (List.replicate countLimit 'a')
    let t : StringTable := ⟨[⟨endless, "It is deep."⟩, ⟨"gate", endless⟩]⟩
    t.encode = .error (.lengthOverflow 2 .value countLimit) ∧
      ∀ tree : FileTree, ((t.savePlan "gate.stf").perform tree).tree = tree := by
  intro endless t
  have long : endless.length = countLimit := by
    rw [String.length_ofList, List.length_replicate]
  have short : "It is deep.".length < countLimit := by decide
  obtain ⟨-, causes, -, stored⟩ := t.encode_fails
  have failed : t.encode = .error (.lengthOverflow 2 .value countLimit) := by
    have overflows : t.Overflows _ :=
      .value (by decide : 2 < countLimit) (List.append_cons [] _ _) (by simpa using short)
        (Nat.le_of_eq long.symm)
    rw [long] at overflows
    exact (causes _).mpr overflows
  exact ⟨failed, fun tree => by rw [stored _ failed tree]⟩

end StringTable

end Dialogue
