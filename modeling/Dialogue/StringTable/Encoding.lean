import Dialogue.Storage.OsError
import Dialogue.StringTable.Basic
import Dialogue.StringTable.Width
import Dialogue.Decimal.Digits

/-!
# The binary form of a string table

A table is written as a signature, the number of its rows, the values of all rows and then the keys
of all rows. Rows are numbered from 1. Counts are four bytes wide; a character takes as few bytes as
`width` allows, and each character of a value is followed by a zero byte.

* `StringTable.encode`, `StringTable.reservation`: the binary form, and the space that is set aside
  for it.

Results:
* `StringTable.encode` fails only on counts that four bytes do not hold; the causes are the first
  two of `EncodingError`.
-/

namespace Dialogue

open Decimal Storage

/-- A column of the table, by its name. -/
structure Column where
  /-- The name as messages show it. -/
  name : String
  deriving DecidableEq, Repr

/-- The column of values. -/
def Column.value : Column := ⟨"value"⟩

/-- The column of keys. -/
def Column.key : Column := ⟨"key"⟩

/-- Why a table has no binary form, or none that was stored. -/
inductive EncodingError where
  /-- There are more rows than four bytes count. -/
  | rowCountOverflow (count : Nat)
  /-- A text has more characters than four bytes count. -/
  | lengthOverflow (row : Nat) (column : Column) (length : Nat)
  /-- The file could not be written. -/
  | io (cause : OsError)
  deriving DecidableEq, Repr

/-- The message for an encoding error. -/
def EncodingError.message : EncodingError → String
  | .rowCountOverflow count => "Row count " ++ numeral count ++ " does not fit in a 4-byte field"
  | .lengthOverflow row column length =>
    "Row " ++ numeral row ++ " has a " ++ column.name ++ " of " ++ numeral length ++
      " characters, which does not fit in a 4-byte field"
  | .io cause => "Failed to write string table: " ++ cause.message

namespace StringTable

/-- What every table starts with. -/
def signature : List UInt8 := [0xCD, 0xAB, 0, 0, 0, 0, 0, 0, 0]

/-- What stands between the number of a row and its value. -/
def separator : List UInt8 := [0xFF, 0xFF, 0xFF, 0xFF]

/-- The counts that four bytes hold are those below this one. -/
def countLimit : Nat := 0x100000000

/-- A character in as few bytes as the ladder allows. -/
def charBytes (c : Char) : List UInt8 := minBytes c.val.toUInt64

theorem toNat_toUInt64 (c : Char) : c.val.toUInt64.toNat = c.toNat := UInt32.toNat_toUInt64 c.val

/-- A text as its length and its characters, each with `padding` behind it. -/
def encodeText (row : Nat) (column : Column) (padding : List UInt8) (text : String) :
    Except EncodingError (List UInt8) :=
  if text.length < countLimit then
    .ok (littleEndian 4 text.length ++ text.toList.flatMap fun c => charBytes c ++ padding)
  else .error (.lengthOverflow row column text.length)

/-- The value of the row with the given number. -/
def encodeValue (number : Nat) (r : Row) : Except EncodingError (List UInt8) :=
  (encodeText number .value [0] r.value).map (littleEndian 4 number ++ separator ++ ·)

/-- The key of the row with the given number. -/
def encodeKey (number : Nat) (r : Row) : Except EncodingError (List UInt8) :=
  (encodeText number .key [] r.key).map (littleEndian 4 number ++ ·)

/-- One column: the entries of all rows, numbered from `number` on. -/
def encodeColumn (entry : Nat → Row → Except EncodingError (List UInt8)) (number : Nat) :
    List Row → Except EncodingError (List UInt8)
  | [] => .ok []
  | r :: rows => do
    let first ← entry number r
    let rest ← encodeColumn entry (number + 1) rows
    pure (first ++ rest)

/-- The binary form of a table. -/
def encode (t : StringTable) : Except EncodingError (List UInt8) :=
  if t.size < countLimit then do
    let values ← encodeColumn encodeValue 1 t.rows
    let keys ← encodeColumn encodeKey 1 t.rows
    pure (signature ++ littleEndian 4 t.size ++ values ++ keys)
  else .error (.rowCountOverflow t.size)

/-- The bytes to set aside before a table is written. Characters are not looked at: a text counts by
its length in UTF-8, and a value twice, as its characters are followed by zero bytes. -/
def reservation (t : StringTable) : Nat :=
  signature.length + 4 + t.size * 20 +
    t.rows.foldl (fun texts r => texts + (r.key.utf8ByteSize + 2 * r.value.utf8ByteSize)) 0

end StringTable

end Dialogue
