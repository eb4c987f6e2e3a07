import Dialogue.Decimal.Shortest
import Dialogue.Text.Quoted

/-!
# What can be wrong with a JSON text

A text is read from front to back, and the first problem ends the reading: the text is malformed, it
is cut off, or it is well formed so far and does not fit what is expected at that place.

Results:
* `Mismatch.message` is the wording of the third kind.
-/

namespace Dialogue.Json

open Decimal Text

/-- A number as it was read. -/
inductive Number where
  /-- A natural number of at most 64 bits. -/
  | natural (n : Nat)
  /-- The negative of a number from 1 to 9223372036854775808. -/
  | negative (n : Nat)
  /-- Any other number, with its sign. -/
  | float (isNegative : Bool) (magnitude : Binary64)
  deriving DecidableEq, Repr

/-- What was found instead of what was expected. -/
inductive Found where
  /-- The word `null`. -/
  | null
  /-- A truth value. -/
  | boolean (value : Bool)
  /-- A number. -/
  | number (value : Number)
  /-- A text. -/
  | text (value : String)
  /-- A list. -/
  | list
  /-- An object. -/
  | object
  deriving DecidableEq, Repr

/-- Numbers in messages are positional while the leading digit stands between the fifth place after
the point and the sixteenth before it. -/
def floatLayout : FloatLayout := ⟨-5, 15⟩

/-- How a message describes a number. -/
def Number.describe : Number → String
  | .natural n => "integer `" ++ numeral n ++ "`"
  | .negative n => "integer `-" ++ numeral n ++ "`"
  | .float isNegative x =>
    "floating point `" ++ (if isNegative then "-" else "") ++
      String.ofList (floatLayout.text x) ++ "`"

/-- How a message describes what was found. -/
def Found.describe : Found → String
  | .null => "null"
  | .boolean value => "boolean `" ++ (if value then "true" else "false") ++ "`"
  | .number value => value.describe
  | .text value => "string " ++ quoted value
  | .list => "sequence"
  | .object => "map"

/-- How a value does not fit. -/
inductive Mismatch where
  /-- A value of another kind was expected. -/
  | invalidType (found : Found) (expected : String)
  /-- The kind is right and the value is out of range. -/
  | invalidValue (found : Found) (expected : String)
  /-- A list ends too early. -/
  | invalidLength (length : Nat) (expected : String)
  /-- An object lacks a field. -/
  | missingField (name : String)
  /-- An object has a field twice. -/
  | duplicateField (name : String)
  deriving DecidableEq, Repr

/-- The message for a mismatch. -/
def Mismatch.message : Mismatch → String
  | .invalidType found expected => "invalid type: " ++ found.describe ++ ", expected " ++ expected
  | .invalidValue found expected => "invalid value: " ++ found.describe ++ ", expected " ++ expected
  | .invalidLength length expected =>
    "invalid length " ++ numeral length ++ ", expected " ++ expected
  | .missingField name => "missing field `" ++ name ++ "`"
  | .duplicateField name => "duplicate field `" ++ name ++ "`"

/-- Why a text could not be read. -/
inductive Problem where
  /-- The text breaks the rules of JSON, or has a number or an escape without a value. -/
  | malformed
  /-- The text ends too early. -/
  | cut
  /-- The text does not fit what is expected. -/
  | mismatch (cause : Mismatch)
  deriving DecidableEq, Repr

end Dialogue.Json
