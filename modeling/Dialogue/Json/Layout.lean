import Dialogue.Decimal.Digits

/-!
# Writing JSON texts

Values are written over several lines, with two blanks of indentation for each bracket that is open.
Texts escape the quotation mark, the backslash and control characters, and nothing else.

* `Layout` is the written form of a value as a function of the number of brackets around it.
-/

namespace Dialogue.Json

open Decimal

/-- The characters of a value that stands inside the given number of brackets. -/
abbrev Layout := (depth : Nat) → List Char

namespace Layout

/-! ## Simple values -/

/-- A hexadecimal digit in lower case. -/
def hexDigit (n : Nat) : Char := Nat.digitChar (n % 16)

/-- A character inside a text. -/
def textChar (c : Char) : List Char :=
  if c = '"' ∨ c = '\\' then ['\\', c]
  else if c = '\x08' then ['\\', 'b']
  else if c = '\x0c' then ['\\', 'f']
  else if c = '\n' then ['\\', 'n']
  else if c = '\r' then ['\\', 'r']
  else if c = '\t' then ['\\', 't']
  else if c.toNat < 0x20 then
    ['\\', 'u', '0', '0', hexDigit (c.toNat / 16), hexDigit c.toNat]
  else [c]

/-- The characters of a text with its quotation marks. -/
def quotedText (s : String) : List Char := '"' :: s.toList.flatMap textChar ++ ['"']

/-- The absent value. -/
def null : Layout := fun _ => ['n', 'u', 'l', 'l']

/-- A truth value. -/
def boolean (b : Bool) : Layout := fun _ =>
  if b then ['t', 'r', 'u', 'e'] else ['f', 'a', 'l', 's', 'e']

/-- A natural number. -/
def natural (n : UInt64) : Layout := fun _ => digits n.toNat

/-- A text. -/
def text (s : String) : Layout := fun _ => quotedText s

/-- A value that may be absent. -/
def optional {α : Type} (layout : α → Layout) : Option α → Layout
  | none => null
  | some a => layout a

/-! ## Brackets -/

/-- The start of a line inside the given number of brackets. -/
def newLine (depth : Nat) : List Char := '\n' :: List.replicate (2 * depth) ' '

/-- The members of a bracket, each on lines of its own. -/
def members (depth : Nat) : List Layout → List Char
  | [] => []
  | [m] => newLine depth ++ m depth
  | m :: rest => newLine depth ++ m depth ++ ',' :: members depth rest

/-- The members of a bracket between its characters; a bracket without members is not opened up. -/
def bracket (opening closing : Char) (ms : List Layout) : Layout := fun depth =>
  if ms.isEmpty then [opening, closing]
  else opening :: members (depth + 1) ms ++ newLine depth ++ [closing]

/-- A list of values. -/
def list (ms : List Layout) : Layout := bracket '[' ']' ms

/-- A member of an object. -/
def member (name : String) (value : Layout) : Layout := fun depth =>
  quotedText name ++ ':' :: ' ' :: value depth

/-- An object with the given members. -/
def object (ms : List (String × Layout)) : Layout :=
  bracket '\x7b' '\x7d' (ms.map fun (name, value) => member name value)

/-- The text of a value that stands on its own. -/
def render (layout : Layout) : String := String.ofList (layout 0)

end Layout

end Dialogue.Json
