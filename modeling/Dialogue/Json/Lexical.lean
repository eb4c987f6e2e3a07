import Dialogue.Json.Problem

/-!
# Blanks, words and texts of JSON

The smallest parts of a JSON text. A text that is kept is decoded, and its escapes must name
characters: a surrogate must be half of a pair. A text that is skipped only has to be delimited.

* `textBody` reads a text that is kept, and `skipText` one that is skipped, both from behind the
  opening quotation mark.
* Loops are bounded by a list, `steps`, of which each step uses up a member. Since each step also
  reads a character, the text itself is always long enough.
-/

namespace Dialogue.Json

/-- The characters that may stand between the parts of a JSON text. -/
def isGap (c : Char) : Bool := c == ' ' || c == '\n' || c == '\t' || c == '\r'

/-- What follows the blanks in front. -/
def skipGaps (cs : List Char) : List Char := cs.dropWhile isGap

/-- Reads a word, of which the first letter has been read already. -/
def word : (letters : List Char) → List Char → Except Problem (List Char)
  | [], cs => .ok cs
  | _ :: _, [] => .error .cut
  | l :: letters, c :: cs => if c = l then word letters cs else .error .malformed

/-! ## Escapes -/

/-- The value of a hexadecimal digit. -/
def hexValue? (c : Char) : Option Nat :=
  if '0' ≤ c ∧ c ≤ '9' then some (c.toNat - '0'.toNat)
  else if 'a' ≤ c ∧ c ≤ 'f' then some (c.toNat - 'a'.toNat + 10)
  else if 'A' ≤ c ∧ c ≤ 'F' then some (c.toNat - 'A'.toNat + 10)
  else none

/-- The number of bytes that characters take in UTF-8. -/
def utf8Length (cs : List Char) : Nat := (String.ofList cs).utf8ByteSize

/-- Reads four hexadecimal digits. The text is cut off if fewer than four bytes are left of it. -/
def hexUnit (cs : List Char) : Except Problem (Nat × List Char) :=
  match (cs.take 4).mapM hexValue?, cs.drop 4 with
  | some [a, b, c, d], rest => .ok (((a * 16 + b) * 16 + c) * 16 + d, rest)
  | _, _ => .error (if utf8Length (cs.take 4) < 4 then .cut else .malformed)

/-- The character that a letter behind a backslash stands for. -/
def escapedChar? (c : Char) : Option Char :=
  if c = '"' ∨ c = '\\' ∨ c = '/' then some c
  else if c = 'b' then some '\x08'
  else if c = 'f' then some '\x0c'
  else if c = 'n' then some '\n'
  else if c = 'r' then some '\r'
  else if c = 't' then some '\t'
  else none

/-- Reads the second half of a surrogate pair, of which the first is `high`. -/
def lowSurrogate (high : Nat) : List Char → Except Problem (Char × List Char)
  | [] => .error .cut
  | '\\' :: [] => .error .cut
  | '\\' :: 'u' :: rest => do
    let (low, rest) ← hexUnit rest
    if 0xDC00 ≤ low ∧ low ≤ 0xDFFF then
      pure (Char.ofNat ((high - 0xD800) * 0x400 + (low - 0xDC00) + 0x10000), rest)
    else throw .malformed
  | _ => .error .malformed

/-- Reads an escape from behind its backslash. -/
def escape : List Char → Except Problem (Char × List Char)
  | [] => .error .cut
  | 'u' :: rest => do
    let (unit, rest) ← hexUnit rest
    if 0xDC00 ≤ unit ∧ unit ≤ 0xDFFF then throw .malformed
    else if 0xD800 ≤ unit ∧ unit ≤ 0xDBFF then lowSurrogate unit rest
    else pure (Char.ofNat unit, rest)
  | c :: rest =>
    match escapedChar? c with
    | some d => .ok (d, rest)
    | none => .error .malformed

/-- Skips an escape from behind its backslash. -/
def skipEscape : List Char → Except Problem (List Char)
  | [] => .error .cut
  | 'u' :: rest => (hexUnit rest).map (·.2)
  | c :: rest => if (escapedChar? c).isSome then .ok rest else .error .malformed

/-! ## Texts -/

/-- Characters that must not stand in a text as they are. -/
def isControl (c : Char) : Bool := c.toNat < 0x20

/-- Reads the characters of a text and its closing quotation mark; `read` holds those before, the
last first. -/
def textChars : (steps read : List Char) → List Char → Except Problem (String × List Char)
  | _ :: steps, read, c :: cs =>
    if c = '"' then .ok (String.ofList read.reverse, cs)
    else if c = '\\' then do
      let (d, cs) ← escape cs
      textChars steps (d :: read) cs
    else if isControl c then .error .malformed
    else textChars steps (c :: read) cs
  | _, _, _ => .error .cut

/-- Reads a text from behind its opening quotation mark. -/
def textBody (cs : List Char) : Except Problem (String × List Char) :=
  textChars cs [] cs

/-- Skips the characters of a text and its closing quotation mark. -/
def skipChars : (steps : List Char) → List Char → Except Problem (List Char)
  | _ :: steps, c :: cs =>
    if c = '"' then .ok cs
    else if c = '\\' then do
      let cs ← skipEscape cs
      skipChars steps cs
    else if isControl c then .error .malformed
    else skipChars steps cs
  | _, _ => .error .cut

/-- Skips a text from behind its opening quotation mark. -/
def skipText (cs : List Char) : Except Problem (List Char) := skipChars cs cs

end Dialogue.Json
