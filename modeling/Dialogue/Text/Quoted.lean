import Dialogue.Text.Invisible

/-!
# Quoting a text in a message

A message that cites a text shows it between quotation marks. The marks, the backslash and the usual
control characters are escaped by a letter, and a character that would not show by its code point.

Results:
* `shown_of_visible`: an ordinary character stands for itself.
-/

namespace Dialogue.Text

/-- The lower case hexadecimal digits of a number, without leading zeros. -/
def hexDigits (n : Nat) : List Char := Nat.toDigits 16 n

/-- One character of a cited text. -/
def shown (c : Char) : List Char :=
  if c = '\x00' then ['\\', '0']
  else if c = '\t' then ['\\', 't']
  else if c = '\r' then ['\\', 'r']
  else if c = '\n' then ['\\', 'n']
  else if c = '\\' ∨ c = '"' then ['\\', c]
  else if isInvisible c then ['\\', 'u', '\x7b'] ++ hexDigits c.toNat ++ ['\x7d']
  else [c]

/-- A text as a message cites it. -/
def quoted (s : String) : String :=
  String.ofList ('"' :: s.toList.flatMap shown ++ ['"'])

theorem shown_of_visible {c : Char} (h : isInvisible c = false) (hq : c ≠ '"') (hb : c ≠ '\\')
    (h0 : c ≠ '\x00') (ht : c ≠ '\t') (hr : c ≠ '\r') (hn : c ≠ '\n') : shown c = [c] := by
  simp [shown, *]

end Dialogue.Text
