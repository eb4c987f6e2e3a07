import Dialogue.Text.UpperCase.Table

/-!
# Upper case

The full upper case form of a text: every character is replaced by its own upper case form, whatever
stands beside it. One character may become several (`ß` becomes `SS`).

Results:
* `upperChars_of_isAscii`: on ASCII the form is the core library's `Char.toUpper`.
* `toList_upperCase`: the form of a text is the concatenation of the forms of its characters.
-/

namespace Dialogue.Text

/-- The upper case form of one character. -/
def upperChars (c : Char) : List Char :=
  if c.toNat < 0x80 then [c.toUpper]
  else match caseRuns.find? (·.contains c.toNat) with
    | some run => [Char.ofNat (c.toNat + run.shift).toNat]
    | none =>
      match caseExpansions.lookup c.toNat with
      | some points => points.map Char.ofNat
      | none => [c]

/-- The upper case form of a text. -/
def upperCase (s : String) : String := String.ofList (s.toList.flatMap upperChars)

theorem upperChars_of_isAscii {c : Char} (h : c.toNat < 0x80) : upperChars c = [c.toUpper] := by
  simp [upperChars, h]

@[simp] theorem toList_upperCase (s : String) :
    (upperCase s).toList = s.toList.flatMap upperChars := by
  simp [upperCase]

end Dialogue.Text
