/-!
# Blank text

A text is blank when each of its characters is white space in the sense of the Unicode property
`White_Space`, which has 25 members. Names, actions and reactions of a template must not be blank.

Results:
* `isSpace_of_isWhitespace`: the property contains the core library's ASCII white space.
* `isBlank_eq_false_iff`: a text is not blank exactly when it shows some other character.
-/

namespace Dialogue.Text

/-- Membership in the Unicode property `White_Space`. -/
def isSpace (c : Char) : Bool :=
  let n := c.toNat
  (0x09 ≤ n && n ≤ 0x0D) || n == 0x20 || n == 0x85 || n == 0xA0 || n == 0x1680 ||
    (0x2000 ≤ n && n ≤ 0x200A) || n == 0x2028 || n == 0x2029 || n == 0x202F || n == 0x205F ||
    n == 0x3000

/-- A text without any character but white space. -/
def isBlank (s : String) : Bool := s.toList.all isSpace

theorem isSpace_of_isWhitespace {c : Char} (h : c.isWhitespace = true) : isSpace c = true := by
  simp only [Char.isWhitespace, Bool.or_eq_true, decide_eq_true_eq] at h
  rcases h with ((rfl | rfl) | rfl) | rfl <;> decide

theorem isBlank_eq_false_iff {s : String} :
    isBlank s = false ↔ ∃ c ∈ s.toList, isSpace c = false := by
  simp [isBlank]

theorem ne_empty_of_isBlank_eq_false {s : String} (h : isBlank s = false) : s ≠ "" := by
  rintro rfl
  exact absurd h (by decide)

end Dialogue.Text
