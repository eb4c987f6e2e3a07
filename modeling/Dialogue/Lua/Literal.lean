/-!
# Texts in Lua source

A text enters a script as a short string literal, where the backslash, the quotation mark and line
breaks are escaped, or as the rest of a line comment, where line breaks become blanks.

Results:
* `lineBreak_not_mem_quotedChars`, `lineBreak_not_mem_flatten`: neither form holds a line break, so
  both stay on their line.
-/

namespace Dialogue.Lua

/-- A character that breaks the line. -/
def isLineBreak (c : Char) : Bool := c == '\n' || c == '\r'

/-! ## Literals -/

/-- A character inside a string literal. -/
def escape (c : Char) : List Char :=
  if c = '\\' ∨ c = '"' then ['\\', c]
  else if c = '\n' then ['\\', 'n']
  else if c = '\r' then ['\\', 'r']
  else [c]

/-- The characters of the string literal for a text. -/
def quotedChars (cs : List Char) : List Char := '"' :: cs.flatMap escape ++ ['"']

/-- The string literal for a text. -/
def quoted (s : String) : String := String.ofList (quotedChars s.toList)

@[simp] theorem toList_quoted (s : String) : (quoted s).toList = quotedChars s.toList := by
  simp [quoted]

theorem lineBreak_not_mem_escape (c : Char) : ∀ d ∈ escape c, isLineBreak d = false := by
  intro d hd
  unfold escape at hd
  split at hd
  · rename_i h
    rcases h with rfl | rfl <;>
      (simp only [List.mem_cons, List.not_mem_nil, or_false] at hd; rcases hd with rfl | rfl) <;>
      decide
  · split at hd
    · simp only [List.mem_cons, List.not_mem_nil, or_false] at hd
      rcases hd with rfl | rfl <;> decide
    · split at hd
      · simp only [List.mem_cons, List.not_mem_nil, or_false] at hd
        rcases hd with rfl | rfl <;> decide
      · simp only [List.mem_cons, List.not_mem_nil, or_false] at hd
        subst hd
        simp [isLineBreak, *]

theorem lineBreak_not_mem_quotedChars (cs : List Char) :
    ∀ c ∈ quotedChars cs, isLineBreak c = false := by
  simp only [quotedChars, List.cons_append, List.mem_cons, List.mem_append, List.mem_flatMap,
    List.not_mem_nil, or_false]
  rintro c (rfl | ⟨d, -, hd⟩ | rfl)
  · decide
  · exact lineBreak_not_mem_escape d c hd
  · decide

/-! ## Comments -/

/-- The characters with each line break, of one or of two characters, replaced by a blank. -/
def flatten : List Char → List Char
  | [] => []
  | '\r' :: '\n' :: rest => ' ' :: flatten rest
  | c :: rest => (if isLineBreak c then ' ' else c) :: flatten rest

/-- A text as a line comment shows it. -/
def comment (s : String) : String := String.ofList (flatten s.toList)

@[simp] theorem toList_comment (s : String) : (comment s).toList = flatten s.toList := by
  simp [comment]

theorem lineBreak_not_mem_flatten (cs : List Char) : ∀ c ∈ flatten cs, isLineBreak c = false := by
  fun_induction flatten cs with
  | case1 => simp
  | case2 rest ih =>
    simp only [List.mem_cons]
    rintro c (rfl | hc)
    · decide
    · exact ih c hc
  | case3 c rest _ ih =>
    simp only [List.mem_cons]
    rintro d (rfl | hd)
    · by_cases h : isLineBreak c = true
      · simp only [h, if_true]
        decide
      · simp [h]
    · exact ih d hd

end Dialogue.Lua
