import Dialogue.Proofs.Lua.Comment
import Dialogue.Script.Definition

/-!
# Comments of definition scripts

Where a definition script shows a text by reference, it has the literal text in a comment at the end
of the line. All that stands in front of the comment is quoted, so that no text and no reference can
begin the comment early, or go on behind the end of the line.

* `referenceCode`, `Response.code`: what stands in front of the comments.

Results:
* `Speech.commentOf?_line`, `Speech.codeOf_line`: the comment of the line for a screen, and the code.
* `Response.commentOf?_line`, `Response.codeOf_line`: so for a response.
* `Speech.unbroken_line`, `Response.unbroken_line`: each of these lines is one line.
-/

namespace Dialogue.Script

open Lua Text

/-- The comment for a text. -/
def commentFor (text : String) : String := " " ++ Lua.comment text

theorem unbroken_quoted (text : String) : Unbroken isLineBreak (Lua.quoted text) := by
  unfold Unbroken
  rw [toList_quoted]
  exact lineBreak_not_mem_quotedChars text.toList

/-- A line that gives a field a text is one line. -/
theorem unbroken_field {before : String} (h : Unbroken isLineBreak before) (text : String) :
    Unbroken isLineBreak (before ++ Lua.quoted text ++ ",") :=
  (h.append (unbroken_quoted text)).append (by decide)

theorem unbroken_commentFor (text : String) : Unbroken isLineBreak (commentFor text) := by
  have blank : Unbroken isLineBreak " " := by decide
  refine blank.append ?_
  unfold Unbroken
  rw [toList_comment]
  exact lineBreak_not_mem_flatten text.toList

/-! ## Screens -/

/-- The code of the line that shows a screen by reference. -/
def referenceCode (key : String) : String := "    leftDialog = " ++ Lua.quoted key ++ ", "

theorem passes_referenceCode (key : String) : Passes .code (referenceCode key).toList .code := by
  have field : Passes .code "    leftDialog = ".toList .code := by decide
  have separator : Passes .code ", ".toList .code := by decide
  have code := (field.append (passes_quoted key)).append separator
  simp only [← String.toList_append] at code
  exact code

theorem unbroken_referenceCode (key : String) : Unbroken isLineBreak (referenceCode key) := by
  have field : Unbroken isLineBreak "    leftDialog = " := by decide
  have separator : Unbroken isLineBreak ", " := by decide
  exact (field.append (unbroken_quoted key)).append separator

namespace Speech

theorem line_reference (key text : String) :
    (Speech.reference key text).line = referenceCode key ++ "--" ++ commentFor text := by
  have dashes : ", -- " = ", " ++ "--" ++ " " := by decide
  unfold Speech.line referenceCode commentFor
  simp only [dashes, String.append_assoc]

theorem commentOf?_line (key text : String) :
    commentOf? (Speech.reference key text).line = some (commentFor text) := by
  rw [line_reference, commentOf?_append (passes_referenceCode key)]

theorem codeOf_line (key text : String) :
    codeOf (Speech.reference key text).line = referenceCode key := by
  rw [line_reference, codeOf_append (passes_referenceCode key)]

theorem unbroken_line (s : Speech) : Unbroken isLineBreak s.line := by
  cases s with
  | reference key text =>
    have hyphens : Unbroken isLineBreak "--" := by decide
    rw [line_reference]
    exact ((unbroken_referenceCode key).append hyphens).append (unbroken_commentFor text)
  | literal text => exact unbroken_field (by decide) text

end Speech

/-! ## Responses -/

namespace Response

/-- The code of the line for a response, up to the comma. -/
def code (isLast : Bool) (r : Response) : String :=
  "        \x7b" ++ Lua.quoted r.shown ++ ", " ++ Lua.quoted r.target ++ "\x7d" ++
    (if isLast then "" else ",")

variable (isLast : Bool) (r : Response)

theorem passes_code : Passes .code (r.code isLast).toList .code := by
  have opening : Passes .code "        \x7b".toList .code := by decide
  have between : Passes .code ", ".toList .code := by decide
  have closing : Passes .code "\x7d".toList .code := by decide
  have separator : Passes .code (if isLast then "" else ",").toList .code := by
    cases isLast <;> decide
  have code := ((((opening.append (passes_quoted r.shown)).append between).append
    (passes_quoted r.target)).append closing).append separator
  simp only [← String.toList_append] at code
  exact code

theorem unbroken_code : Unbroken isLineBreak (r.code isLast) := by
  have opening : Unbroken isLineBreak "        \x7b" := by decide
  have between : Unbroken isLineBreak ", " := by decide
  have closing : Unbroken isLineBreak "\x7d" := by decide
  have separator : Unbroken isLineBreak (if isLast then "" else ",") := by cases isLast <;> decide
  exact ((((opening.append (unbroken_quoted r.shown)).append between).append
    (unbroken_quoted r.target)).append closing).append separator

variable {isLast r}

theorem line_of_none (h : r.comment = none) : r.line isLast = r.code isLast := by
  unfold line
  rw [h]
  exact String.append_empty

theorem line_of_some {text : String} (h : r.comment = some text) :
    r.line isLast = r.code isLast ++ " " ++ "--" ++ commentFor text := by
  have dashes : " -- " = " " ++ "--" ++ " " := by decide
  unfold line code commentFor
  rw [h]
  simp only [dashes, String.append_assoc]

theorem passes_code_blank : Passes .code (r.code isLast ++ " ").toList .code := by
  have blank : Passes .code " ".toList .code := by decide
  rw [String.toList_append]
  exact (r.passes_code isLast).append blank

theorem commentOf?_line : commentOf? (r.line isLast) = r.comment.map commentFor := by
  cases h : r.comment with
  | none => rw [line_of_none h, commentOf?_of_passes (r.passes_code isLast), Option.map_none]
  | some text => rw [line_of_some h, commentOf?_append passes_code_blank, Option.map_some]

theorem codeOf_line {text : String} (h : r.comment = some text) :
    codeOf (r.line isLast) = r.code isLast ++ " " := by
  rw [line_of_some h, codeOf_append passes_code_blank]

theorem unbroken_line : Unbroken isLineBreak (r.line isLast) := by
  cases h : r.comment with
  | none =>
    rw [line_of_none h]
    exact r.unbroken_code isLast
  | some text =>
    have blank : Unbroken isLineBreak " " := by decide
    have hyphens : Unbroken isLineBreak "--" := by decide
    rw [line_of_some h]
    exact (((r.unbroken_code isLast).append blank).append hyphens).append (unbroken_commentFor text)

end Response

end Dialogue.Script
