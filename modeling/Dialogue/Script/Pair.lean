import Dialogue.Script.Definition
import Dialogue.Script.Handler

/-!
# The scripts of a template

A template compiles to two scripts, whose file names derive from its name.

* `Template.compile` checks the template before it makes the scripts.

Results:
* `Scripts.definitionFile_ne_handlerFile`: the two files never coincide.
* `Template.compile_eq`: the check finds nothing.
-/

namespace Dialogue

/-- The two scripts of a template. -/
structure Scripts where
  /-- The name of the template. -/
  templateName : String
  /-- The definition script. -/
  definition : String
  /-- The handler script. -/
  handler : String
  deriving DecidableEq, Repr

/-- The file name of the definition script. -/
def Scripts.definitionFile (s : Scripts) : String := s.templateName ++ "_conv.lua"

/-- The file name of the handler script. -/
def Scripts.handlerFile (s : Scripts) : String := s.templateName ++ "_conv_handler.lua"

theorem Scripts.definitionFile_ne_handlerFile (s : Scripts) : s.definitionFile ≠ s.handlerFile := by
  intro h
  have := congrArg String.length h
  simp only [definitionFile, handlerFile, String.length_append] at this
  have h₁ : "_conv.lua".length = 9 := by decide
  have h₂ : "_conv_handler.lua".length = 17 := by decide
  omega

/-- The scripts of a template. -/
def Template.scripts (settings : Script.Settings) (t : Template) : Scripts where
  templateName := t.name
  definition := t.definitionScript
  handler := t.handlerScript settings

/-! ## Compiling -/

namespace Template

/-- Makes the definition script, after the parts have been checked once more. -/
def compileDefinition (t : Template) : Except Fault String := do
  t.validate
  return t.definitionScript

/-- Makes the handler script, after the parts have been checked once more. -/
def compileHandler (settings : Script.Settings) (t : Template) : Except Fault String := do
  t.validate
  return t.handlerScript settings

/-- Makes both scripts; the parts are checked once more before each. -/
def compile (settings : Script.Settings) (t : Template) : Except Fault Scripts := do
  let definition ← t.compileDefinition
  let handler ← t.compileHandler settings
  return { templateName := t.name, definition, handler }

@[simp] theorem compileDefinition_eq (t : Template) :
    t.compileDefinition = .ok t.definitionScript := by
  rw [compileDefinition, t.sound.validate_eq]
  rfl

@[simp] theorem compileHandler_eq (settings : Script.Settings) (t : Template) :
    t.compileHandler settings = .ok (t.handlerScript settings) := by
  rw [compileHandler, t.sound.validate_eq]
  rfl

@[simp] theorem compile_eq (settings : Script.Settings) (t : Template) :
    t.compile settings = .ok (t.scripts settings) := by
  rw [compile, compileDefinition_eq, compileHandler_eq]
  rfl

end Template

end Dialogue
