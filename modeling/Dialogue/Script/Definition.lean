import Dialogue.Lua.Literal
import Dialogue.Template.Basic
import Dialogue.Text.Lines

/-!
# Definition scripts

The definition script of a template declares the conversation, then each screen with its responses,
and finally registers the conversation. `Definition` is what the script says, as data;
`Template.definition` says it of a template, and `Definition.render` writes it down.

Results:
* `Definition.lines_eq`: the script consists of a head, one block of lines per screen, and the
  registration.
-/

namespace Dialogue

open Text

namespace Script

/-- How a screen shows its line. -/
inductive Speech where
  /-- By a reference; the literal text stands in a comment. -/
  | reference (key text : String)
  /-- As it is. -/
  | literal (text : String)
  deriving DecidableEq, Repr

/-- A response as the script offers it. -/
structure Response where
  /-- The reference or the text that is shown. -/
  shown : String
  /-- The name of the screen that follows, empty to end the conversation. -/
  target : String
  /-- The literal text, where it stands in a comment. -/
  comment : Option String := none
  deriving DecidableEq, Repr

/-- A screen as the script declares it. -/
structure Block where
  /-- The name of the screen. -/
  name : String
  /-- What the screen shows. -/
  speech : Speech
  /-- The conversation stops here. -/
  terminal : Bool
  /-- The responses in order. -/
  responses : List Response
  deriving DecidableEq, Repr

/-- What a definition script says. -/
structure Definition where
  /-- The name of the template. -/
  template : String
  /-- The name of the screen on which the conversation starts. -/
  entry : String
  /-- The screens in order. -/
  blocks : List Block
  deriving DecidableEq, Repr

/-! ## From a template -/

/-- How a line is shown: by its reference if texts are localized and it has one. -/
def speechOf (localized : Bool) (l : Line) : Speech :=
  match l.key with
  | some key => if localized then .reference key l.text else .literal l.text
  | none => .literal l.text

/-- The text that is shown, be it a reference. -/
def Speech.shown : Speech → String
  | .reference key _ => key
  | .literal text => text

/-- The name of the screen that a choice leads to, empty if it leads nowhere. -/
def targetName (t : Template) (c : Choice) : String := ((t.resolve c).map (·.name)).getD ""

/-- The response for a choice. -/
def responseOf (t : Template) (c : Choice) : Response where
  shown := (speechOf t.localized c.toLine).shown
  target := targetName t c
  comment := if t.localized then some c.text else none

/-- The block for a screen. -/
def blockOf (t : Template) (s : Screen) : Block where
  name := s.name
  speech := speechOf t.localized s.toLine
  terminal := s.terminal
  responses := s.choices.map (responseOf t)

/-! ## The text -/

/-- The line that shows the text of a screen. -/
def Speech.line : Speech → String
  | .reference key text =>
    "    leftDialog = " ++ Lua.quoted key ++ ", -- " ++ Lua.comment text
  | .literal text => "    customDialogText = " ++ Lua.quoted text ++ ","

/-- The line for a response; all but the last end in a comma. -/
def Response.line (isLast : Bool) (r : Response) : String :=
  "        \x7b" ++ Lua.quoted r.shown ++ ", " ++ Lua.quoted r.target ++ "\x7d" ++
    (if isLast then "" else ",") ++
    match r.comment with
    | some text => " -- " ++ Lua.comment text
    | none => ""

/-- The lines for the responses of a screen. -/
def responseLines : List Response → List String
  | [] => []
  | [r] => [r.line true]
  | r :: rest => r.line false :: responseLines rest

/-- The lines for a screen of a template. -/
def Block.lines (template : String) (b : Block) : List String :=
  [b.name ++ " = ConvoScreen:new \x7b",
    "    id = " ++ Lua.quoted b.name ++ ",",
    b.speech.line,
    "    stopConversation = \"" ++ (if b.terminal then "true" else "false") ++ "\",",
    "    options = \x7b"] ++
  responseLines b.responses ++
  ["    \x7d",
    "\x7d",
    template ++ "_convo_template:addScreen(" ++ b.name ++ ");",
    ""]

/-- The lines that declare the conversation. -/
def Definition.headLines (d : Definition) : List String :=
  [d.template ++ "_convo_template = ConvoTemplate:new \x7b",
    "    initialScreen = " ++ Lua.quoted d.entry ++ ",",
    "    templateType = \"Lua\",",
    "    luaClassHandler = " ++ Lua.quoted (d.template ++ "_convo_handler") ++ ",",
    "    screens = \x7b\x7d",
    "\x7d",
    ""]

/-- The line that registers the conversation. -/
def Definition.registration (d : Definition) : String :=
  "addConversationTemplate(" ++ Lua.quoted (d.template ++ "_convo_template") ++ ", " ++
    d.template ++ "_convo_template);"

/-- The lines of the script. -/
def Definition.lines (d : Definition) : List String :=
  d.headLines ++ d.blocks.flatMap (·.lines d.template) ++ [d.registration]

/-- The text of the script. -/
def Definition.render (d : Definition) : String := unlines d.lines

theorem Definition.lines_eq (d : Definition) :
    d.lines = d.headLines ++ (d.blocks.map (·.lines d.template)).flatten ++ [d.registration] := by
  rw [Definition.lines, List.flatMap_def]

end Script

/-- What the definition script of a template says. -/
def Template.definition (t : Template) : Script.Definition where
  template := t.name
  entry := t.entryScreen.name
  blocks := t.screens.map (Script.blockOf t)

/-- The definition script of a template. -/
def Template.definitionScript (t : Template) : String := t.definition.render

end Dialogue
