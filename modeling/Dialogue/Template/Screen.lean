import Dialogue.Decimal.Digits
import Dialogue.Text.Blank

/-!
# Screens

A conversation is a set of screens. A screen shows a line of text and offers choices; each choice
shows a line of its own and may lead to another screen. A screen may also act on the player's quests
through a trigger.

* `Line` is what screens and choices have in common: the literal text, and the reference under which
  a string table holds it.
* `QuestTrigger.of?` is the only way to a trigger, and a blank action makes none.

Results:
* `QuestTrigger.of?_eq_none_iff`: exactly the blank actions make no trigger.
* `Screen.outline_mapLines`: changing lines leaves a screen's place in the conversation alone.
-/

namespace Dialogue

open Text Decimal

/-! ## Identifiers -/

/-- The identifier of a stored template. -/
structure TemplateId where
  /-- The number behind the identifier. -/
  number : UInt64
  deriving DecidableEq, Repr

/-- The identifier of a screen, unique within its template. -/
structure ScreenId where
  /-- The number behind the identifier. -/
  number : UInt64
  deriving DecidableEq, Repr

/-- The identifier as messages show it. -/
def TemplateId.label (id : TemplateId) : String := "#" ++ numeral id.number.toNat

/-- The identifier as messages show it. -/
def ScreenId.label (id : ScreenId) : String := "#" ++ numeral id.number.toNat

/-! ## Lines, choices and triggers -/

/-- A text of the conversation. -/
structure Line where
  /-- The literal text. -/
  text : String
  /-- The reference under which a string table holds the text. -/
  key : Option String := none
  deriving DecidableEq, Repr

/-- A response that the player can select. -/
structure Choice extends Line where
  /-- The screen that the choice leads to; without one it ends the conversation. -/
  target : Option ScreenId := none
  deriving DecidableEq, Repr

/-- What a screen asks of the quest manager. -/
structure QuestTrigger where
  /-- The function of the quest manager to call. -/
  action : String
  /-- The quest that the action applies to. -/
  reaction : String
  /-- The title of the journal entry. -/
  title : Option String := none
  /-- The description in the journal entry. -/
  description : Option String := none
  /-- A trigger has something to do. -/
  action_not_blank : isBlank action = false
  deriving DecidableEq, Repr

/-- The trigger with the given parts, none if the action is blank. -/
def QuestTrigger.of? (action reaction : String) (title description : Option String) :
    Option QuestTrigger :=
  if h : isBlank action = false then some ⟨action, reaction, title, description, h⟩ else none

theorem QuestTrigger.of?_eq_none_iff {action reaction : String}
    {title description : Option String} :
    QuestTrigger.of? action reaction title description = none ↔ isBlank action = true := by
  simp [QuestTrigger.of?]

@[simp] theorem QuestTrigger.of?_self (t : QuestTrigger) :
    QuestTrigger.of? t.action t.reaction t.title t.description = some t := by
  simp [QuestTrigger.of?, t.action_not_blank]

/-! ## Screens -/

/-- One state of the conversation. -/
structure Screen extends Line where
  /-- The identifier that choices refer to. -/
  id : ScreenId
  /-- The name under which the scripts address the screen. -/
  name : String
  /-- The conversation stops here. -/
  terminal : Bool := false
  /-- What the screen asks of the quest manager. -/
  trigger : Option QuestTrigger := none
  /-- The responses, in the order in which they are offered. -/
  choices : List Choice := []
  deriving DecidableEq, Repr

/-- The lines of a screen in the order in which they are emitted: its own, then its choices'. -/
def Screen.lines (s : Screen) : List Line := s.toLine :: s.choices.map (·.toLine)

/-- The choice with its line changed. -/
def Choice.mapLine (f : Line → Line) (c : Choice) : Choice := { c with toLine := f c.toLine }

/-- The screen with each of its lines changed. -/
def Screen.mapLines (f : Line → Line) (s : Screen) : Screen :=
  { s with toLine := f s.toLine, choices := s.choices.map (·.mapLine f) }

@[simp] theorem Screen.lines_mapLines (f : Line → Line) (s : Screen) :
    (s.mapLines f).lines = s.lines.map f := by
  simp [Screen.mapLines, Screen.lines, Choice.mapLine, Function.comp_def]

/-- What validation looks at: the screen without its lines and targets. -/
structure Outline where
  /-- The identifier of the screen. -/
  id : ScreenId
  /-- The name of the screen. -/
  name : String
  /-- The trigger of the screen. -/
  trigger : Option QuestTrigger
  deriving DecidableEq, Repr

/-- The outline of a screen. -/
def Screen.outline (s : Screen) : Outline := ⟨s.id, s.name, s.trigger⟩

@[simp] theorem Screen.outline_mapLines (f : Line → Line) (s : Screen) :
    (s.mapLines f).outline = s.outline := rfl

end Dialogue
