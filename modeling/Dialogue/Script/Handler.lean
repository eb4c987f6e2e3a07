import Dialogue.Lua.Literal
import Dialogue.Template.Basic
import Dialogue.Text.Lines
import Dialogue.Text.UpperCase

/-!
# Handler scripts

The handler script of a template has two functions. The first picks the entry screen: it asks the
quest manager about the triggers that only probe the state of quests, in the order of their screens.
The second runs when a screen is shown and makes the call of its trigger, unless that is a probe.
`Handler` is what the script says, as data.

Results:
* **`Script.mem_probing_iff_not_mem_acting`**: a trigger serves exactly one of the two functions.
-/

namespace Dialogue

open Text

namespace Script

/-- What a handler script is told besides the template. -/
structure Settings where
  /-- Actions that start like this only probe the state of quests. -/
  probePrefix : String := "has"
  /-- The module that provides the quest manager. -/
  questModule : String := "managers.quest.quest_manager"
  deriving DecidableEq, Repr

/-- A call of the quest manager. -/
structure QuestCall where
  /-- The function. -/
  action : String
  /-- The quest, in upper case. -/
  quest : String
  deriving DecidableEq, Repr

/-- What a handler script says. -/
structure Handler where
  /-- The name of the template. -/
  template : String
  /-- The module that provides the quest manager. -/
  questModule : String
  /-- The probes in order, each with the screen to start on if it holds. -/
  probes : List (QuestCall × String)
  /-- The screen to start on if no probe holds. -/
  entry : String
  /-- The calls to make, each with the screen on which to make it. -/
  effects : List (String × QuestCall)
  deriving DecidableEq, Repr

/-! ## From a template -/

/-- A trigger that only probes the state of quests. -/
def isProbe (probePrefix : String) (trigger : QuestTrigger) : Bool :=
  probePrefix.toList.isPrefixOf trigger.action.toList

/-- The call that a trigger stands for. -/
def callOf (trigger : QuestTrigger) : QuestCall :=
  ⟨trigger.action, upperCase trigger.reaction⟩

/-- The screens with a trigger, each with that trigger, in order. -/
def triggered (t : Template) : List (Screen × QuestTrigger) :=
  t.screens.filterMap fun s => s.trigger.map (s, ·)

/-- The screens whose trigger is a probe. -/
def probing (probePrefix : String) (t : Template) : List (Screen × QuestTrigger) :=
  (triggered t).filter fun (_, trigger) => isProbe probePrefix trigger

/-- The screens whose trigger is not a probe. -/
def acting (probePrefix : String) (t : Template) : List (Screen × QuestTrigger) :=
  (triggered t).filter fun (_, trigger) => ! isProbe probePrefix trigger

theorem mem_triggered_iff {t : Template} {s : Screen} {trigger : QuestTrigger} :
    (s, trigger) ∈ triggered t ↔ s ∈ t.screens ∧ s.trigger = some trigger := by
  simp only [triggered, List.mem_filterMap, Option.map_eq_some_iff, Prod.mk.injEq]
  constructor
  · rintro ⟨s, hs, trigger, ht, rfl, rfl⟩
    exact ⟨hs, ht⟩
  · rintro ⟨hs, ht⟩
    exact ⟨s, hs, trigger, ht, rfl, rfl⟩

theorem mem_probing_iff {probePrefix : String} {t : Template} {s : Screen}
    {trigger : QuestTrigger} :
    (s, trigger) ∈ probing probePrefix t ↔
      s ∈ t.screens ∧ s.trigger = some trigger ∧ isProbe probePrefix trigger = true := by
  rw [probing, List.mem_filter, mem_triggered_iff, and_assoc]

theorem mem_acting_iff {probePrefix : String} {t : Template} {s : Screen}
    {trigger : QuestTrigger} :
    (s, trigger) ∈ acting probePrefix t ↔
      s ∈ t.screens ∧ s.trigger = some trigger ∧ isProbe probePrefix trigger = false := by
  rw [acting, List.mem_filter, mem_triggered_iff, and_assoc, Bool.not_eq_true']

/-- **A triggered screen serves exactly one of the two functions.** -/
theorem mem_probing_iff_not_mem_acting (probePrefix : String) (t : Template) (p : Screen × QuestTrigger)
    (h : p ∈ triggered t) :
    (p ∈ probing probePrefix t ↔ p ∉ acting probePrefix t) := by
  cases hp : isProbe probePrefix p.2 <;> simp [probing, acting, h, hp]

/-! ## The text -/

/-- The text of a call. -/
def QuestCall.text (c : QuestCall) : String :=
  "QuestManager." ++ c.action ++ "(pPlayer, QuestManager.quests." ++ c.quest ++ ")"

/-- The line that answers a screen. -/
def returnLine (screen : String) : String :=
  "return convoTemplate:getScreen(" ++ Lua.quoted screen ++ ")"

/-- The branches of the first function, of which the first starts with `keyword`. -/
def probeLines (keyword : String) : List (QuestCall × String) → List String
  | [] => []
  | (call, screen) :: rest =>
    ("    " ++ keyword ++ " " ++ call.text ++ " then") :: ("        " ++ returnLine screen) ::
      probeLines "elseif" rest

/-- The function that picks the entry screen. -/
def Handler.entryLines (h : Handler) : List String :=
  ["function " ++ h.template ++ "_convo_handler:getInitialScreen(pPlayer, pNpc, pConvTemplate)",
    "    local convoTemplate = LuaConversationTemplate(pConvTemplate)",
    "    local playerID = SceneObject(pPlayer):getObjectID()",
    "    local player = LuaCreatureObject(pPlayer)",
    "    local pGhost = CreatureObject(pPlayer):getPlayerObject()",
    ""] ++
  (if h.probes.isEmpty then ["    " ++ returnLine h.entry]
    else probeLines "if" h.probes ++
      ["    else", "        " ++ returnLine h.entry, "    end"]) ++
  ["end"]

/-- The branches of the second function, of which the first starts with `keyword`. -/
def effectLines (keyword : String) : List (String × QuestCall) → List String
  | [] => []
  | (screen, call) :: rest =>
    ("    " ++ keyword ++ " screenID == " ++ Lua.quoted screen ++ " then") ::
      ("        " ++ call.text) :: effectLines "elseif" rest

/-- The function that makes the calls of screens. -/
def Handler.effectFunctionLines (h : Handler) : List String :=
  ["function " ++ h.template ++
      "_convo_handler:runScreenHandlers(pConvTemplate, pPlayer, pNpc, selectedOption, pConvScreen)",
    "    local screen = LuaConversationScreen(pConvScreen)",
    "    local screenID = screen:getScreenID()",
    "    local playerID = CreatureObject(pPlayer):getObjectID()",
    "    local pGhost = CreatureObject(pPlayer):getPlayerObject()",
    "",
    "    if not SceneObject(pPlayer):isPlayerCreature() then",
    "        return 0",
    "    end",
    "",
    "    if (pGhost == nil) then",
    "        return 0",
    "    end",
    ""] ++
  (if h.effects.isEmpty then [] else effectLines "if" h.effects ++ ["    end", ""]) ++
  ["    return pConvScreen",
    "end"]

/-- The lines of the script. -/
def Handler.lines (h : Handler) : List String :=
  ["local QuestManager = require(" ++ Lua.quoted h.questModule ++ ")",
    "",
    h.template ++ "_convo_handler = conv_handler:new \x7b\x7d",
    ""] ++
  h.entryLines ++ [""] ++ h.effectFunctionLines

/-- The text of the script. -/
def Handler.render (h : Handler) : String := unlines h.lines

end Script

/-- What the handler script of a template says. -/
def Template.handler (settings : Script.Settings) (t : Template) : Script.Handler where
  template := t.name
  questModule := settings.questModule
  probes := (Script.probing settings.probePrefix t).map fun (s, trigger) =>
    (Script.callOf trigger, s.name)
  entry := t.entryScreen.name
  effects := (Script.acting settings.probePrefix t).map fun (s, trigger) =>
    (s.name, Script.callOf trigger)

/-- The handler script of a template. -/
def Template.handlerScript (settings : Script.Settings) (t : Template) : String :=
  (t.handler settings).render

end Dialogue
