import Dialogue.Proofs.HandlerReading
import Dialogue.Proofs.Lua.Run
import Dialogue.Proofs.ScriptLines

/-!
# What the entry method of a handler script does

`runEntry` reads a handler script as Lua, runs its method `getInitialScreen` and says which calls of
the quest manager were made and which screen was returned. The quest manager answers each call by
an oracle; everything else that the method touches stays unknown.

Results:
* `runEntry_render`: the probes are made in order, up to the first that is answered by true.
* **`Template.runEntry_handlerScript`**: the screen returned is the first whose probe is answered by
  true, or else the entry screen, and no call is made but probes. The definition script registers
  that screen.
-/

namespace Dialogue

open Lua Text

namespace Script

/-! ## The quest manager -/

/-- The quest manager, as it is loaded from its module. -/
def questManager (questModule : String) : Expr :=
  .call (.word "require") none [.text questModule]

/-- The expression is the quest manager. -/
def isQuestManager (questModule : String) : Expr → Bool
  | .call (.word f) none [.text m] => f == "require" && m == questModule
  | _ => false

/-- The quest call that an expression makes. -/
def questCall? (questModule : String) : Expr → Option QuestCall
  | .call (.field object action) none [.word player, .field (.field holder quests) quest] =>
    if isQuestManager questModule object ∧ isQuestManager questModule holder ∧
        player = "pPlayer" ∧ quests = "quests" then
      some ⟨action, quest⟩
    else none
  | _ => none

/-- The truth of a condition that only asks the quest manager. -/
def answer (questModule : String) (ask : QuestCall → Bool) : Condition → Bool
  | .holds e => (questCall? questModule e).any ask
  | _ => false

/-- The name of the screen of the conversation that an expression is. -/
def screenName? : Expr → Option String
  | .call (.call (.word f) none [.word template]) (some method) [.text name] =>
    if f = "LuaConversationTemplate" ∧ template = "pConvTemplate" ∧ method = "getScreen" then
      some name
    else none
  | _ => none

/-- What a run of the entry method does. -/
structure EntryRun where
  /-- The calls of the quest manager that are made, in order. -/
  calls : List QuestCall
  /-- The name of the screen that is returned. -/
  screen : String
  deriving DecidableEq, Repr

/-- Runs the entry method of the handler of `template` in a handler script. -/
def runEntry (questModule : String) (ask : QuestCall → Bool) (template source : String) :
    Option EntryRun := do
  let items ← readScript source
  let outcome ← runMethod (answer questModule ask) (handlerVariable template) "getInitialScreen" []
    items
  let calls ← (outcome.evaluated.flatMap (Expr.callsOn (isQuestManager questModule))).mapM
    (questCall? questModule)
  let screen ← outcome.value.bind screenName?
  return { calls, screen }

theorem isQuestManager_questManager (questModule : String) :
    isQuestManager questModule (questManager questModule) = true := by
  simp [isQuestManager, questManager]

theorem questCall?_expr (questModule : String) (c : QuestCall) :
    questCall? questModule (c.expr (questManager questModule)) = some c := by
  have hm := isQuestManager_questManager questModule
  exact if_pos ⟨hm, hm, rfl, rfl⟩

theorem callsOn_expr (questModule : String) (c : QuestCall) :
    (c.expr (questManager questModule)).callsOn (isQuestManager questModule) =
      [c.expr (questManager questModule)] := by
  have hm := isQuestManager_questManager questModule
  simp only [QuestCall.expr, Expr.callsOn, argumentCallsOn, callOn, hm]
  rfl

/-! ## Running the method -/

/-- The variables when the entry method picks a screen. -/
def entryEnv (questModule : String) : Env :=
  [("pGhost",
      .call (.call (.word "CreatureObject") none [.word "pPlayer"]) (some "getPlayerObject") []),
    ("player", .call (.word "LuaCreatureObject") none [.word "pPlayer"]),
    ("playerID",
      .call (.call (.word "SceneObject") none [.word "pPlayer"]) (some "getObjectID") []),
    ("convoTemplate", .call (.word "LuaConversationTemplate") none [.word "pConvTemplate"]),
    ("QuestManager", questManager questModule)]

/-- The screen `name` as the entry method returns it. -/
def returnedScreen (name : String) : Expr :=
  .call (.call (.word "LuaConversationTemplate") none [.word "pConvTemplate"]) (some "getScreen")
    [.text name]

theorem handlerVariable_ne (template : String) : handlerVariable template ≠ "QuestManager" := by
  intro h
  have hlength := congrArg String.length h
  have h₁ : "_convo_handler".length = 14 := by decide
  have h₂ : "QuestManager".length = 12 := by decide
  rw [handlerVariable, String.length_append] at hlength
  omega

/-- The expressions that the entry method evaluates before it picks a screen. -/
def entryValues : List Expr :=
  [.call (.word "LuaConversationTemplate") none [.word "pConvTemplate"],
    .call (.call (.word "SceneObject") none [.word "pPlayer"]) (some "getObjectID") [],
    .call (.word "LuaCreatureObject") none [.word "pPlayer"],
    .call (.call (.word "CreatureObject") none [.word "pPlayer"]) (some "getPlayerObject") []]

/-- The quest manager is known to both methods. -/
theorem runMethod_methods (h : Handler) (holds : Condition → Bool) (name : String) :
    runMethod holds (handlerVariable h.template) name [] h.items =
      runMethod holds (handlerVariable h.template) name
        [("QuestManager", questManager h.questModule)] [h.entryMethod, h.effectMethod] := by
  have unbound : ¬ (List.lookup (handlerVariable h.template)
      [("QuestManager", questManager h.questModule)]).isSome = true := by
    have other : (handlerVariable h.template == "QuestManager") = false :=
      beq_eq_false_iff_ne.mpr (handlerVariable_ne h.template)
    rw [List.lookup_cons, other]
    exact Bool.false_ne_true
  rw [Handler.items, runMethod, runMethod]
  exact if_neg unbound

theorem runMethod_items (h : Handler) (holds : Condition → Bool) :
    runMethod holds (handlerVariable h.template) "getInitialScreen" [] h.items =
      ((runStatement holds (entryEnv h.questModule) h.entryChoice).map (·.2)).map
        (.after entryValues) := by
  have opened : runMethod holds (handlerVariable h.template) "getInitialScreen" [] h.items =
      runBody holds [("QuestManager", questManager h.questModule)]
        (entryLocals.map .simple ++ [h.entryChoice]) := by
    rw [runMethod_methods, Handler.entryMethod, runMethod]
    exact if_pos ⟨rfl, rfl⟩
  have choice : runBody holds (entryEnv h.questModule) [h.entryChoice] =
      (runStatement holds (entryEnv h.questModule) h.entryChoice).map (·.2) :=
    follow_singleton _ _ _
  rw [opened, entryLocals, List.map_cons, List.map_cons, List.map_cons, List.map_cons,
    List.map_nil, List.cons_append, List.cons_append, List.cons_append, List.cons_append,
    List.nil_append, runBody_declare, runBody_declare, runBody_declare, runBody_declare]
  rw [← choice, Option.map_map, Option.map_map, Option.map_map]
  rfl

/-- With or without probes, the method picks a screen by the branches for its probes. -/
theorem runStatement_entryChoice (h : Handler) (holds : Condition → Bool) (env : Env) :
    (runStatement holds env h.entryChoice).map (·.2) =
      runBranches holds env [.give (getScreen h.entry)] (h.probes.map probeBranch) := by
  unfold Handler.entryChoice
  cases h.probes with
  | nil => rfl
  | cons p ps =>
    rw [runStatement, List.map_cons, Option.map_map]
    exact Option.map_id'

variable (questModule : String) (ask : QuestCall → Bool)

theorem answer_probeBranch (p : QuestCall × String) :
    answer questModule ask ((probeBranch p).condition.resolve (entryEnv questModule)) =
      ask p.1 := by
  have called : (probeBranch p).condition.resolve (entryEnv questModule) =
      .holds (p.1.expr (questManager questModule)) := rfl
  rw [called, answer, questCall?_expr, Option.any_some]

/-- The block that runs. -/
theorem body_find? (probes : List (QuestCall × String)) (entry : String) :
    (((probes.map probeBranch).find? fun b =>
        answer questModule ask (b.condition.resolve (entryEnv questModule))).map (·.body)).getD
      [.give (getScreen entry)] =
    [.give (getScreen (((probes.find? fun p => ask p.1).map (·.2)).getD entry))] := by
  rw [List.find?_map]
  simp only [Function.comp_def, answer_probeBranch]
  cases probes.find? fun p => ask p.1 <;> rfl

/-- The conditions that are looked at. -/
theorem operands_lookedAt (probes : List (QuestCall × String)) :
    (lookedAt (fun b => answer questModule ask (b.condition.resolve (entryEnv questModule)))
        (probes.map probeBranch)).flatMap
      (fun b => (b.condition.resolve (entryEnv questModule)).operands) =
    (lookedAt ask (probes.map (·.1))).map (·.expr (questManager questModule)) := by
  rw [lookedAt_map, lookedAt_map, List.flatMap_map, List.map_map, List.map_eq_flatMap]
  simp only [Function.comp_def, answer_probeBranch]
  rfl

/-- Quest calls are made in the order in which they are evaluated. -/
theorem mapM_questCall?_expr (calls : List QuestCall) :
    ((calls.map (·.expr (questManager questModule))).flatMap
        (Expr.callsOn (isQuestManager questModule))).mapM (questCall? questModule) =
      some calls := by
  induction calls with
  | nil => rfl
  | cons c calls ih =>
    rw [List.map_cons, List.flatMap_cons, callsOn_expr, List.singleton_append, List.mapM_cons,
      questCall?_expr, ih]
    rfl

/-- Of all that is evaluated only the probes are calls of the quest manager. -/
theorem mapM_questCall? (calls : List QuestCall) (name : String) :
    ((entryValues ++ (calls.map (·.expr (questManager questModule)) ++
        [returnedScreen name])).flatMap (Expr.callsOn (isQuestManager questModule))).mapM
      (questCall? questModule) = some calls := by
  have values : entryValues.flatMap (Expr.callsOn (isQuestManager questModule)) = [] := rfl
  have screen : (returnedScreen name).callsOn (isQuestManager questModule) = [] := rfl
  rw [List.flatMap_append, List.flatMap_append, values, List.flatMap_singleton, screen,
    List.nil_append, List.append_nil]
  exact mapM_questCall?_expr questModule calls

/-- **The probes are made in order, up to the first that is answered by true**; its screen is
returned, or else the entry screen. -/
theorem runEntry_render {h : Handler} (hw : h.Worded) (ask : QuestCall → Bool) :
    runEntry h.questModule ask h.template h.render =
      some
        { calls := lookedAt ask (h.probes.map (·.1))
          screen := ((h.probes.find? fun p => ask p.1).map (·.2)).getD h.entry } := by
  let name := ((h.probes.find? fun p => ask p.1).map (·.2)).getD h.entry
  have run : runMethod (answer h.questModule ask) (handlerVariable h.template) "getInitialScreen" []
      h.items = some
        { evaluated := entryValues ++
            ((lookedAt ask (h.probes.map (·.1))).map (·.expr (questManager h.questModule)) ++
              [returnedScreen name])
          value := some (returnedScreen name) } := by
    rw [runMethod_items, runStatement_entryChoice, runBranches_eq, body_find?, operands_lookedAt]
    rfl
  simp only [runEntry, readScript_handler_render hw, run, mapM_questCall?, Option.bind_eq_bind,
    Option.bind_some]
  rfl

end Script

/-! ## Templates -/

namespace Template

open Script

/-- The screen has a probe for which the oracle says true. -/
def probesTrue (probePrefix : String) (ask : QuestCall → Bool) (s : Screen) : Bool :=
  s.trigger.any fun trigger => isProbe probePrefix trigger && ask (callOf trigger)

theorem find?_probes (t : Template) (settings : Settings) (ask : QuestCall → Bool) :
    (((t.handler settings).probes.find? fun p => ask p.1).map (·.2)) =
      (t.screens.find? (probesTrue settings.probePrefix ask)).map (·.name) := by
  unfold Template.handler probing triggered
  induction t.screens with
  | nil => rfl
  | cons s ss ih =>
    cases hs : s.trigger with
    | none => simpa [probesTrue, hs] using ih
    | some trigger =>
      cases hp : isProbe settings.probePrefix trigger with
      | false => simpa [probesTrue, hs, hp] using ih
      | true =>
        cases ha : ask (callOf trigger) with
        | false => simpa [probesTrue, hs, hp, ha] using ih
        | true => simp [probesTrue, hs, hp, ha]

/-- The names of a template's triggers are words. -/
def TriggersWorded (t : Template) : Prop :=
  ∀ s ∈ t.screens, ∀ trigger ∈ s.trigger,
    isWordText trigger.action = true ∧ isWordText trigger.reaction = true

theorem worded_callOf {t : Template} (h : t.TriggersWorded) {s : Screen} (hs : s ∈ t.screens)
    {trigger : QuestTrigger} (ht : s.trigger = some trigger) : (callOf trigger).Worded := by
  obtain ⟨haction, hreaction⟩ := h s hs trigger ht
  have reaction := t.wellFormed.reaction_not_blank s hs trigger ht
  constructor
  · exact ⟨ne_empty_of_isBlank_eq_false trigger.action_not_blank, haction⟩
  · exact isWord_upperCase ⟨ne_empty_of_isBlank_eq_false reaction, hreaction⟩

theorem worded_handler {t : Template} (hname : isWordText t.name = true)
    (h : t.TriggersWorded) (settings : Settings) : (t.handler settings).Worded := by
  refine ⟨⟨ne_empty_of_isBlank_eq_false t.wellFormed.name_not_blank, hname⟩, ?_, ?_⟩
  · intro p hp
    obtain ⟨⟨s, trigger⟩, hmem, rfl⟩ := List.mem_map.mp hp
    obtain ⟨hs, ht, -⟩ := mem_probing_iff.mp hmem
    exact worded_callOf h hs ht
  · intro p hp
    obtain ⟨⟨s, trigger⟩, hmem, rfl⟩ := List.mem_map.mp hp
    obtain ⟨hs, ht, -⟩ := mem_acting_iff.mp hmem
    exact worded_callOf h hs ht

/-- **What the entry method of a template does.** It makes the probes of the template in order, up
to the first that the oracle answers by true, and no other call; it returns the screen of that
probe, or else the entry screen. The text of the definition script has the lines that give a screen
the name returned as its identifier, and that add this screen to the conversation. -/
theorem runEntry_handlerScript (t : Template) (settings : Settings) (ask : QuestCall → Bool)
    (hname : isWordText t.name = true) (htriggers : t.TriggersWorded) :
    ∃ run, runEntry settings.questModule ask t.name (t.handlerScript settings) = some run ∧
      run.screen =
        ((t.screens.find? (probesTrue settings.probePrefix ask)).getD t.entryScreen).name ∧
      run.calls = lookedAt ask ((probing settings.probePrefix t).map fun p => callOf p.2) ∧
      (∀ c ∈ run.calls, ∃ s ∈ t.screens, ∃ trigger ∈ s.trigger,
        isProbe settings.probePrefix trigger = true ∧ callOf trigger = c) ∧
      AddsScreen t.name run.screen t.definitionScript := by
  have calls : (t.handler settings).probes.map (·.1) =
      (probing settings.probePrefix t).map fun p => callOf p.2 := List.map_map
  have screen : (((t.handler settings).probes.find? fun p => ask p.1).map (·.2)).getD
        (t.handler settings).entry =
      ((t.screens.find? (probesTrue settings.probePrefix ask)).getD t.entryScreen).name := by
    rw [find?_probes]
    cases t.screens.find? (probesTrue settings.probePrefix ask) <;> rfl
  have run := runEntry_render (worded_handler hname htriggers settings) ask
  rw [calls, screen] at run
  refine ⟨_, run, rfl, rfl, fun c hc => ?_, ?_⟩
  · obtain ⟨⟨s, trigger⟩, hmem, rfl⟩ := List.mem_map.mp (mem_of_mem_lookedAt hc)
    obtain ⟨hs, ht, hprobe⟩ := mem_probing_iff.mp hmem
    exact ⟨s, hs, trigger, ht, hprobe, rfl⟩
  · have hmem : (t.screens.find? (probesTrue settings.probePrefix ask)).getD t.entryScreen ∈
        t.screens := by
      cases hf : t.screens.find? (probesTrue settings.probePrefix ask) with
      | none => exact entryScreen_mem
      | some s => exact List.mem_of_find?_eq_some hf
    exact addsScreen_definitionScript hmem

/-- Two probes around a call that the entry method must not make. -/
def gatehouse : Template :=
  .ofDraft
    { name := "gate"
      initialScreen := some ⟨2⟩
      screens :=
        [{ id := ⟨1⟩, name := "say \"key\"", text := "Ah, the key."
           trigger := QuestTrigger.of? "hasItem" "key" none none },
          { id := ⟨2⟩, name := "halt", text := "Who goes there?"
            trigger := QuestTrigger.of? "activateTask" "gate" none none },
          { id := ⟨3⟩, name := "open\n", text := "Go in."
            trigger := QuestTrigger.of? "hasDone" "gate" none none }] }
    (by decide)

theorem runEntry_gatehouse :
    runEntry "quests" (·.quest == "GATE") "gate"
        (gatehouse.handlerScript { questModule := "quests" }) =
      some { calls := [⟨"hasItem", "KEY"⟩, ⟨"hasDone", "GATE"⟩], screen := "open\n" } ∧
    AddsScreen "gate" "open\n" gatehouse.definitionScript := by
  have triggers : gatehouse.TriggersWorded := by
    unfold TriggersWorded
    decide
  obtain ⟨run, hrun, hscreen, hcalls, -, added⟩ := runEntry_handlerScript gatehouse
    { questModule := "quests" } (·.quest == "GATE") (by decide) triggers
  obtain ⟨calls, screen⟩ := run
  obtain rfl : screen = "open\n" := hscreen
  obtain rfl : calls = [⟨"hasItem", "KEY"⟩, ⟨"hasDone", "GATE"⟩] := hcalls
  exact ⟨hrun, added⟩

end Template

end Dialogue
