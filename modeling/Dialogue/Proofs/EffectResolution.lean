import Dialogue.Proofs.EntryResolution

/-!
# What the second method of a handler script does

When a screen is shown, the method `runScreenHandlers` makes the call of the screen's trigger unless
that is a probe. `runEffects` reads a handler script as Lua and runs this method on a screen that is
shown to a player. Two guards come first: the player has to be a creature and to have a ghost, which
is the object that holds the player's progress.

Results:
* `runEffects_render`: past the guards the first branch for the screen makes its call; no other call
  is made.
* `Template.find?_acting_eq_some_iff`: a screen with a trigger to call is found by its name.
* `Template.effect?_of_acting`, `Template.effect?_eq_none`: for which screens the script has a call.
* **`Template.runEffects_handlerScript`**: showing a screen makes the call of its trigger, unless that
  is a probe; each trigger serves one of the two methods and not the other.
-/

namespace Dialogue

open Lua Text

namespace Script

/-! ## A screen is shown -/

/-- A screen that is shown to a player. -/
structure Showing where
  /-- The identifier by which the script knows the screen. -/
  screen : String
  /-- The player is a creature. -/
  creature : Bool := true
  /-- The player has a ghost. -/
  ghost : Bool := true
  deriving DecidableEq, Repr

/-- The second method goes on past its guards. -/
def Showing.passes (x : Showing) : Bool := x.creature && x.ghost

/-- The expression is `wrapper(argument):method()`. -/
def asks (wrapper argument method : String) : Expr → Bool
  | .call (.call (.word f) none [.word a]) (some m) [] => f == wrapper && a == argument && m == method
  | _ => false

/-- The truth of a condition of the second method. -/
def Showing.holds (x : Showing) : Condition → Bool
  | .fails e => asks "SceneObject" "pPlayer" "isPlayerCreature" e && ! x.creature
  | .group (.equal e (.word w)) =>
    asks "CreatureObject" "pPlayer" "getPlayerObject" e && w == "nil" && ! x.ghost
  | .equal e (.text name) =>
    asks "LuaConversationScreen" "pConvScreen" "getScreenID" e && name == x.screen
  | _ => false

/-- The name that an expression is. -/
def nameOf? : Expr → Option String
  | .word w => some w
  | _ => none

/-- What a run of the second method does. -/
structure EffectRun where
  /-- The calls of the quest manager that are made, in order. -/
  calls : List QuestCall
  /-- The parameter or number that is returned. -/
  returned : String
  deriving DecidableEq, Repr

/-- Runs the second method of the handler of `template` in a handler script. -/
def runEffects (questModule : String) (x : Showing) (template source : String) :
    Option EffectRun := do
  let items ← readScript source
  let outcome ← runMethod x.holds (handlerVariable template) "runScreenHandlers" [] items
  let calls ← (outcome.evaluated.flatMap (Expr.callsOn (isQuestManager questModule))).mapM
    (questCall? questModule)
  let returned ← outcome.value.bind nameOf?
  return { calls, returned }

/-! ## Running the method -/

/-- The ghost of the player, as the method gets at it. -/
def ghostOf : Expr :=
  .call (.call (.word "CreatureObject") none [.word "pPlayer"]) (some "getPlayerObject") []

/-- The identifier of the screen, as the method gets at it. -/
def shownScreen : Expr :=
  .call (.call (.word "LuaConversationScreen") none [.word "pConvScreen"]) (some "getScreenID") []

/-- The variables when the second method comes to its guards. -/
def effectEnv (questModule : String) : Env :=
  [("pGhost", ghostOf),
    ("playerID",
      .call (.call (.word "CreatureObject") none [.word "pPlayer"]) (some "getObjectID") []),
    ("screenID", shownScreen),
    ("screen", .call (.word "LuaConversationScreen") none [.word "pConvScreen"]),
    ("QuestManager", questManager questModule)]

/-- The expressions that the second method evaluates before it comes to its guards. -/
def effectValues : List Expr :=
  [.call (.word "LuaConversationScreen") none [.word "pConvScreen"], shownScreen,
    .call (.call (.word "CreatureObject") none [.word "pPlayer"]) (some "getObjectID") [], ghostOf]

/-- What the first guard looks at. -/
def creatureTest : Expr :=
  .call (.call (.word "SceneObject") none [.word "pPlayer"]) (some "isPlayerCreature") []

/-- What stands behind the guards. -/
def Handler.effectEnding (h : Handler) : List Statement :=
  h.effectChoice ++ [.simple (.give (.word "pConvScreen"))]

theorem runMethod_runScreenHandlers (h : Handler) (holds : Condition → Bool) :
    runMethod holds (handlerVariable h.template) "runScreenHandlers" [] h.items =
      (runBody holds (effectEnv h.questModule) (guards ++ h.effectEnding)).map
        (.after effectValues) := by
  have opened : runMethod holds (handlerVariable h.template) "runScreenHandlers" [] h.items =
      runBody holds [("QuestManager", questManager h.questModule)]
        (effectLocals.map .simple ++ (guards ++ h.effectEnding)) := by
    have body : effectLocals.map .simple ++ (guards ++ h.effectEnding) =
        effectLocals.map .simple ++ guards ++ h.effectChoice ++
          [.simple (.give (.word "pConvScreen"))] := by
      simp only [Handler.effectEnding, List.append_assoc]
    have first : ¬ "getInitialScreen" = "runScreenHandlers" := by decide
    rw [runMethod_methods, Handler.entryMethod, runMethod, if_neg fun same => first same.2, body,
      Handler.effectMethod, runMethod]
    exact if_pos ⟨rfl, rfl⟩
  rw [opened, effectLocals, List.map_cons, List.map_cons, List.map_cons, List.map_cons,
    List.map_nil, List.cons_append, List.cons_append, List.cons_append, List.cons_append,
    List.nil_append, runBody_declare, runBody_declare, runBody_declare, runBody_declare,
    Option.map_map, Option.map_map, Option.map_map]
  rfl

/-! ### The guards -/

section

variable (questModule : String) (x : Showing)

theorem holds_creatureTest : x.holds (.fails creatureTest) = ! x.creature := rfl

theorem holds_ghostOf : x.holds (.group (.equal ghostOf (.word "nil"))) = ! x.ghost := rfl

/-- A player who is a creature and has a ghost gets past the guards. -/
theorem runBody_guards_of_passes (h : x.passes = true) (rest : List Statement) :
    runBody x.holds (effectEnv questModule) (guards ++ rest) =
      (runBody x.holds (effectEnv questModule) rest).map
        (.after [creatureTest, ghostOf, .word "nil"]) := by
  obtain ⟨hcreature, hghost⟩ := Bool.and_eq_true_iff.mp h
  have first : x.holds (.fails creatureTest) = false := by rw [holds_creatureTest, hcreature]; rfl
  have second : x.holds (.group (.equal ghostOf (.word "nil"))) = false := by
    rw [holds_ghostOf, hghost]
    rfl
  rw [guards, List.cons_append, List.cons_append, List.nil_append, runBody_guard_of_false first,
    runBody_guard_of_false second, Option.map_map]
  rfl

/-- Any other player does not, and nothing has been called by then. -/
theorem runBody_guards_of_not_passes (h : x.passes = false) (rest : List Statement) :
    ∃ values, runBody x.holds (effectEnv questModule) (guards ++ rest) =
        some ⟨values, some (.word "0")⟩ ∧
      values.flatMap (Expr.callsOn (isQuestManager questModule)) = [] := by
  rw [guards, List.cons_append, List.cons_append, List.nil_append]
  cases hcreature : x.creature with
  | false =>
    have first : x.holds (.fails creatureTest) = true := by rw [holds_creatureTest, hcreature]; rfl
    refine ⟨[creatureTest, .word "0"], ?_, rfl⟩
    rw [runBody_guard_of_true first rfl]
    rfl
  | true =>
    have first : x.holds (.fails creatureTest) = false := by rw [holds_creatureTest, hcreature]; rfl
    have second : x.holds (.group (.equal ghostOf (.word "nil"))) = true := by
      rw [Showing.passes, hcreature, Bool.true_and] at h
      rw [holds_ghostOf, h]
      rfl
    refine ⟨[creatureTest, ghostOf, .word "nil", .word "0"], ?_, rfl⟩
    rw [runBody_guard_of_false first, runBody_guard_of_true second rfl]
    rfl

end

/-! ### The calls -/

section

variable (questModule : String) (x : Showing)

theorem holds_effectBranch (p : String × QuestCall) :
    x.holds ((effectBranch p).condition.resolve (effectEnv questModule)) = (p.1 == x.screen) := rfl

/-- What is evaluated to find the branch for the screen. -/
def comparisons (effects : List (String × QuestCall)) : List Expr :=
  (lookedAt (fun p => p.1 == x.screen) effects).flatMap fun p => [shownScreen, .text p.1]

/-- No comparison calls the quest manager. -/
theorem flatMap_comparisons (effects : List (String × QuestCall)) :
    (comparisons x effects).flatMap (Expr.callsOn (isQuestManager questModule)) = [] := by
  rw [comparisons, List.flatMap_assoc, List.flatMap_eq_nil_iff]
  intro p _
  rfl

/-- The call that the script makes for the screen. -/
def Handler.effect? (h : Handler) : Option QuestCall :=
  (h.effects.find? fun p => p.1 == x.screen).map (·.2)

/-- The first branch for the screen makes its call. -/
theorem runBranches_effects (effects : List (String × QuestCall)) :
    runBranches x.holds (effectEnv questModule) [] (effects.map effectBranch) =
      some
        ⟨comparisons x effects ++ ((effects.find? fun p => p.1 == x.screen).map (·.2)).toList.map
          (·.expr (questManager questModule)), none⟩ := by
  rw [runBranches_eq, List.find?_map, lookedAt_map]
  simp only [Function.comp_def, holds_effectBranch]
  rw [List.flatMap_map]
  cases effects.find? fun p => p.1 == x.screen with
  | none => rfl
  | some p => rfl

/-- With or without branches, the method returns at last. -/
theorem runBody_effectEnding (h : Handler) :
    runBody x.holds (effectEnv h.questModule) h.effectEnding =
      some
        { evaluated := comparisons x h.effects ++ ((h.effect? x).toList.map
            (·.expr (questManager h.questModule)) ++ [.word "pConvScreen"])
          value := some (.word "pConvScreen") } := by
  have ending : runBody x.holds (effectEnv h.questModule) [.simple (.give (.word "pConvScreen"))] =
      some ⟨[.word "pConvScreen"], some (.word "pConvScreen")⟩ := rfl
  unfold Handler.effectEnding Handler.effectChoice Handler.effect?
  cases h.effects with
  | nil => exact ending
  | cons p ps =>
    have chosen : runStatement x.holds (effectEnv h.questModule)
        (.choose (effectBranch p) (ps.map effectBranch) none) =
          (some ⟨_, none⟩ : Option Outcome).map (effectEnv h.questModule, ·) :=
      congrArg (Option.map _) (runBranches_effects h.questModule x (p :: ps))
    refine (follow_cons_of_none chosen rfl _).trans ?_
    rw [← List.append_assoc]
    exact congrArg (Option.map _) ending

end

/-- **Past the guards the first branch for the screen makes its call**, and no other call is made; a
player whom the guards stop makes no call at all. -/
theorem runEffects_render {h : Handler} (hw : h.Worded) (x : Showing) :
    runEffects h.questModule x h.template h.render =
      some (if x.passes then ⟨(h.effect? x).toList, "pConvScreen"⟩ else ⟨[], "0"⟩) := by
  have values : effectValues.flatMap (Expr.callsOn (isQuestManager h.questModule)) = [] := rfl
  cases hx : x.passes with
  | false =>
    obtain ⟨stopped, run, silent⟩ := runBody_guards_of_not_passes h.questModule x hx h.effectEnding
    have run := (runMethod_runScreenHandlers h x.holds).trans (congrArg (Option.map _) run)
    simp only [runEffects, readScript_handler_render hw, run, Option.bind_eq_bind, Option.bind_some,
      Option.map_some, Outcome.after, List.flatMap_append, values, silent]
    rfl
  | true =>
    have silent := flatMap_comparisons h.questModule x h.effects
    have guarded : [creatureTest, ghostOf, .word "nil"].flatMap
        (Expr.callsOn (isQuestManager h.questModule)) = [] := rfl
    have ended : [Expr.word "pConvScreen"].flatMap
        (Expr.callsOn (isQuestManager h.questModule)) = [] := rfl
    have run := (runMethod_runScreenHandlers h x.holds).trans (congrArg (Option.map _)
      (runBody_guards_of_passes h.questModule x hx h.effectEnding))
    rw [runBody_effectEnding] at run
    simp only [runEffects, readScript_handler_render hw, run, Option.bind_eq_bind, Option.bind_some,
      Option.map_some, Outcome.after, List.flatMap_append, values, silent, guarded, ended,
      List.nil_append, List.append_nil, mapM_questCall?_expr]
    rfl

end Script

/-! ## Templates -/

namespace Template

open Script

variable (t : Template) (settings : Settings)

/-- The screens whose trigger is not a probe are found by their names. -/
theorem find?_acting_eq_some_iff {probePrefix name : String} {s : Screen} {trigger : QuestTrigger} :
    (acting probePrefix t).find? (fun p => p.1.name == name) = some (s, trigger) ↔
      (s, trigger) ∈ acting probePrefix t ∧ s.name = name := by
  constructor
  · intro h
    exact ⟨List.mem_of_find?_eq_some h, by simpa using List.find?_some h⟩
  · rintro ⟨hmem, rfl⟩
    cases hf : (acting probePrefix t).find? fun p => p.1.name == s.name with
    | none =>
      have := List.find?_eq_none.mp hf _ hmem
      simp at this
    | some found =>
      -- Names tell screens apart, and a screen has one trigger.
      obtain ⟨r, other⟩ := found
      have hname : r.name = s.name := by simpa using List.find?_some hf
      obtain ⟨hr, hother, -⟩ := mem_acting_iff.mp (List.mem_of_find?_eq_some hf)
      obtain ⟨hs, htrigger, -⟩ := mem_acting_iff.mp hmem
      obtain rfl := t.wellFormed.eq_of_name_eq hr hs hname
      rw [htrigger] at hother
      rw [Option.some.inj hother]

theorem effect?_handler (x : Showing) :
    (t.handler settings).effect? x =
      ((acting settings.probePrefix t).find? fun p => p.1.name == x.screen).map
        fun p => callOf p.2 := by
  rw [Handler.effect?, Template.handler, List.find?_map, Option.map_map]
  rfl

section

variable {t settings} {x : Showing}

/-- The script has the call of a trigger that is not a probe. -/
theorem effect?_of_acting {s : Screen} {trigger : QuestTrigger} (hs : s ∈ t.screens)
    (ht : s.trigger = some trigger) (hp : isProbe settings.probePrefix trigger = false)
    (hx : s.name = x.screen) : (t.handler settings).effect? x = some (callOf trigger) := by
  have hmem := mem_acting_iff.mpr ⟨hs, ht, hp⟩
  rw [effect?_handler, (find?_acting_eq_some_iff t).mpr ⟨hmem, hx⟩]
  rfl

/-- The script has no other call. -/
theorem effect?_eq_none (h : ∀ s ∈ t.screens, s.name = x.screen → ∀ trigger ∈ s.trigger,
    isProbe settings.probePrefix trigger = true) : (t.handler settings).effect? x = none := by
  rw [effect?_handler, Option.map_eq_none_iff, List.find?_eq_none]
  rintro ⟨s, trigger⟩ hmem hx
  obtain ⟨hs, ht, hp⟩ := mem_acting_iff.mp hmem
  exact Bool.false_ne_true (hp.symm.trans (h s hs (by simpa using hx) trigger ht))

/-- A trigger is a probe exactly if the script does not have its call for its screen. -/
theorem mem_probing_iff_effect?_ne {s : Screen} {trigger : QuestTrigger}
    (h : (s, trigger) ∈ triggered t) (hx : s.name = x.screen) :
    (s, trigger) ∈ probing settings.probePrefix t ↔
      (t.handler settings).effect? x ≠ some (callOf trigger) := by
  obtain ⟨hs, ht⟩ := mem_triggered_iff.mp h
  rw [mem_probing_iff]
  constructor
  · rintro ⟨-, -, hp⟩
    have none : (t.handler settings).effect? x = none := by
      refine effect?_eq_none fun r hr hname other hother => ?_
      obtain rfl := t.wellFormed.eq_of_name_eq hr hs (hname.trans hx.symm)
      obtain rfl : other = trigger := Option.some.inj (hother.symm.trans ht)
      exact hp
    rw [none]
    exact Option.some_ne_none _ |>.symm
  · intro hne
    refine ⟨hs, ht, (Bool.not_eq_false _).mp fun hp => hne ?_⟩
    exact effect?_of_acting hs ht hp hx

end

/-- **What showing a screen of a template does.** When the player gets past the guards, the second
method makes the one call of the trigger of the screen with the given name, if there is such a
screen, if it has a trigger and if that is not a probe, and no call otherwise; then it returns the
screen. The first method, when all that it asks is denied, asks for the triggers of some of the
screens, in order; a trigger is asked for there exactly if showing its screen makes no call of it. -/
theorem runEffects_handlerScript (hname : isWordText t.name = true)
    (htriggers : t.TriggersWorded) :
    ∃ (shown : String → EffectRun) (entry : EntryRun) (asked : List (Screen × QuestTrigger)),
      (∀ x, runEffects settings.questModule { screen := x } t.name (t.handlerScript settings) =
        some (shown x)) ∧
      (∀ x, (shown x).returned = "pConvScreen") ∧
      (∀ s ∈ t.screens, ∀ trigger ∈ s.trigger, isProbe settings.probePrefix trigger = false →
        (shown s.name).calls = [callOf trigger]) ∧
      (∀ x, (∀ s ∈ t.screens, s.name = x → ∀ trigger ∈ s.trigger,
        isProbe settings.probePrefix trigger = true) → (shown x).calls = []) ∧
      runEntry settings.questModule (fun _ => false) t.name (t.handlerScript settings) =
        some entry ∧
      entry.calls = asked.map (fun p => callOf p.2) ∧ asked.Sublist (triggered t) ∧
      ∀ p ∈ triggered t, p ∈ asked ↔ callOf p.2 ∉ (shown p.1.name).calls := by
  have worded := worded_handler hname htriggers settings
  have entry := runEntry_render worded fun _ => false
  rw [lookedAt_of_forall_false fun _ => rfl] at entry
  refine ⟨fun x => ⟨((t.handler settings).effect? { screen := x }).toList, "pConvScreen"⟩, _,
    probing settings.probePrefix t, fun x => runEffects_render worded { screen := x },
    fun _ => rfl, fun s hs trigger ht hp => ?_, fun x h => ?_, entry, List.map_map,
    List.filter_sublist, fun ⟨s, trigger⟩ hmem => ?_⟩
  · exact congrArg Option.toList (effect?_of_acting hs ht hp rfl)
  · exact congrArg Option.toList (effect?_eq_none h)
  · rw [mem_probing_iff_effect?_ne hmem (x := { screen := s.name }) rfl, Option.mem_toList]

/-- A ferry that lets some pass for their ticket, has others pay, and asks for a name. -/
def ferry : Template :=
  .ofDraft
    { name := "ferry"
      screens :=
        [{ id := ⟨1⟩, name := "aboard", text := "Welcome back."
           trigger := QuestTrigger.of? "hasTicket" "crossing" none none },
          { id := ⟨2⟩, name := "pay \"toll\"", text := "Two coins."
            trigger := QuestTrigger.of? "payToll" "crossing" none none },
          { id := ⟨3⟩, name := "greet", text := "Who are you?"
            trigger := QuestTrigger.of? "hasName" "guest" none none }] }
    (by decide)

/-- With the prefix `hasTicket`, asking for a name is no probe. -/
theorem runEffects_ferry :
    runEffects "quests" { screen := "greet" } "ferry"
        (ferry.handlerScript { probePrefix := "hasTicket", questModule := "quests" }) =
      some { calls := [⟨"hasName", "GUEST"⟩], returned := "pConvScreen" } ∧
    runEffects "quests" { screen := "aboard" } "ferry"
        (ferry.handlerScript { probePrefix := "hasTicket", questModule := "quests" }) =
      some { calls := [], returned := "pConvScreen" } := by
  have triggers : ferry.TriggersWorded := by
    unfold TriggersWorded
    decide
  obtain ⟨shown, -, -, hrun, hreturned, hcalled, hsilent, -⟩ := runEffects_handlerScript ferry
    { probePrefix := "hasTicket", questModule := "quests" } (by decide) triggers
  have greet : (shown "greet").calls = [⟨"hasName", "GUEST"⟩] :=
    hcalled ferry.screens[2] (by decide) _ rfl (by decide)
  have aboard : (shown "aboard").calls = [] := hsilent "aboard" (by decide)
  constructor
  · rw [← greet, ← hreturned "greet"]
    exact hrun "greet"
  · rw [← aboard, ← hreturned "aboard"]
    exact hrun "aboard"

end Template

end Dialogue
