import Dialogue.Proofs.Lua.Script
import Dialogue.Script.Handler

/-!
# Handler scripts as Lua

The items that a reader of Lua finds in a handler script: the quest manager, the handler object and
its two methods.

Results:
* `isWord_upperCase`: the upper case form of a word is a word.
* **`readScript_handler_render`**: a handler script is read as its items, whatever the names of its
  screens and of the quest manager's module.
-/

namespace Dialogue

open Lua Text

/-! ## Upper case words -/

theorem isWordChar_toUpper {c : Char} (h : isWordChar c = true) : isWordChar c.toUpper = true := by
  have ascii : ∀ n < 0x80, isWordChar (Char.ofNat n) = true →
      isWordChar (Char.ofNat n).toUpper = true := by decide
  have := ascii c.toNat (toNat_lt_of_isWordChar h)
  rw [Char.ofNat_toNat] at this
  exact this h

theorem isWord_upperCase {s : String} (h : IsWord s) : IsWord (upperCase s) := by
  have upper : (upperCase s).toList = s.toList.map Char.toUpper := by
    rw [toList_upperCase, List.map_eq_flatMap, List.flatMap_def, List.flatMap_def]
    refine congrArg List.flatten (List.map_congr_left fun c hc => ?_)
    exact upperChars_of_isAscii (toNat_lt_of_isWordChar (h.isWordChar c hc))
  constructor
  · intro he
    rw [he, String.toList_empty] at upper
    exact h.ne_empty (String.toList_eq_nil_iff.mp (List.map_eq_nil_iff.mp upper.symm))
  · rw [isWordText, upper, List.all_eq_true]
    intro c hc
    obtain ⟨d, hd, rfl⟩ := List.mem_map.mp hc
    exact isWordChar_toUpper (h.isWordChar d hd)

namespace Script

/-! ## The script as Lua -/

/-- The variable that holds the handler. -/
def handlerVariable (template : String) : String := template ++ "_convo_handler"

/-- The call, made on the quest manager `manager`. -/
def QuestCall.expr (manager : Expr) (c : QuestCall) : Expr :=
  .call (.field manager c.action) none [.word "pPlayer", .field (.field manager "quests") c.quest]

/-- The call as the script makes it. -/
def QuestCall.called (c : QuestCall) : Expr := c.expr (.word "QuestManager")

/-- The expression for a screen of the conversation. -/
def getScreen (screen : String) : Expr :=
  .call (.word "convoTemplate") (some "getScreen") [.text screen]

/-- The branch for a probe. -/
def probeBranch (p : QuestCall × String) : Branch := ⟨.holds p.1.called, [.give (getScreen p.2)]⟩

/-- The variables of the first method. -/
def entryLocals : List Simple :=
  [.declare "convoTemplate" (.call (.word "LuaConversationTemplate") none [.word "pConvTemplate"]),
    .declare "playerID"
      (.call (.call (.word "SceneObject") none [.word "pPlayer"]) (some "getObjectID") []),
    .declare "player" (.call (.word "LuaCreatureObject") none [.word "pPlayer"]),
    .declare "pGhost"
      (.call (.call (.word "CreatureObject") none [.word "pPlayer"]) (some "getPlayerObject") [])]

/-- How the first method picks a screen. -/
def Handler.entryChoice (h : Handler) : Statement :=
  match h.probes with
  | [] => .simple (.give (getScreen h.entry))
  | p :: ps => .choose (probeBranch p) (ps.map probeBranch) (some [.give (getScreen h.entry)])

/-- The method that picks the entry screen. -/
def Handler.entryMethod (h : Handler) : Item :=
  .method (handlerVariable h.template) "getInitialScreen" ["pPlayer", "pNpc", "pConvTemplate"]
    (entryLocals.map .simple ++ [h.entryChoice])

/-- The branch for a call to make. -/
def effectBranch (p : String × QuestCall) : Branch :=
  ⟨.equal (.word "screenID") (.text p.1), [.perform p.2.called]⟩

/-- The variables of the second method. -/
def effectLocals : List Simple :=
  [.declare "screen" (.call (.word "LuaConversationScreen") none [.word "pConvScreen"]),
    .declare "screenID" (.call (.word "screen") (some "getScreenID") []),
    .declare "playerID"
      (.call (.call (.word "CreatureObject") none [.word "pPlayer"]) (some "getObjectID") []),
    .declare "pGhost"
      (.call (.call (.word "CreatureObject") none [.word "pPlayer"]) (some "getPlayerObject") [])]

/-- The conditions under which the second method returns at once. -/
def guards : List Statement :=
  [.choose
      ⟨.fails (.call (.call (.word "SceneObject") none [.word "pPlayer"])
        (some "isPlayerCreature") []), [.give (.word "0")]⟩ [] none,
    .choose ⟨.group (.equal (.word "pGhost") (.word "nil")), [.give (.word "0")]⟩ [] none]

/-- How the second method makes a call. -/
def Handler.effectChoice (h : Handler) : List Statement :=
  match h.effects with
  | [] => []
  | p :: ps => [.choose (effectBranch p) (ps.map effectBranch) none]

/-- The method that makes the calls of screens. -/
def Handler.effectMethod (h : Handler) : Item :=
  .method (handlerVariable h.template) "runScreenHandlers"
    ["pConvTemplate", "pPlayer", "pNpc", "selectedOption", "pConvScreen"]
    (effectLocals.map .simple ++ guards ++ h.effectChoice ++
      [.simple (.give (.word "pConvScreen"))])

/-- The items of a handler script. -/
def Handler.items (h : Handler) : List Item :=
  [.simple (.declare "QuestManager" (.call (.word "require") none [.text h.questModule])),
    .simple (.assign (handlerVariable h.template) (.make (.word "conv_handler") "new" [])),
    h.entryMethod, h.effectMethod]

/-! ## Its tokens -/

theorem isWord_handlerVariable {template : String} (h : IsWord template) :
    IsWord (handlerVariable template) :=
  h.append (by decide)

/-- The function and the quest of a call are words. -/
structure QuestCall.Worded (c : QuestCall) : Prop where
  /-- The function is a word. -/
  action : IsWord c.action
  /-- The quest is a word. -/
  quest : IsWord c.quest

theorem lexes_questCall {c : QuestCall} (h : c.Worded) {cs : List Char} {ts : List Token}
    {m : Mode} (later : Lexes .ready cs ts m) :
    Lexes .ready (c.text.toList ++ cs) (c.called.tokens ++ ts) m := by
  have manager : Lexes .ready "QuestManager.".toList [.word "QuestManager", .mark .dot] .ready := by
    decide
  have argument : Lexes .ready "(pPlayer, QuestManager.quests.".toList
      [.mark .openParen, .word "pPlayer", .mark .comma, .word "QuestManager", .mark .dot,
        .word "quests", .mark .dot] .ready := by
    simp only [String.reduceToList]
    decide
  have closing : Lexes .ready ")".toList [.mark .closeParen] .ready := by decide
  have call := manager.append (lexes_word_append h.action rfl
    (argument.append (lexes_word_append h.quest rfl (closing.append later))))
  have text : c.text.toList ++ cs = "QuestManager.".toList ++ (c.action.toList ++
      ("(pPlayer, QuestManager.quests.".toList ++ (c.quest.toList ++ (")".toList ++ cs)))) := by
    unfold QuestCall.text
    simp only [String.toList_append, List.append_assoc]
  rw [text]
  exact call

/-- A line that returns a screen. -/
theorem lexesLine_return (indent : String) (h : Lexes .ready indent.toList [] .ready)
    (screen : String) :
    LexesLine (indent ++ returnLine screen) (Simple.give (getScreen screen)).tokens := by
  have opening : Lexes .ready "return convoTemplate:getScreen(".toList
      [.word "return", .word "convoTemplate", .mark .colon, .word "getScreen", .mark .openParen]
      .ready := by
    simp only [String.reduceToList]
    decide
  have closing : Lexes .ready ")".toList [.mark .closeParen] .ready := by decide
  have line := h.append ((opening.append (lexes_quoted screen)).append closing)
  simp only [← String.toList_append] at line
  exact LexesLine.of_ready line

theorem lexesLine_probe {keyword : String} (hk : IsWord keyword) {c : QuestCall} (hc : c.Worded) :
    LexesLine ("    " ++ keyword ++ " " ++ c.text ++ " then")
      (.word keyword :: (c.called.tokens ++ [.word "then"])) := by
  have blank : Lexes .ready "    ".toList [] .ready := by decide
  have space : Lexes .ready " ".toList [] .ready := by decide
  have closing : Lexes .ready (" then".toList ++ ['\n']) [.word "then"] .ready := by decide
  have line := blank.append (lexes_word_append hk rfl (space.append (lexes_questCall hc closing)))
  simpa only [LexesLine, String.toList_append, List.append_assoc, List.nil_append] using line

section

variable {α : Type} (lines : String → List α → List String) (branch : α → Branch)

/-- A chain of branches, of which the first begins with `if` and each later one with `elseif`, when
`lines` writes them one after the other. -/
theorem lexesLines_chain (hnil : lines "elseif" [] = [])
    (hcons : ∀ keyword a as, lines keyword (a :: as) = lines keyword [a] ++ lines "elseif" as)
    (a : α) (as : List α)
    (h : ∀ keyword, IsWord keyword → ∀ b ∈ a :: as,
      LexesLines (lines keyword [b]) ((branch b).tokens keyword)) :
    LexesLines (lines "if" (a :: as))
      ((branch a).tokens "if" ++ (as.map branch).flatMap (Branch.tokens "elseif")) := by
  have flat : lines "elseif" as = as.flatMap fun b => lines "elseif" [b] := by
    clear h
    induction as with
    | nil => exact hnil
    | cons b bs ih => rw [hcons, ih, List.flatMap_cons]
  have first := h "if" (by decide) a List.mem_cons_self
  have others : LexesLines (as.flatMap fun b => lines "elseif" [b])
      (as.flatMap fun b => (branch b).tokens "elseif") :=
    LexesLines.flatMap fun b hb => h "elseif" (by decide) b (List.mem_cons_of_mem a hb)
  rw [hcons, flat, List.flatMap_map]
  exact first.append others

end

theorem lexesLines_probe {keyword : String} (hk : IsWord keyword) {p : QuestCall × String}
    (hp : p.1.Worded) :
    LexesLines (probeLines keyword [p]) ((probeBranch p).tokens keyword) := by
  have line := LexesLines.cons (lexesLine_probe hk hp)
    (.cons (lexesLine_return "        " (by decide) p.2) .nil)
  refine line.of_eq ?_
  simp [Branch.tokens, probeBranch, Condition.tokens]

/-- The line that begins a method; `rest` is what follows the name of the handler. -/
theorem lexesLine_head {template literal rest : String} (ht : IsWord template)
    (hliteral : literal = "_convo_handler" ++ rest) {ts : List Token}
    (hend : endsWord rest.toList = true) (h : Lexes .ready rest.toList ts .ready) :
    LexesLine ("function " ++ template ++ literal)
      (.word "function" :: .word (handlerVariable template) :: ts) := by
  have opening : Lexes .ready "function ".toList [.word "function"] .ready := by decide
  rw [← List.append_nil rest.toList] at hend h
  have line := opening.append (lexes_variable (isWord_handlerVariable ht) hliteral hend h)
  rw [List.append_nil] at line
  simp only [← String.toList_append, ← String.append_assoc] at line
  exact LexesLine.of_ready line

/-- The choice of the first method. -/
theorem lexesLines_entryChoice {h : Handler} (hp : ∀ p ∈ h.probes, p.1.Worded) :
    LexesLines
      (if h.probes.isEmpty then ["    " ++ returnLine h.entry]
        else probeLines "if" h.probes ++ ["    else", "        " ++ returnLine h.entry, "    end"])
      h.entryChoice.tokens := by
  unfold Handler.entryChoice
  cases hprobes : h.probes with
  | nil =>
    have line := lexesLine_return "    " (by decide) h.entry
    exact (LexesLines.cons line .nil).of_eq (List.append_nil _).symm
  | cons p ps =>
    rw [hprobes] at hp
    have chain := lexesLines_chain probeLines probeBranch rfl (fun _ _ _ => rfl) p ps
      fun keyword hk q hq => lexesLines_probe hk (hp q hq)
    have otherwise : LexesLine "    else" [.word "else"] := by decide
    have line := lexesLine_return "        " (by decide) h.entry
    have closing : LexesLine "    end" [.word "end"] := by decide
    have lines := chain.append (.cons otherwise (.cons line (.cons closing .nil)))
    refine lines.of_eq ?_
    simp [Statement.tokens, defaultTokens]

theorem lexesLines_entryLocals :
    LexesLines
      ["    local convoTemplate = LuaConversationTemplate(pConvTemplate)",
        "    local playerID = SceneObject(pPlayer):getObjectID()",
        "    local player = LuaCreatureObject(pPlayer)",
        "    local pGhost = CreatureObject(pPlayer):getPlayerObject()",
        ""]
      (entryLocals.flatMap Simple.tokens) := by
  simp only [LexesLines, toList_unlines, List.flatMap_cons, String.reduceToList, List.flatMap_nil]
  decide +kernel

theorem lexesLines_entryMethod {h : Handler} (ht : IsWord h.template)
    (hp : ∀ p ∈ h.probes, p.1.Worded) : LexesLines h.entryLines h.entryMethod.tokens := by
  have signature : Lexes .ready ":getInitialScreen(pPlayer, pNpc, pConvTemplate)".toList
      [.mark .colon, .word "getInitialScreen", .mark .openParen, .word "pPlayer", .mark .comma,
        .word "pNpc", .mark .comma, .word "pConvTemplate", .mark .closeParen] .ready := by
    simp only [String.reduceToList]
    decide
  have literal : "_convo_handler:getInitialScreen(pPlayer, pNpc, pConvTemplate)" =
      "_convo_handler" ++ ":getInitialScreen(pPlayer, pNpc, pConvTemplate)" := by
    decide
  have head := lexesLine_head ht literal rfl signature
  have closing : LexesLine "end" [.word "end"] := by decide
  have lines := LexesLines.append (.append (.cons head lexesLines_entryLocals)
    (lexesLines_entryChoice hp)) (.cons closing .nil)
  rw [Handler.entryLines]
  refine lines.of_eq ?_
  simp [Handler.entryMethod, Item.tokens, Expr.tokens, argumentTokens, methodTokens,
    List.flatMap_map, Statement.tokens]

theorem lexesLines_effect {keyword : String} (hk : IsWord keyword) {p : String × QuestCall}
    (hp : p.2.Worded) :
    LexesLines (effectLines keyword [p]) ((effectBranch p).tokens keyword) := by
  have blank : Lexes .ready "    ".toList [] .ready := by decide
  have test : Lexes .ready " screenID == ".toList [.word "screenID", .mark .equal] .ready := by
    decide
  have closing : Lexes .ready (" then".toList ++ ['\n']) [.word "then"] .ready := by decide
  have condition : LexesLine ("    " ++ keyword ++ " screenID == " ++ Lua.quoted p.1 ++ " then")
      [.word keyword, .word "screenID", .mark .equal, .text p.1, .word "then"] := by
    have line := blank.append (lexes_word_append hk rfl
      (test.append ((lexes_quoted p.1).append closing)))
    simpa only [LexesLine, String.toList_append, List.append_assoc, List.nil_append,
      List.cons_append] using line
  have call : LexesLine ("        " ++ p.2.text) p.2.called.tokens := by
    have indent : Lexes .ready "        ".toList [] .ready := by decide
    have line := indent.append (lexes_questCall hp (Lexes.nil .ready))
    simp only [List.append_nil, List.nil_append, ← String.toList_append] at line
    exact LexesLine.of_ready line
  have lines := LexesLines.cons condition (.cons call .nil)
  refine lines.of_eq ?_
  simp [Branch.tokens, effectBranch, Condition.tokens, Expr.tokens, Simple.tokens]

/-- The choice of the second method. -/
theorem lexesLines_effectChoice {h : Handler} (hp : ∀ p ∈ h.effects, p.2.Worded) :
    LexesLines (if h.effects.isEmpty then [] else effectLines "if" h.effects ++ ["    end", ""])
      (h.effectChoice.flatMap Statement.tokens) := by
  unfold Handler.effectChoice
  cases heffects : h.effects with
  | nil => exact LexesLines.nil
  | cons p ps =>
    rw [heffects] at hp
    have chain := lexesLines_chain effectLines effectBranch rfl (fun _ _ _ => rfl) p ps
      fun keyword hk q hq => lexesLines_effect hk (hp q hq)
    have closing : LexesLines ["    end", ""] [.word "end"] := by decide
    refine (chain.append closing).of_eq ?_
    simp [Statement.tokens, defaultTokens]

theorem lexesLines_effectLocals :
    LexesLines
      ["    local screen = LuaConversationScreen(pConvScreen)",
        "    local screenID = screen:getScreenID()",
        "    local playerID = CreatureObject(pPlayer):getObjectID()",
        "    local pGhost = CreatureObject(pPlayer):getPlayerObject()",
        ""]
      (effectLocals.flatMap Simple.tokens) := by
  simp only [LexesLines, toList_unlines, List.flatMap_cons, String.reduceToList, List.flatMap_nil]
  decide +kernel

theorem lexesLines_guards :
    LexesLines
      ["    if not SceneObject(pPlayer):isPlayerCreature() then",
        "        return 0",
        "    end",
        "",
        "    if (pGhost == nil) then",
        "        return 0",
        "    end",
        ""]
      (guards.flatMap Statement.tokens) := by
  simp only [LexesLines, toList_unlines, List.flatMap_cons, String.reduceToList, List.flatMap_nil]
  decide +kernel

theorem lexesLines_effectMethod {h : Handler} (ht : IsWord h.template)
    (hp : ∀ p ∈ h.effects, p.2.Worded) :
    LexesLines h.effectFunctionLines h.effectMethod.tokens := by
  have signature : Lexes .ready
      ":runScreenHandlers(pConvTemplate, pPlayer, pNpc, selectedOption, pConvScreen)".toList
      [.mark .colon, .word "runScreenHandlers", .mark .openParen, .word "pConvTemplate",
        .mark .comma, .word "pPlayer", .mark .comma, .word "pNpc", .mark .comma,
        .word "selectedOption", .mark .comma, .word "pConvScreen", .mark .closeParen] .ready := by
    simp only [String.reduceToList]
    decide +kernel
  have literal :
      "_convo_handler:runScreenHandlers(pConvTemplate, pPlayer, pNpc, selectedOption, pConvScreen)" =
        "_convo_handler" ++
          ":runScreenHandlers(pConvTemplate, pPlayer, pNpc, selectedOption, pConvScreen)" := by
    decide
  have head := lexesLine_head ht literal rfl signature
  have closing : LexesLines ["    return pConvScreen", "end"]
      [.word "return", .word "pConvScreen", .word "end"] := by
    decide
  have lines := LexesLines.append (.append (.cons head
    (.append lexesLines_effectLocals lexesLines_guards)) (lexesLines_effectChoice hp)) closing
  have give : (Simple.give (.word "pConvScreen")).tokens = [.word "return", .word "pConvScreen"] :=
    rfl
  rw [Handler.effectFunctionLines]
  refine lines.of_eq ?_
  simp [Handler.effectMethod, Item.tokens, Expr.tokens, argumentTokens, methodTokens,
    List.flatMap_map, Statement.tokens, give]

/-- The template and the calls of a handler are words. -/
structure Handler.Worded (h : Handler) : Prop where
  /-- The name of the template is a word. -/
  template : IsWord h.template
  /-- Each probe is made of words. -/
  probes : ∀ p ∈ h.probes, p.1.Worded
  /-- Each call is made of words. -/
  effects : ∀ p ∈ h.effects, p.2.Worded

/-- The tokens of a handler script are those of its items. -/
theorem lexesLines_handler {h : Handler} (hw : h.Worded) :
    LexesLines h.lines (h.items.flatMap Item.tokens) := by
  have manager : LexesLine ("local QuestManager = require(" ++ Lua.quoted h.questModule ++ ")")
      (Item.simple (.declare "QuestManager"
        (.call (.word "require") none [.text h.questModule]))).tokens := by
    have opening : Lexes .ready "local QuestManager = require(".toList
        [.word "local", .word "QuestManager", .mark .assign, .word "require", .mark .openParen]
        .ready := by
      simp only [String.reduceToList]
      decide
    exact lexesLine_quoted "local QuestManager = require(" h.questModule ")" opening
      (by decide : Lexes .ready _ [.mark .closeParen] .ready)
  have object : LexesLine (h.template ++ "_convo_handler = conv_handler:new \x7b\x7d")
      (Item.simple (.assign (handlerVariable h.template)
        (.make (.word "conv_handler") "new" []))).tokens := by
    have value : Lexes .ready (" = conv_handler:new \x7b\x7d".toList ++ ['\n'])
        [.mark .assign, .word "conv_handler", .mark .colon, .word "new", .mark .openBrace,
          .mark .closeBrace] .ready := by decide
    unfold LexesLine
    rw [String.toList_append, List.append_assoc]
    exact lexes_variable (isWord_handlerVariable hw.template) (by decide) rfl value
  have lines := LexesLines.append (.append (.cons manager (.cons lexesLine_empty (.cons object
      (.cons lexesLine_empty .nil)))) (lexesLines_entryMethod hw.template hw.probes))
    (.cons lexesLine_empty (lexesLines_effectMethod hw.template hw.effects))
  simp only [Handler.lines, List.append_assoc, List.cons_append, List.nil_append] at lines ⊢
  refine lines.of_eq ?_
  simp [Handler.items]

theorem clear_called (c : QuestCall) : (Condition.holds c.called).Clear := by
  have : Token.word "QuestManager" ≠ .word "not" := by decide
  exact this

theorem inner_called (c : QuestCall) : (Simple.perform c.called).Inner :=
  ⟨rfl, "QuestManager", rfl, by decide⟩

theorem clear_probeBranch (p : QuestCall × String) : (probeBranch p).Clear := by
  refine ⟨clear_called p.1, fun s hs => ?_⟩
  obtain rfl := List.mem_singleton.mp hs
  trivial

theorem clear_effectBranch (p : String × QuestCall) : (effectBranch p).Clear := by
  have : Token.word "screenID" ≠ .word "not" := by decide
  refine ⟨this, fun s hs => ?_⟩
  obtain rfl := List.mem_singleton.mp hs
  exact inner_called p.2

/-- Declarations can stand at the beginning of a body. -/
theorem clear_of_declare {ss : List Simple} (h : ∀ s ∈ ss, ∃ x e, s = .declare x e) :
    ∀ s ∈ ss.map Statement.simple, s.Clear := by
  intro s hs
  obtain ⟨d, hd, rfl⟩ := List.mem_map.mp hs
  obtain ⟨x, e, rfl⟩ := h d hd
  trivial

theorem clear_entryChoice (h : Handler) : h.entryChoice.Clear := by
  unfold Handler.entryChoice
  cases h.probes with
  | nil => trivial
  | cons p ps =>
    refine ⟨clear_probeBranch p, fun b hb => ?_, fun body hbody s hs => ?_⟩
    · obtain ⟨q, -, rfl⟩ := List.mem_map.mp hb
      exact clear_probeBranch q
    · obtain rfl := Option.some.inj hbody
      obtain rfl := List.mem_singleton.mp hs
      trivial

theorem clear_entryMethod (h : Handler) : h.entryMethod.Clear := by
  intro s hs
  rcases List.mem_append.mp hs with hs | hs
  · exact clear_of_declare (by simp [entryLocals]) s hs
  · obtain rfl := List.mem_singleton.mp hs
    exact clear_entryChoice h

theorem clear_guards : ∀ s ∈ guards, s.Clear := by
  have inner : ∀ s ∈ [Simple.give (.word "0")], s.Inner := by
    intro s hs
    obtain rfl := List.mem_singleton.mp hs
    trivial
  have ghost : Token.word "pGhost" ≠ .word "not" := by decide
  intro s hs
  simp only [guards, List.mem_cons, List.not_mem_nil, or_false] at hs
  rcases hs with rfl | rfl
  · exact ⟨⟨trivial, inner⟩, nofun, nofun⟩
  · exact ⟨⟨ghost, inner⟩, nofun, nofun⟩

theorem clear_effectChoice (h : Handler) : ∀ s ∈ h.effectChoice, s.Clear := by
  unfold Handler.effectChoice
  cases h.effects with
  | nil => nofun
  | cons p ps =>
    intro s hs
    obtain rfl := List.mem_singleton.mp hs
    refine ⟨clear_effectBranch p, fun b hb => ?_, nofun⟩
    obtain ⟨q, -, rfl⟩ := List.mem_map.mp hb
    exact clear_effectBranch q

theorem clear_effectMethod (h : Handler) : h.effectMethod.Clear := by
  intro s hs
  simp only [List.mem_append, List.mem_singleton] at hs
  rcases hs with ((hs | hs) | hs) | rfl
  · exact clear_of_declare (by simp [effectLocals]) s hs
  · exact clear_guards s hs
  · exact clear_effectChoice h s hs
  · trivial

/-- **A handler script is read as its items.** -/
theorem readScript_handler_render {h : Handler} (hw : h.Worded) :
    readScript h.render = some h.items := by
  have clear : ∀ i ∈ h.items, i.Clear := by
    intro i hi
    simp only [Handler.items, List.mem_cons, List.not_mem_nil, or_false] at hi
    rcases hi with rfl | rfl | rfl | rfl
    · trivial
    · trivial
    · exact clear_entryMethod h
    · exact clear_effectMethod h
  rw [readScript, lex_eq h.render (lexesLines_handler hw), Option.bind_some]
  exact readItems_tokens clear

end Script

end Dialogue
