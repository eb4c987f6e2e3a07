import Dialogue.Proofs.Lua.Script
import Dialogue.Script.Definition
import Mathlib.Data.List.Basic

/-!
# Reading a definition script back

`readDefinition` reads a definition script as Lua source: it takes the conversation from the
assignment at the top, each screen from the assignment of its table and the call that adds it, and
requires the registration at the end.

Results:
* `lexesLines_lines`: the tokens of a definition script are those of its items.
* `readScript_render`: a definition script is read as its items.
* **`Template.readDefinition_definitionScript`**: the reader recovers the names, the texts as they
  are shown, the ends and the links of a template, whatever its texts hold.
-/

namespace Dialogue

open Lua Text

namespace Script

/-! ## The script as Lua -/

/-- The variable that holds the conversation. -/
def conversationVariable (template : String) : String := template ++ "_convo_template"

/-- The field for a response. -/
def Response.field (r : Response) : Field :=
  .mk none (.table [.mk none (.text r.shown), .mk none (.text r.target)])

/-- The field that shows the text of a screen. -/
def Speech.field : Speech → Field
  | .reference key _ => .mk (some "leftDialog") (.text key)
  | .literal text => .mk (some "customDialogText") (.text text)

/-- The fields for a screen. -/
def Block.fields (b : Block) : List Field :=
  [.mk (some "id") (.text b.name),
    b.speech.field,
    .mk (some "stopConversation") (.text (if b.terminal then "true" else "false")),
    .mk (some "options") (.table (b.responses.map Response.field))]

/-- The items for a screen of a template. -/
def Block.items (template : String) (b : Block) : List Item :=
  [.simple (.assign b.name (.make (.word "ConvoScreen") "new" b.fields)),
    .simple (.perform
      (.call (.word (conversationVariable template)) (some "addScreen") [.word b.name])),
    .simple .skip]

/-- The fields of the conversation. -/
def Definition.headFields (d : Definition) : List Field :=
  [.mk (some "initialScreen") (.text d.entry),
    .mk (some "templateType") (.text "Lua"),
    .mk (some "luaClassHandler") (.text (d.template ++ "_convo_handler")),
    .mk (some "screens") (.table [])]

/-- The items that register the conversation. -/
def Definition.registrationItems (d : Definition) : List Item :=
  [.simple (.perform (.call (.word "addConversationTemplate") none
      [.text (conversationVariable d.template), .word (conversationVariable d.template)])),
    .simple .skip]

/-- The items of a definition script. -/
def Definition.items (d : Definition) : List Item :=
  .simple (.assign (conversationVariable d.template)
    (.make (.word "ConvoTemplate") "new" d.headFields)) ::
  (d.blocks.flatMap (·.items d.template) ++ d.registrationItems)

/-! ## Its tokens -/

theorem isWord_conversationVariable {template : String} (h : IsWord template) :
    IsWord (conversationVariable template) :=
  h.append (by decide)

theorem lexesLine_speech (s : Speech) :
    LexesLine s.line (fieldTokens [] [s.field] ++ [.mark .comma]) := by
  cases s with
  | literal text =>
    have shown : Lexes .ready "    customDialogText = ".toList
        [.word "customDialogText", .mark .assign] .ready := by decide +kernel
    exact lexesLine_field _ text shown
  | reference key text =>
    have shown : Lexes .ready "    leftDialog = ".toList [.word "leftDialog", .mark .assign]
        .ready := by decide +kernel
    have separated : Lexes .ready ", -- ".toList [.mark .comma] .comment := by decide +kernel
    have line := ((shown.append (lexes_quoted key)).append separated).append (lexes_comment text)
    simp only [← String.toList_append] at line
    exact LexesLine.of_comment line

theorem lexesLine_response (isLast : Bool) (r : Response) :
    LexesLine (r.line isLast) (fieldTokens [] [r.field] ++ if isLast then [] else [.mark .comma]) := by
  have opening : Lexes .ready "        \x7b".toList [.mark .openBrace] .ready := by decide +kernel
  have between : Lexes .ready ", ".toList [.mark .comma] .ready := by decide +kernel
  have closing : Lexes .ready "\x7d".toList [.mark .closeBrace] .ready := by decide +kernel
  have separator : Lexes .ready (if isLast then "" else ",").toList
      (if isLast then [] else [.mark .comma]) .ready := by
    cases isLast <;> decide +kernel
  have line := (((((opening.append (lexes_quoted r.shown)).append between).append
    (lexes_quoted r.target)).append closing).append separator)
  simp only [← String.toList_append] at line
  unfold Response.line
  cases r.comment with
  | none =>
    simp only [String.append_empty]
    exact LexesLine.of_ready line
  | some text =>
    have dashes : Lexes .ready " -- ".toList [] .comment := by decide +kernel
    have line := line.append (dashes.append (lexes_comment text))
    simp only [← String.toList_append, List.append_nil] at line
    exact LexesLine.of_comment line

/-- All responses but the last are followed by a comma. -/
theorem lexesLines_responses : ∀ rs : List Response,
    LexesLines (responseLines rs) (fieldTokens [] (rs.map Response.field))
  | [] => LexesLines.nil
  | [r] => LexesLines.cons (lexesLine_response true r) LexesLines.nil
  | r :: next :: rest => by
    have here := lexesLine_response false r
    have later := lexesLines_responses (next :: rest)
    rw [List.map_cons, List.map_cons, fieldTokens_cons_cons]
    exact LexesLines.cons here later

/-- The lines that assign the table of a screen. -/
theorem lexesLines_screen {b : Block} (hb : IsWord b.name) :
    LexesLines
      ([b.name ++ " = ConvoScreen:new \x7b",
          "    id = " ++ quoted b.name ++ ",",
          b.speech.line,
          "    stopConversation = \"" ++ (if b.terminal then "true" else "false") ++ "\",",
          "    options = \x7b"] ++
        (responseLines b.responses ++ ["    \x7d", "\x7d"]))
      (Item.simple (.assign b.name (.make (.word "ConvoScreen") "new" b.fields))).tokens := by
  have opening : LexesLine (b.name ++ " = ConvoScreen:new \x7b")
      [.word b.name, .mark .assign, .word "ConvoScreen", .mark .colon, .word "new",
        .mark .openBrace] := by
    refine LexesLine.of_ready ?_
    rw [String.toList_append]
    exact lexes_word_append hb (by decide +kernel) (by decide +kernel)
  have id : Lexes .ready "    id = ".toList [.word "id", .mark .assign] .ready := by decide +kernel
  have stop : LexesLine
      ("    stopConversation = \"" ++ (if b.terminal then "true" else "false") ++ "\",")
      [.word "stopConversation", .mark .assign, .text (if b.terminal then "true" else "false"),
        .mark .comma] := by
    cases b.terminal <;> exact LexesLine.of_ready (by decide +kernel)
  have options : LexesLine "    options = \x7b" [.word "options", .mark .assign, .mark .openBrace] :=
    LexesLine.of_ready (by decide +kernel)
  have closing : LexesLines ["    \x7d", "\x7d"] [.mark .closeBrace, .mark .closeBrace] := by
    decide +kernel
  have lines := LexesLines.append
    (.cons opening (.cons (lexesLine_field _ b.name id) (.cons (lexesLine_speech b.speech)
      (.cons stop (.cons options .nil)))))
    (.append (lexesLines_responses b.responses) closing)
  refine lines.of_eq ?_
  simp [Item.tokens, Simple.tokens, Expr.tokens, Block.fields, fieldTokens_cons_cons, keyTokens,
    fieldTokens]

/-- The line that adds a screen to the conversation. -/
theorem lexesLine_addScreen {template name : String} (ht : IsWord template) (hn : IsWord name) :
    LexesLine (template ++ "_convo_template:addScreen(" ++ name ++ ");")
      ((Expr.call (.word (conversationVariable template)) (some "addScreen")
        [.word name]).tokens ++ [.mark .semicolon]) := by
  have call : Lexes .ready ":addScreen(".toList
      [.mark .colon, .word "addScreen", .mark .openParen] .ready := by decide +kernel
  have argument : Lexes .ready (name.toList ++ (");".toList ++ ['\n']))
      [.word name, .mark .closeParen, .mark .semicolon] .ready :=
    lexes_word_append hn (by decide +kernel) (by decide +kernel)
  unfold LexesLine
  simp only [String.toList_append, List.append_assoc]
  exact lexes_variable (isWord_conversationVariable ht) (by decide +kernel) rfl
    (call.append argument)

theorem lexesLines_block {template : String} (ht : IsWord template) {b : Block}
    (hb : IsWord b.name) :
    LexesLines (b.lines template) ((b.items template).flatMap Item.tokens) := by
  have lines := LexesLines.append (lexesLines_screen hb)
    (.cons (lexesLine_addScreen ht hb) (.cons lexesLine_empty .nil))
  simp only [Block.lines, List.append_assoc, List.cons_append, List.nil_append] at lines ⊢
  refine lines.of_eq ?_
  simp [Block.items, Item.tokens, Simple.tokens]

/-- The lines that declare the conversation. -/
theorem lexesLines_headLines {d : Definition} (ht : IsWord d.template) :
    LexesLines d.headLines
      (Item.simple (.assign (conversationVariable d.template)
        (.make (.word "ConvoTemplate") "new" d.headFields))).tokens := by
  have value : Lexes .ready (" = ConvoTemplate:new \x7b".toList ++ ['\n'])
      [.mark .assign, .word "ConvoTemplate", .mark .colon, .word "new", .mark .openBrace] .ready := by
    decide +kernel
  have opening : LexesLine (d.template ++ "_convo_template = ConvoTemplate:new \x7b")
      [.word (conversationVariable d.template), .mark .assign, .word "ConvoTemplate", .mark .colon,
        .word "new", .mark .openBrace] := by
    unfold LexesLine
    rw [String.toList_append, List.append_assoc]
    exact lexes_variable (isWord_conversationVariable ht) (by decide +kernel) rfl value
  have entry : Lexes .ready "    initialScreen = ".toList [.word "initialScreen", .mark .assign]
      .ready := by decide +kernel
  have language : LexesLine "    templateType = \"Lua\","
      [.word "templateType", .mark .assign, .text "Lua", .mark .comma] :=
    LexesLine.of_ready (by decide +kernel)
  have handler : Lexes .ready "    luaClassHandler = ".toList
      [.word "luaClassHandler", .mark .assign] .ready := by decide +kernel
  have closing : LexesLines ["    screens = \x7b\x7d", "\x7d", ""]
      [.word "screens", .mark .assign, .mark .openBrace, .mark .closeBrace, .mark .closeBrace] := by
    decide +kernel
  have lines := LexesLines.cons opening (.cons (lexesLine_field _ d.entry entry) (.cons language
    (.cons (lexesLine_field _ (d.template ++ "_convo_handler") handler) closing)))
  refine lines.of_eq ?_
  simp [Item.tokens, Simple.tokens, Expr.tokens, Definition.headFields, fieldTokens, keyTokens]

/-- The line that registers the conversation. -/
theorem lexesLine_registration {d : Definition} (ht : IsWord d.template) :
    LexesLine d.registration (d.registrationItems.flatMap Item.tokens) := by
  have opening : Lexes .ready "addConversationTemplate(".toList
      [.word "addConversationTemplate", .mark .openParen] .ready := by
    simp only [String.reduceToList]
    decide +kernel
  have between : Lexes .ready ", ".toList [.mark .comma] .ready := by decide +kernel
  have closing : Lexes .ready (");".toList ++ ['\n']) [.mark .closeParen, .mark .semicolon]
      .ready := by decide +kernel
  have ending : "_convo_template);" = "_convo_template" ++ ");" := by decide +kernel
  have line := opening.append ((lexes_quoted (conversationVariable d.template)).append
    (between.append (lexes_variable (isWord_conversationVariable ht) ending rfl closing)))
  have tokens : d.registrationItems.flatMap Item.tokens =
      [.word "addConversationTemplate", .mark .openParen,
        .text (conversationVariable d.template), .mark .comma,
        .word (conversationVariable d.template), .mark .closeParen, .mark .semicolon] := rfl
  unfold LexesLine Definition.registration
  simp only [String.toList_append, List.append_assoc]
  rw [tokens]
  exact line

/-- The names of the template and of its screens are words. -/
structure Definition.Worded (d : Definition) : Prop where
  /-- The name of the template is a word. -/
  template : IsWord d.template
  /-- The name of each screen is a word. -/
  blocks : ∀ b ∈ d.blocks, IsWord b.name

/-- The tokens of a definition script are those of its items. -/
theorem lexesLines_lines {d : Definition} (h : d.Worded) :
    LexesLines d.lines (d.items.flatMap Item.tokens) := by
  have blocks : LexesLines (d.blocks.flatMap (·.lines d.template))
      ((d.blocks.flatMap (·.items d.template)).flatMap Item.tokens) := by
    rw [List.flatMap_assoc]
    exact LexesLines.flatMap fun b hb => lexesLines_block h.template (h.blocks b hb)
  have registration : LexesLines [d.registration] (d.registrationItems.flatMap Item.tokens) := by
    simpa using LexesLines.cons (lexesLine_registration h.template) .nil
  have lines := ((lexesLines_headLines h.template).append blocks).append registration
  rw [Definition.items, List.flatMap_cons, List.flatMap_append, ← List.append_assoc]
  exact lines

theorem conversationVariable_not_mem_keywords (template : String) :
    conversationVariable template ∉ keywords := by
  intro h
  have short : ∀ w ∈ keywords, w.length ≤ 8 := by decide
  have hlength := short _ h
  rw [conversationVariable, String.length_append] at hlength
  have : "_convo_template".length = 15 := by decide
  omega

theorem clear_items (d : Definition) : ∀ i ∈ d.items, i.Clear := by
  have adding : ∀ name, Simple.Clear (.perform
      (.call (.word (conversationVariable d.template)) (some "addScreen") [.word name])) :=
    fun _ => ⟨rfl, _, rfl, conversationVariable_not_mem_keywords d.template⟩
  have registering : Simple.Clear (.perform (.call (.word "addConversationTemplate") none
      [.text (conversationVariable d.template), .word (conversationVariable d.template)])) :=
    ⟨rfl, _, rfl, by decide⟩
  intro i hi
  simp only [Definition.items, Definition.registrationItems, Block.items, List.mem_cons,
    List.mem_append, List.mem_flatMap, List.not_mem_nil, or_false] at hi
  rcases hi with rfl | ⟨b, -, rfl | rfl | rfl⟩ | rfl | rfl
  · trivial
  · trivial
  · exact adding b.name
  · trivial
  · exact registering
  · trivial

/-- A definition script is read as its items. -/
theorem readScript_render {d : Definition} (h : d.Worded) : readScript d.render = some d.items := by
  rw [readScript, lex_eq d.render (lexesLines_lines h), Option.bind_some]
  exact readItems_tokens (clear_items d)

/-! ## What a reader takes from it -/

/-- A screen as a reader finds it. -/
structure ScreenReading where
  /-- The name. -/
  name : String
  /-- The text is shown by a reference. -/
  keyed : Bool
  /-- The reference or the text that is shown. -/
  shown : String
  /-- The conversation stops here. -/
  terminal : Bool
  /-- For each response the text that is shown and the name of the screen that follows. -/
  responses : List (String × String)
  deriving DecidableEq, Repr

/-- A conversation as a reader finds it. -/
structure Reading where
  /-- The name of the template. -/
  template : String
  /-- The name of the screen on which the conversation starts. -/
  entry : String
  /-- The screens in order. -/
  screens : List ScreenReading
  deriving DecidableEq, Repr

/-- The value of the field `key`. -/
def fieldValue (key : String) : List Field → Option Expr
  | [] => none
  | .mk k e :: rest => if k = some key then some e else fieldValue key rest

/-- The text in the field `key`. -/
def fieldText (key : String) (fields : List Field) : Option String :=
  match fieldValue key fields with
  | some (.text s) => some s
  | _ => none

/-- A truth value, as scripts spell it. -/
def readFlag (s : String) : Option Bool :=
  if s = "true" then some true else if s = "false" then some false else none

/-- Reads a response. -/
def readResponse : Field → Option (String × String)
  | .mk none (.table [.mk none (.text shown), .mk none (.text target)]) => some (shown, target)
  | _ => none

/-- Reads what a screen shows, and whether by a reference. -/
def readSpeech (fields : List Field) : Option (Bool × String) :=
  match fieldText "leftDialog" fields, fieldText "customDialogText" fields with
  | some key, none => some (true, key)
  | none, some text => some (false, text)
  | _, _ => none

/-- Reads the table of a screen. -/
def readScreen (fields : List Field) : Option ScreenReading := do
  let name ← fieldText "id" fields
  let (keyed, shown) ← readSpeech fields
  let terminal ← (fieldText "stopConversation" fields).bind readFlag
  match fieldValue "options" fields with
  | some (.table responses) =>
    return { name, keyed, shown, terminal, responses := ← responses.mapM readResponse }
  | _ => none

/-- Reads the screens that are added to the variable `holder`, up to its registration. -/
def readScreens (holder : String) : List Item → Option (List ScreenReading)
  | .simple (.assign x (.make (.word object) method fields)) ::
      .simple (.perform (.call (.word receiver) (some message) [.word y])) ::
      .simple .skip :: rest => do
    let screen ← readScreen fields
    let screens ← readScreens holder rest
    if object = "ConvoScreen" ∧ method = "new" ∧ x = screen.name ∧
        receiver = holder ∧ message = "addScreen" ∧ y = screen.name then
      some (screen :: screens)
    else none
  | [.simple (.perform (.call (.word function) none [.text name, .word x])), .simple .skip] =>
    if function = "addConversationTemplate" ∧ name = holder ∧ x = holder then some [] else none
  | _ => none

/-- Reads the conversation that the variable `holder` has after the first of the items. -/
def readConversation (holder object method : String) (fields : List Field) (rest : List Item) :
    Option Reading := do
  let template ← holder.toList.dropSuffix? "_convo_template".toList
  let entry ← fieldText "initialScreen" fields
  let screens ← readScreens holder rest
  if object = "ConvoTemplate" ∧ method = "new" then
    some { template := String.ofList template, entry, screens }
  else none

/-- Reads a definition script. -/
def readDefinition (source : String) : Option Reading :=
  match readScript source with
  | some (.simple (.assign holder (.make (.word object) method fields)) :: rest) =>
    readConversation holder object method fields rest
  | _ => none

/-- The text is shown by a reference. -/
def Speech.keyed : Speech → Bool
  | .reference .. => true
  | .literal _ => false

/-- The screen as a reader finds it. -/
def Block.reading (b : Block) : ScreenReading where
  name := b.name
  keyed := b.speech.keyed
  shown := b.speech.shown
  terminal := b.terminal
  responses := b.responses.map fun r => (r.shown, r.target)

/-- The conversation as a reader finds it. -/
def Definition.reading (d : Definition) : Reading where
  template := d.template
  entry := d.entry
  screens := d.blocks.map Block.reading

theorem readFlag_bool (b : Bool) : readFlag (if b then "true" else "false") = some b := by
  cases b <;> rfl

theorem mapM_readResponse (rs : List Response) :
    (rs.map Response.field).mapM readResponse = some (rs.map fun r => (r.shown, r.target)) := by
  induction rs with
  | nil => rfl
  | cons r rs ih => simp [Response.field, readResponse, ih]

theorem readScreen_fields (b : Block) : readScreen b.fields = some b.reading := by
  have options : fieldValue "options" b.fields =
      some (.table (b.responses.map Response.field)) := by
    cases hs : b.speech <;> simp [Block.fields, Speech.field, fieldValue, hs]
  have stop : fieldText "stopConversation" b.fields =
      some (if b.terminal then "true" else "false") := by
    cases hs : b.speech <;> simp [Block.fields, Speech.field, fieldText, fieldValue, hs]
  have speech : readSpeech b.fields = some (b.speech.keyed, b.speech.shown) := by
    cases hs : b.speech <;>
      simp [Block.fields, Speech.field, Speech.shown, Speech.keyed, readSpeech, fieldText,
        fieldValue, hs]
  have name : fieldText "id" b.fields = some b.name := rfl
  simp only [readScreen, name, speech, stop, options, Option.bind_eq_bind, Option.bind_some,
    readFlag_bool, mapM_readResponse]
  rfl

/-- One screen after the other is found, and nothing else. -/
theorem readScreens_items (d : Definition) (bs : List Block) :
    readScreens (conversationVariable d.template)
        (bs.flatMap (·.items d.template) ++ d.registrationItems) =
      some (bs.map Block.reading) := by
  induction bs with
  | nil => exact if_pos ⟨rfl, rfl, rfl⟩
  | cons b bs ih =>
    rw [List.flatMap_cons, List.append_assoc, Block.items, List.cons_append, List.cons_append,
      List.cons_append, List.nil_append, readScreens, readScreen_fields, ih]
    exact if_pos ⟨rfl, rfl, rfl, rfl, rfl, rfl⟩

/-- **A definition script says what the reader takes from it.** -/
theorem readDefinition_render {d : Definition} (h : d.Worded) :
    readDefinition d.render = some d.reading := by
  have template : (conversationVariable d.template).toList.dropSuffix? "_convo_template".toList =
      some d.template.toList := by
    rw [List.dropSuffix?_eq_some_iff]
    exact ⟨_, String.toList_append, BEq.rfl⟩
  have entry : fieldText "initialScreen" d.headFields = some d.entry := rfl
  rw [readDefinition, readScript_render h, Definition.items]
  simp only [readConversation, template, entry, readScreens_items, Option.bind_eq_bind,
    Option.bind_some, String.ofList_toList]
  exact if_pos ⟨trivial, trivial⟩

end Script

/-! ## Templates -/

/-- The text that a line shows: its reference if texts are localized and it has one. -/
def Line.shownIn (localized : Bool) (l : Line) : String :=
  if localized then l.key.getD l.text else l.text

namespace Template

open Script

/-- A screen as a reader of the definition script is meant to find it. -/
def screenReading (t : Template) (s : Screen) : ScreenReading where
  name := s.name
  keyed := t.localized && s.key.isSome
  shown := s.toLine.shownIn t.localized
  terminal := s.terminal
  responses := s.choices.map fun c =>
    (c.toLine.shownIn t.localized, ((t.resolve c).map (·.name)).getD "")

/-- A template as a reader of the definition script is meant to find it. -/
def reading (t : Template) : Reading where
  template := t.name
  entry := t.entryScreen.name
  screens := t.screens.map t.screenReading

theorem shown_speechOf (localized : Bool) (l : Line) :
    (speechOf localized l).shown = l.shownIn localized := by
  cases hk : l.key <;> cases localized <;> simp [speechOf, Line.shownIn, Speech.shown, hk]

theorem keyed_speechOf (localized : Bool) (l : Line) :
    (speechOf localized l).keyed = (localized && l.key.isSome) := by
  cases hk : l.key <;> cases localized <;> simp [speechOf, Speech.keyed, hk]

theorem reading_blockOf (t : Template) (s : Screen) : (blockOf t s).reading = t.screenReading s := by
  simp only [Block.reading, blockOf, screenReading, shown_speechOf, keyed_speechOf, List.map_map,
    Function.comp_def, responseOf, targetName]

theorem reading_definition (t : Template) : t.definition.reading = t.reading := by
  simp only [Definition.reading, Template.definition, reading, List.map_map, Function.comp_def,
    reading_blockOf]

/-- **Reading a definition script back undoes emitting it.** -/
theorem readDefinition_definitionScript (t : Template)
    (hname : isWordText t.name = true) (hscreens : ∀ s ∈ t.screens, isWordText s.name = true) :
    readDefinition t.definitionScript = some t.reading := by
  have worded : t.definition.Worded := by
    refine ⟨⟨ne_empty_of_isBlank_eq_false t.wellFormed.name_not_blank, hname⟩, ?_⟩
    intro b hb
    obtain ⟨s, hs, rfl⟩ := List.mem_map.mp hb
    exact ⟨ne_empty_of_isBlank_eq_false (t.wellFormed.screen_name_not_blank s hs), hscreens s hs⟩
  rw [Template.definitionScript, readDefinition_render worded, reading_definition]

/-- A conversation whose texts look like Lua. -/
def trapdoor : Template :=
  .ofDraft
    { name := "trap_1"
      localized := true
      initialScreen := some ⟨2⟩
      screens :=
        [{ id := ⟨1⟩, name := "end", text := "]] --[[ \x7d,\r\nleftDialog = \"x\"", key := some "k\\\""
           choices :=
            [{ text := "a\", \"b\"\x7d, \x7b\"c", target := some ⟨2⟩ },
              { text := "gone\n", key := some "--", target := some ⟨9⟩ }] },
          { id := ⟨2⟩, name := "2", text := "\\\"\n\x7d", terminal := true }] }
    (by decide)

theorem readDefinition_trapdoor :
    readDefinition trapdoor.definitionScript =
      some
        { template := "trap_1"
          entry := "2"
          screens :=
            [{ name := "end", keyed := true, shown := "k\\\"", terminal := false
               responses := [("a\", \"b\"\x7d, \x7b\"c", "2"), ("--", "")] },
              { name := "2", keyed := false, shown := "\\\"\n\x7d", terminal := true
                responses := [] }] } :=
  readDefinition_definitionScript trapdoor (by decide) (by decide)

end Template

end Dialogue
