import Dialogue.Proofs.LineFrame
import Dialogue.Proofs.ScriptComments

/-!
# What a definition script depends on

The definition script of a literal template shows texts, and the one of a localized template shows
references. Of two literal templates that differ in their references and their prefix, both have the
same script. Of two localized templates that differ in their texts, both have the same script but
for comments: a reader that cuts the script into lines, whether at carriage returns or not, and
leaves the comments out cannot tell them apart, whatever is in the texts and in the references.

* `Definition.silent`: the definition without the texts of its comments.
* `codeLines`: the lines of a script without their comments.

Results:
* `Definition.codeLines_silent`: no text of a comment shows in the code.
* `Template.definition_mute`: a localized template shows its texts in comments alone.
* **`Template.definitionScript_dependence`**: what the script of a literal template depends on, and
  that of a localized one.
-/

namespace Dialogue

open Lua Text

namespace Script

/-! ## Definitions without the texts of comments -/

/-- What a screen shows, without the text of the comment. -/
def Speech.silent : Speech → Speech
  | .reference key _ => .reference key ""
  | .literal text => .literal text

/-- The response without the text of the comment. -/
def Response.silent (r : Response) : Response := { r with comment := r.comment.map fun _ => "" }

/-- The screen without the texts of its comments. -/
def Block.silent (b : Block) : Block :=
  { b with speech := b.speech.silent, responses := b.responses.map Response.silent }

/-- The definition without the texts of its comments. -/
def Definition.silent (d : Definition) : Definition :=
  { d with blocks := d.blocks.map Block.silent }

/-! ## Code -/

section

variable (breaks : Char → Bool)

/-- The lines of texts that stand below each other, without their comments. -/
def codeLines (texts : List String) : List String := (texts.flatMap (linesBy breaks)).map codeOf

theorem codeLines_append (before after : List String) :
    codeLines breaks (before ++ after) = codeLines breaks before ++ codeLines breaks after := by
  rw [codeLines, List.flatMap_append, List.map_append]
  rfl

theorem codeLines_flatMap {α : Type} (f : α → List String) (as : List α) :
    codeLines breaks (as.flatMap f) = as.flatMap fun a => codeLines breaks (f a) := by
  rw [codeLines, List.flatMap_assoc, List.map_flatMap]
  rfl

/-- The lines of a script without their comments are those of its parts. -/
theorem map_codeOf_linesBy_unlines (h : breaks '\n' = true) (texts : List String) :
    (linesBy breaks (unlines texts)).map codeOf = codeLines breaks texts ++ [""] := by
  rw [linesBy_unlines h, List.map_append]
  rfl

end

section

variable {breaks : Char → Bool} (breaks_line : ∀ c, breaks c = true → isLineBreak c = true)
include breaks_line

theorem codeLines_of_unbroken {text : String} (h : Unbroken isLineBreak text) :
    codeLines breaks [text] = [codeOf text] := by
  rw [codeLines, List.flatMap_singleton, linesBy_eq_singleton (h.mono breaks_line),
    List.map_singleton]

theorem Speech.codeLines_silent (s : Speech) :
    codeLines breaks [s.silent.line] = codeLines breaks [s.line] := by
  cases s with
  | literal text => rfl
  | reference key text =>
    rw [silent, codeLines_of_unbroken breaks_line (unbroken_line _), codeOf_line,
      codeLines_of_unbroken breaks_line (unbroken_line _), codeOf_line]

theorem Response.codeLines_silent (isLast : Bool) (r : Response) :
    codeLines breaks [r.silent.line isLast] = codeLines breaks [r.line isLast] := by
  cases h : r.comment with
  | none =>
    have same : r.silent = r := by
      unfold silent
      rw [h, Option.map_none, ← h]
    rw [same]
  | some text =>
    have silenced : r.silent.comment = some "" := congrArg (Option.map fun _ => "") h
    rw [codeLines_of_unbroken breaks_line unbroken_line, codeOf_line silenced,
      codeLines_of_unbroken breaks_line unbroken_line, codeOf_line h]
    rfl

theorem codeLines_responseLines : ∀ rs : List Response,
    codeLines breaks (responseLines (rs.map Response.silent)) = codeLines breaks (responseLines rs)
  | [] => rfl
  | [r] => r.codeLines_silent breaks_line true
  | r :: next :: rest => by
    have lines : ∀ r next : Response, ∀ rest, responseLines (r :: next :: rest) =
        [r.line false] ++ responseLines (next :: rest) := fun _ _ _ => rfl
    have later := codeLines_responseLines (next :: rest)
    rw [List.map_cons, List.map_cons, lines, lines, codeLines_append, codeLines_append,
      r.codeLines_silent breaks_line false, ← List.map_cons, later]

theorem Block.codeLines_silent (template : String) (b : Block) :
    codeLines breaks (b.silent.lines template) = codeLines breaks (b.lines template) := by
  have parts : ∀ b : Block, b.lines template =
      [b.name ++ " = ConvoScreen:new \x7b", "    id = " ++ Lua.quoted b.name ++ ","] ++
        ([b.speech.line] ++
          (["    stopConversation = \"" ++ (if b.terminal then "true" else "false") ++ "\",",
            "    options = \x7b"] ++
            (responseLines b.responses ++ ["    \x7d", "\x7d",
              template ++ "_convo_template:addScreen(" ++ b.name ++ ");", ""]))) := by
    intro b
    unfold Block.lines
    rw [List.append_assoc]
    rfl
  simp only [parts, codeLines_append]
  rw [silent, b.speech.codeLines_silent breaks_line,
    codeLines_responseLines breaks_line b.responses]

/-- **No text of a comment shows in the code of a definition script.** -/
theorem Definition.codeLines_silent (d : Definition) :
    codeLines breaks d.silent.lines = codeLines breaks d.lines := by
  have blocks : codeLines breaks (d.silent.blocks.flatMap (·.lines d.template)) =
      codeLines breaks (d.blocks.flatMap (·.lines d.template)) := by
    rw [codeLines_flatMap, codeLines_flatMap, silent, List.flatMap_map]
    simp only [Block.codeLines_silent breaks_line]
  have head : d.silent.headLines = d.headLines := rfl
  have registration : d.silent.registration = d.registration := rfl
  have template : d.silent.template = d.template := rfl
  unfold Definition.lines
  simp only [codeLines_append, head, registration, template, blocks]

end

end Script

open Script

namespace Template

variable {t u : Template}

/-- A line that is shown by reference has its text in the comment alone. -/
theorem speechOf_mute {l : Line} (keyed : ∃ key, l.key = some key) :
    speechOf true l.mute = (speechOf true l).silent := by
  obtain ⟨key, hkey⟩ := keyed
  have same : l.mute.key = some key := hkey
  rw [speechOf, speechOf, same, hkey]
  rfl

theorem responseOf_mute (localized : t.localized = true) {c : Choice}
    (keyed : ∃ key, c.key = some key) :
    responseOf t.mute (c.mapLine Line.mute) = (responseOf t c).silent := by
  have target : targetName t.mute (c.mapLine Line.mute) = targetName t c :=
    targetName_mapLines Line.mute t c
  have mode : t.mute.localized = true := localized
  have shown : (speechOf true c.toLine.mute).shown = (speechOf true c.toLine).shown := by
    rw [speechOf_mute keyed]
    cases speechOf true c.toLine <;> rfl
  unfold responseOf
  rw [target, mode, localized]
  exact congrArg (fun shown => (⟨shown, _, some ""⟩ : Response)) shown

theorem blockOf_mute (localized : t.localized = true) {s : Screen}
    (keyed : ∀ l ∈ s.lines, ∃ key, l.key = some key) :
    blockOf t.mute (s.mapLines Line.mute) = (blockOf t s).silent := by
  have mode : t.mute.localized = true := localized
  have speech : speechOf true s.toLine.mute = (speechOf true s.toLine).silent :=
    speechOf_mute (keyed s.toLine List.mem_cons_self)
  have responses : (s.choices.map (·.mapLine Line.mute)).map (responseOf t.mute) =
      (s.choices.map (responseOf t)).map Response.silent := by
    rw [List.map_map, List.map_map]
    refine List.map_congr_left fun c hc => responseOf_mute localized ?_
    exact keyed c.toLine (List.mem_cons_of_mem _ (List.mem_map_of_mem hc))
  unfold blockOf Block.silent
  rw [mode, localized, Block.mk.injEq]
  exact ⟨rfl, speech, rfl, responses⟩

/-- A localized template in which all texts have references shows its texts in comments alone. -/
theorem definition_mute (localized : t.localized = true)
    (keyed : ∀ l ∈ t.lines, ∃ key, l.key = some key) :
    t.mute.definition = t.definition.silent :=
  definition_mapLines fun _ hs =>
    blockOf_mute localized fun l hl => keyed l (Draft.mem_lines hs hl)

/-- The code of the script is that of the script without any text. -/
theorem code_definitionScript {breaks : Char → Bool} (breaks_newline : breaks '\n' = true)
    (breaks_line : ∀ c, breaks c = true → isLineBreak c = true) (localized : t.localized = true)
    (keyed : ∀ l ∈ t.lines, ∃ key, l.key = some key) :
    (linesBy breaks t.definitionScript).map codeOf =
      (linesBy breaks t.mute.definitionScript).map codeOf := by
  unfold definitionScript Definition.render
  rw [map_codeOf_linesBy_unlines breaks breaks_newline, definition_mute localized keyed,
    map_codeOf_linesBy_unlines breaks breaks_newline, Definition.codeLines_silent breaks_line]

/-- **What the definition script depends on.** Literal templates that agree on everything but
references and prefix have the same script. Localized templates in which all texts have references,
and which agree on everything but texts, have scripts of as many lines, and these are the same line
by line without their comments, whether lines break at newlines alone or at carriage returns too. -/
theorem definitionScript_dependence (t u : Template) :
    (t.localized = false → u.localized = false →
      u.plain.toArena.withKeyPrefix t.keyPrefix = t.plain.toArena →
      u.definitionScript = t.definitionScript) ∧
    (t.localized = true → u.localized = true →
      (∀ l ∈ t.lines, ∃ key, l.key = some key) → (∀ l ∈ u.lines, ∃ key, l.key = some key) →
      u.mute = t.mute →
      ∀ breaks : Char → Bool, breaks '\n' = true →
        (∀ c, breaks c = true → isLineBreak c = true) →
        (linesBy breaks u.definitionScript).length = (linesBy breaks t.definitionScript).length ∧
          (linesBy breaks u.definitionScript).map codeOf =
            (linesBy breaks t.definitionScript).map codeOf) := by
  refine ⟨definitionScript_eq_of_plain, ?_⟩
  intro ht hu keyed keyed' same breaks breaks_newline breaks_line
  have code : (linesBy breaks u.definitionScript).map codeOf =
      (linesBy breaks t.definitionScript).map codeOf := by
    rw [code_definitionScript breaks_newline breaks_line hu keyed', same,
      ← code_definitionScript breaks_newline breaks_line ht keyed]
  refine ⟨?_, code⟩
  simpa only [List.length_map] using congrArg List.length code

/-- A quay that shows a text of its own, although it has a reference. -/
def quay : Template :=
  .ofDraft
    { name := "quay"
      screens :=
        [{ id := ⟨1⟩, name := "ship", text := "It has -- \"sailed\".", key := some "@old:s_1" }] }
    (by decide)

/-- The quay without its reference, and with another prefix. -/
def movedQuay : Template :=
  ⟨quay.plain.toArena.withKeyPrefix "@new/", quay.plain.sound.withKeyPrefix "@new/"⟩

/-- A cave whose references hold what ends literals and begins comments. -/
def cave : Template :=
  .ofDraft
    { name := "cave"
      localized := true
      screens :=
        [{ id := ⟨1⟩, name := "mouth", text := "Who is there?", key := some "@sea\"--\\:s_1"
           choices := [{ text := "", key := some "it's -- \\" }] }] }
    (by decide)

/-- The cave with other texts. -/
def stormyCave : Template := cave.mapLines fun l => { l with text := "\"\r\n-- " ++ l.text }

/-- Neither the reference of the quay nor the texts of the cave show in what is read. -/
theorem definitionScript_dependence_cave :
    quay.keyPrefix ≠ movedQuay.keyPrefix ∧ quay.lines ≠ movedQuay.lines ∧
      movedQuay.definitionScript = quay.definitionScript ∧
      stormyCave.lines.map (·.text) = ["\"\r\n-- Who is there?", "\"\r\n-- "] ∧
      (linesBy isLineBreak stormyCave.definitionScript).map codeOf =
        (linesBy isLineBreak cave.definitionScript).map codeOf := by
  have keyed : ∀ l ∈ cave.lines, l.key.isSome = true := by decide
  have keyed' : ∀ l ∈ stormyCave.lines, l.key.isSome = true := by decide
  obtain ⟨literal, -⟩ := definitionScript_dependence quay movedQuay
  obtain ⟨-, localized⟩ := definitionScript_dependence cave stormyCave
  have code := localized rfl rfl (fun l hl => Option.isSome_iff_exists.mp (keyed l hl))
    (fun l hl => Option.isSome_iff_exists.mp (keyed' l hl)) rfl isLineBreak rfl fun _ h => h
  exact ⟨by decide, by decide, literal rfl rfl rfl, by rfl, code.2⟩

end Template

end Dialogue
