import Dialogue.Proofs.DefinitionReading
import Dialogue.Proofs.ScriptComments

/-!
# The lines of a definition script

Whoever goes through the lines of a definition script finds the lines for each screen together, and
the responses of a screen from its sixth line up to a closing brace. Only names are written as they
are: if none of them breaks lines, the text alone tells its lines apart, and those of the screens
are its paragraphs.

* `Template.screenLines`: the lines for each screen.
* `Template.NamesUnbroken`: no name breaks lines.
* `AddsScreen`: a text has the lines that register a screen.

Results:
* `Template.definitionScript_eq`: the text is a head, the lines for each screen, and the
  registration.
* `takeWhile_responseLines`, `mapM_responseLines`: the lines for responses are found and read.
* **`Template.addsScreen_definitionScript`**: each screen is registered.
* **`Template.linesBy_definitionScript`**, **`Template.paragraphs_definitionScript`**: what lines
  and paragraphs the text has, if no name breaks lines.
-/

namespace Dialogue

open Lua Text

namespace Script

theorem lex_of_lexesLine {line : String} {ts : List Token} (h : LexesLine line ts) :
    lex (line ++ "\n") = some ts := by
  refine lex_eq _ ?_
  rw [String.toList_append]
  exact h

/-! ## The lines for responses -/

theorem mem_responseLines {line : String} : ∀ {rs : List Response}, line ∈ responseLines rs →
    ∃ isLast, ∃ r ∈ rs, line = r.line isLast
  | [], h => absurd h List.not_mem_nil
  | [r], h => ⟨true, r, List.mem_cons_self, List.mem_singleton.mp h⟩
  | r :: next :: rest, h => by
    rcases List.mem_cons.mp h with rfl | h
    · exact ⟨false, r, List.mem_cons_self, rfl⟩
    · obtain ⟨isLast, s, hs, rfl⟩ := mem_responseLines h
      exact ⟨isLast, s, List.mem_cons_of_mem r hs, rfl⟩

/-- The line for a response begins with more blanks than the brace behind all of them. -/
theorem getElem?_line (isLast : Bool) (r : Response) : (r.line isLast).toList[4]? = some ' ' := by
  unfold Response.line
  simp only [String.toList_append, String.reduceToList, List.cons_append]
  rfl

theorem line_ne_of_getElem? {isLast : Bool} {r : Response} {line : String}
    (h : line.toList[4]? ≠ some ' ') : r.line isLast ≠ line := by
  rintro rfl
  exact h (getElem?_line isLast r)

/-- The lines for responses go up to the closing brace. -/
theorem takeWhile_responseLines (rs : List Response) (rest : List String) :
    (responseLines rs ++ "    \x7d" :: rest).takeWhile (· != "    \x7d") = responseLines rs := by
  have responses : ∀ line ∈ responseLines rs, (line != "    \x7d") = true := by
    intro line hl
    obtain ⟨isLast, r, -, rfl⟩ := mem_responseLines hl
    exact bne_iff_ne.mpr (line_ne_of_getElem? (by decide +kernel))
  rw [List.takeWhile_append_of_pos responses, List.takeWhile_cons_of_neg (by decide +kernel),
    List.append_nil]

/-- What can be read on the line for any response is read on those for several, one by one. -/
theorem mapM_responseLines {α : Type} {read : String → Option α} {f : Response → α}
    (h : ∀ isLast r, read (r.line isLast) = some (f r)) : ∀ rs : List Response,
    (responseLines rs).mapM read = some (rs.map f)
  | [] => rfl
  | [r] => by
    rw [responseLines, List.mapM_cons, h]
    rfl
  | r :: next :: rest => by
    have lines : responseLines (r :: next :: rest) = r.line false :: responseLines (next :: rest) :=
      rfl
    rw [lines, List.mapM_cons, h, mapM_responseLines h]
    rfl

/-! ## Lines that are not broken -/

section

variable {breaks : Char → Bool} (breaks_line : ∀ c, breaks c = true → isLineBreak c = true)
include breaks_line

theorem Block.unbroken_lines {b : Block} {template : String} (ht : Unbroken breaks template)
    (hb : Unbroken breaks b.name) : ∀ line ∈ b.lines template, Unbroken breaks line := by
  have fixed {text : String} (h : Unbroken isLineBreak text) := h.mono breaks_line
  intro line hl
  simp only [Block.lines, List.cons_append, List.nil_append, List.mem_cons, List.mem_append,
    List.not_mem_nil, or_false] at hl
  rcases hl with rfl | rfl | rfl | rfl | rfl | hl | rfl | rfl | rfl | rfl
  · exact hb.append (fixed (by decide))
  · exact fixed (unbroken_field (by decide) b.name)
  · exact fixed b.speech.unbroken_line
  · refine fixed ?_
    cases b.terminal <;> decide
  · exact fixed (by decide)
  · obtain ⟨isLast, r, -, rfl⟩ := mem_responseLines hl
    exact fixed Response.unbroken_line
  · exact fixed (by decide)
  · exact fixed (by decide)
  · exact ((ht.append (fixed (by decide))).append hb).append (fixed (by decide))
  · exact fixed (by decide)

theorem Definition.unbroken_headLines {d : Definition} (hd : Unbroken breaks d.template) :
    ∀ line ∈ d.headLines, Unbroken breaks line := by
  have fixed {text : String} (h : Unbroken isLineBreak text) := h.mono breaks_line
  intro line hl
  simp only [Definition.headLines, List.mem_cons, List.not_mem_nil, or_false] at hl
  rcases hl with rfl | rfl | rfl | rfl | rfl | rfl | rfl
  · exact hd.append (fixed (by decide))
  · exact fixed (unbroken_field (by decide) d.entry)
  · exact fixed (by decide)
  · exact fixed (unbroken_field (by decide) (d.template ++ "_convo_handler"))
  · exact fixed (by decide)
  · exact fixed (by decide)
  · exact fixed (by decide)

theorem Definition.unbroken_registration {d : Definition} (hd : Unbroken breaks d.template) :
    Unbroken breaks d.registration := by
  have fixed {text : String} (h : Unbroken isLineBreak text) := h.mono breaks_line
  have called : Unbroken breaks ("addConversationTemplate(" ++
      Lua.quoted (d.template ++ "_convo_template") ++ ", ") :=
    ((fixed (by decide)).append (fixed (unbroken_quoted _))).append (fixed (by decide))
  exact (called.append hd).append (fixed (by decide))

end

/-! ## Empty lines -/

theorem Speech.line_ne_empty (s : Speech) : s.line ≠ "" := by
  intro h
  cases s with
  | reference key text =>
    obtain ⟨code, -⟩ := String.append_eq_empty_iff.mp h
    exact absurd (String.append_eq_empty_iff.mp code).2 (by decide)
  | literal text => exact absurd (String.append_eq_empty_iff.mp h).2 (by decide)

theorem empty_not_mem_responseLines (rs : List Response) : "" ∉ responseLines rs := by
  intro h
  obtain ⟨isLast, r, -, h⟩ := mem_responseLines h
  exact line_ne_of_getElem? (by decide) h.symm

/-- The last of the lines for a screen is empty. -/
theorem Block.dropLast_lines (template : String) (b : Block) :
    (b.lines template).dropLast ++ [""] = b.lines template := by
  unfold Block.lines
  rw [List.dropLast_append_of_ne_nil (List.cons_ne_nil _ _), List.append_assoc]
  rfl

/-- The others are not. -/
theorem Block.empty_not_mem_dropLast (template : String) (b : Block) :
    "" ∉ (b.lines template).dropLast := by
  have speech := b.speech.line_ne_empty.symm
  have responses := empty_not_mem_responseLines b.responses
  unfold Block.lines
  rw [List.dropLast_append_of_ne_nil (List.cons_ne_nil _ _)]
  simp [speech, responses]

theorem Definition.empty_not_mem_dropLast (d : Definition) : "" ∉ d.headLines.dropLast := by
  simp [Definition.headLines]

theorem Definition.registration_ne_empty (d : Definition) : d.registration ≠ "" := fun h =>
  absurd (String.append_eq_empty_iff.mp h).2 (by decide)

/-! ## Registered screens -/

/-- The text has the lines that give a screen its identifier, among those of its table, and the line
that adds the screen to the conversation of the template. -/
def AddsScreen (template name text : String) : Prop :=
  ∃ (before : List String) (dialog stop : String) (options after : List String),
    text = unlines (before ++
      ([name ++ " = ConvoScreen:new \x7b",
          "    id = " ++ Lua.quoted name ++ ",",
          dialog,
          stop,
          "    options = \x7b"] ++
        options ++
        ["    \x7d",
          "\x7d",
          template ++ "_convo_template:addScreen(" ++ name ++ ");",
          ""]) ++
      after)

end Script

open Script

namespace Template

variable {t : Template} {s : Screen}

/-- The lines of the definition script for each screen. -/
def screenLines (t : Template) : List (List String) :=
  t.screens.map fun s => (blockOf t s).lines t.name

theorem definitionScript_eq (t : Template) :
    t.definitionScript = unlines
      (t.definition.headLines ++ t.screenLines.flatten ++ [t.definition.registration]) := by
  unfold definitionScript Definition.render
  rw [Definition.lines_eq]
  unfold definition screenLines
  rw [List.map_map]
  rfl

/-- **The definition script registers each screen.** -/
theorem addsScreen_definitionScript (hs : s ∈ t.screens) :
    AddsScreen t.name s.name t.definitionScript := by
  let b := blockOf t s
  have hb : b.lines t.name ∈ t.screenLines := List.mem_map_of_mem hs
  obtain ⟨before, after, split⟩ := List.append_of_mem hb
  refine ⟨t.definition.headLines ++ before.flatten, b.speech.line,
    "    stopConversation = \"" ++ (if b.terminal then "true" else "false") ++ "\",",
    responseLines b.responses, after.flatten ++ [t.definition.registration], ?_⟩
  rw [definitionScript_eq, split, List.flatten_append, List.flatten_cons, ← List.append_assoc,
    ← List.append_assoc, List.append_assoc _ after.flatten]
  rfl

/-! ## Lines and paragraphs of the text -/

/-- No name of the template or of its screens has a character that breaks lines. -/
def NamesUnbroken (breaks : Char → Bool) (t : Template) : Prop :=
  Unbroken breaks t.name ∧ ∀ s ∈ t.screens, Unbroken breaks s.name

instance (breaks : Char → Bool) (t : Template) : Decidable (t.NamesUnbroken breaks) :=
  inferInstanceAs (Decidable (_ ∧ _))

/-- **The lines of the text are those that were written**, if no name breaks lines. -/
theorem linesBy_definitionScript {breaks : Char → Bool} (breaks_newline : breaks '\n' = true)
    (breaks_line : ∀ c, breaks c = true → isLineBreak c = true) (names : t.NamesUnbroken breaks) :
    linesBy breaks t.definitionScript =
      t.definition.headLines ++ t.screenLines.flatten ++ [t.definition.registration] ++ [""] := by
  rw [definitionScript_eq]
  refine linesBy_unlines_of_unbroken breaks_newline fun line hl => ?_
  rcases List.mem_append.mp hl with hl | hl
  · rcases List.mem_append.mp hl with hl | hl
    · exact Definition.unbroken_headLines breaks_line names.1 line hl
    · obtain ⟨lines, hlines, hl⟩ := List.mem_flatten.mp hl
      obtain ⟨s, hs, rfl⟩ := List.mem_map.mp hlines
      exact Block.unbroken_lines breaks_line names.1 (names.2 s hs) line hl
  · rw [List.mem_singleton.mp hl]
    exact Definition.unbroken_registration breaks_line names.1

/-- **The paragraphs of the text are its head, the lines for each screen, and the registration**, if
no name breaks lines; nothing stands behind them. -/
theorem paragraphs_definitionScript (names : t.NamesUnbroken (· == '\n')) :
    paragraphs t.definitionScript =
      t.definition.headLines.dropLast :: t.screenLines.map List.dropLast ++
        [[t.definition.registration], []] := by
  have newline : ∀ c : Char, (c == '\n') = true → isLineBreak c = true := by
    intro c hc
    rw [beq_iff_eq.mp hc]
    rfl
  have screens : t.screenLines.flatten = (t.screenLines.map List.dropLast).flatMap (· ++ [""]) := by
    unfold screenLines
    rw [List.map_map, List.flatMap_map, List.flatMap_def]
    simp only [Function.comp_apply, Block.dropLast_lines]
  have parts : t.definition.headLines ++ t.screenLines.flatten ++ [t.definition.registration] ++
        [""] =
      (t.definition.headLines.dropLast :: t.screenLines.map List.dropLast ++
        [[t.definition.registration]]).flatMap (· ++ [""]) := by
    rw [screens, List.flatMap_append, List.flatMap_cons, List.flatMap_singleton, List.append_assoc]
    rfl
  have filled : ∀ part ∈ t.definition.headLines.dropLast :: t.screenLines.map List.dropLast ++
      [[t.definition.registration]], "" ∉ part := by
    intro part hp
    rcases List.mem_append.mp hp with hp | hp
    · rcases List.mem_cons.mp hp with rfl | hp
      · exact t.definition.empty_not_mem_dropLast
      · obtain ⟨s, -, rfl⟩ := List.mem_map.mp (List.map_map ▸ hp)
        exact Block.empty_not_mem_dropLast t.name (blockOf t s)
    · rw [List.mem_singleton.mp hp, List.mem_singleton]
      exact t.definition.registration_ne_empty.symm
  rw [paragraphs, linesBy_definitionScript rfl newline names, parts, splitOn_flatMap filled,
    List.append_assoc]
  rfl

end Template

end Dialogue
