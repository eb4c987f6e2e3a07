import Dialogue.Localization.Rows
import Dialogue.Proofs.LocalizedRows
import Dialogue.Proofs.Reachable
import Dialogue.Proofs.ScriptLines
import Mathlib.Data.List.Forall2

/-!
# What a localized conversation shows

The definition script of a localized conversation shows texts by reference, with the literal text in
a comment on the same line. A string table has rows for the same texts. A reader that goes through
the lines of each screen finds the references and the comments, one after the other, in the order of
the rows.

* `Shown`: a text that is shown, with the comment on its line.
* `Script.readShown?`: what the lines of a screen show.

Results:
* `Script.Block.readShown?_lines`: the lines of a screen with a reference show that reference, then
  the texts of its responses.
* `Script.Block.not_isCustom`: none of them has the form of a line that shows a literal text.
* **`Template.readShown?_of_conversationRows`**: what the script of a template shows agrees with the
  rows that the template contributes, if it contributes any. A name that breaks lines can still put
  a line of that form into the text.
-/

namespace Dialogue

open Lua Text

/-- A text that is shown. -/
structure Shown where
  /-- The text or the reference to it. -/
  shown : String
  /-- The comment on its line. -/
  comment : Option String
  deriving DecidableEq, Repr

namespace Script

/-! ## Reading lines -/

/-- What a line shows that gives the reference for a screen. -/
def readDialog? (line : String) : Option Shown :=
  match lex (line ++ "\n") with
  | some (.word field :: .mark .assign :: .text shown :: _) =>
    if field = "leftDialog" then some ⟨shown, commentOf? line⟩ else none
  | _ => none

/-- What a line shows that gives a response: the first of its two texts. -/
def readOption? (line : String) : Option Shown :=
  match lex (line ++ "\n") with
  | some (.mark .openBrace :: .text shown :: .mark .comma :: .text _ :: .mark .closeBrace :: _) =>
    some ⟨shown, commentOf? line⟩
  | _ => none

/-- What the lines of a screen show: the text of the screen, on the third line, and those of the
responses, from the sixth line up to a closing brace. -/
def readShown? : List String → Option (List Shown)
  | _ :: _ :: dialog :: _ :: _ :: rest => do
    let own ← readDialog? dialog
    let responses ← (rest.takeWhile (· != "    \x7d")).mapM readOption?
    return own :: responses
  | _ => none

theorem readDialog?_line (key text : String) :
    readDialog? (Speech.reference key text).line = some ⟨key, some (commentFor text)⟩ := by
  unfold readDialog?
  rw [lex_of_lexesLine (lexesLine_speech _), Speech.commentOf?_line]
  rfl

/-- What a response shows. -/
def Response.reading (r : Response) : Shown := ⟨r.shown, r.comment.map commentFor⟩

theorem readOption?_line (isLast : Bool) (r : Response) :
    readOption? (r.line isLast) = some r.reading := by
  unfold readOption?
  rw [lex_of_lexesLine (lexesLine_response isLast r), Response.commentOf?_line]
  rfl

/-! ## Screens -/

/-- **The lines of a screen with a reference show that reference, then the texts of its
responses.** -/
theorem Block.readShown?_lines {b : Block} {key text : String} (template : String)
    (h : b.speech = .reference key text) :
    readShown? (b.lines template) =
      some (⟨key, some (commentFor text)⟩ :: b.responses.map Response.reading) := by
  have lines : readShown? (b.lines template) = (do
      let own ← readDialog? b.speech.line
      let responses ← (responseLines b.responses).mapM readOption?
      return own :: responses) := by
    rw [← takeWhile_responseLines b.responses]
    rfl
  rw [lines, h, readDialog?_line, mapM_responseLines readOption?_line]
  rfl

/-! ## Lines that show a literal text -/

/-- A line that has the form of those that show the literal text of a screen: four blanks and a `c`
at its beginning, and a comma at its end. -/
def IsCustom (line : String) : Prop :=
  line.toList[4]? = some 'c' ∧ line.toList.getLast? = some ','

instance (line : String) : Decidable (IsCustom line) :=
  inferInstanceAs (Decidable (line.toList[4]? = some 'c' ∧ line.toList.getLast? = some ','))

theorem isCustom_customDialogText (shown : String) :
    IsCustom ("    customDialogText = " ++ shown ++ ",") := by
  unfold IsCustom
  simp only [String.toList_append, String.reduceToList]
  constructor
  · rfl
  · exact List.getLast?_concat

theorem not_isCustom_of_beginning {beginning : String} (rest : String)
    (h : beginning.toList[4]?.any (· != 'c') = true) : ¬ IsCustom (beginning ++ rest) := by
  rintro ⟨hb, -⟩
  obtain ⟨c, hc, hne⟩ := (Option.any_eq_true _ _).mp h
  have inside : 4 < beginning.toList.length := (List.getElem?_eq_some_iff.mp hc).1
  rw [String.toList_append, List.getElem?_append_left inside, hc] at hb
  cases hb
  exact absurd hne Bool.false_ne_true

theorem not_isCustom_of_ending {ending : String} (rest : String)
    (h : ending.toList.getLast?.any (· != ',') = true) : ¬ IsCustom (rest ++ ending) := by
  rintro ⟨-, he⟩
  obtain ⟨c, hc, hne⟩ := (Option.any_eq_true _ _).mp h
  rw [String.toList_append, List.getLast?_append, hc] at he
  cases he
  exact absurd hne Bool.false_ne_true

/-- A screen with a reference has no such line. -/
theorem Block.not_isCustom {b : Block} {key text line : String} {template : String}
    (h : b.speech = .reference key text) (hl : line ∈ b.lines template) : ¬ IsCustom line := by
  unfold Block.lines Speech.line at hl
  rw [h] at hl
  simp only [List.cons_append, List.nil_append, List.mem_cons, List.mem_append, List.not_mem_nil,
    or_false, String.append_assoc] at hl
  rcases hl with rfl | rfl | rfl | rfl | rfl | hl | rfl | rfl | rfl | rfl
  · exact not_isCustom_of_ending b.name (by decide +kernel)
  · exact not_isCustom_of_beginning _ (by decide +kernel)
  · exact not_isCustom_of_beginning _ (by decide +kernel)
  · exact not_isCustom_of_beginning _ (by decide +kernel)
  · decide +kernel
  · obtain ⟨isLast, r, -, rfl⟩ := mem_responseLines hl
    rintro ⟨hc, -⟩
    rw [getElem?_line] at hc
    cases hc
  · decide +kernel
  · decide +kernel
  · rw [← String.append_assoc, ← String.append_assoc]
    exact not_isCustom_of_ending _ (by decide +kernel)
  · decide +kernel

theorem Definition.not_isCustom_headLines {d : Definition} {line : String} (h : line ∈ d.headLines) :
    ¬ IsCustom line := by
  unfold Definition.headLines at h
  simp only [List.mem_cons, List.not_mem_nil, or_false, String.append_assoc] at h
  rcases h with rfl | rfl | rfl | rfl | rfl | rfl | rfl
  · exact not_isCustom_of_ending d.template (by decide +kernel)
  · exact not_isCustom_of_beginning _ (by decide +kernel)
  · decide +kernel
  · exact not_isCustom_of_beginning _ (by decide +kernel)
  · decide +kernel
  · decide +kernel
  · decide +kernel

theorem Definition.not_isCustom_registration (d : Definition) : ¬ IsCustom d.registration := by
  unfold Definition.registration
  simp only [String.append_assoc]
  exact not_isCustom_of_beginning _ (by decide +kernel)

end Script

/-! ## Templates -/

open Script

/-- What the script of a localized conversation shows for a line with a reference. -/
def Line.reading (l : Line) : Shown := ⟨l.key.getD "", some (commentFor l.text)⟩

theorem Line.exists_key_of_row? {l : Line} {row : Row} (h : l.row? = some row) :
    ∃ key, l.key = some key ∧ (KeyReference.parse? key).map (·.key) = some row.key ∧
      l.text = row.value := by
  obtain ⟨id, hid, rfl⟩ := Option.map_eq_some_iff.mp h
  obtain ⟨r, hr, rfl⟩ := Option.map_eq_some_iff.mp hid
  obtain ⟨key, hkey, hr⟩ := Option.bind_eq_some_iff.mp hr
  exact ⟨key, hkey, by rw [hr, Option.map_some], rfl⟩

namespace Template

variable {t : Template} {rows : List Row}

theorem localized_of_conversationRows (h : t.conversationRows = .ok rows) : t.localized = true := by
  unfold conversationRows at h
  split at h
  · assumption
  · cases h

/-- Row by row, the lines of a template that contributes rows. -/
theorem forall₂_of_conversationRows (h : t.conversationRows = .ok rows) :
    List.Forall₂ (fun (l : Line) row => l.row? = some row) t.lines rows := by
  have eq := (conversationRows_eq_ok_iff (localized_of_conversationRows h)).mp h
  have same : List.Forall₂ (· = ·) (t.lines.map Line.row?) (rows.map some) :=
    eq ▸ List.forall₂_same.mpr fun _ _ => rfl
  exact List.forall₂_map_right_iff.mp (List.forall₂_map_left_iff.mp same)

/-- Each line of a template that contributes rows has a reference. -/
theorem exists_key_of_conversationRows (h : t.conversationRows = .ok rows) :
    ∀ l ∈ t.lines, ∃ key, l.key = some key := by
  intro l hl
  have eq := (conversationRows_eq_ok_iff (localized_of_conversationRows h)).mp h
  have hmem : l.row? ∈ rows.map some := eq ▸ List.mem_map_of_mem hl
  obtain ⟨row, -, hrow⟩ := List.mem_map.mp hmem
  obtain ⟨key, hkey, -⟩ := Line.exists_key_of_row? hrow.symm
  exact ⟨key, hkey⟩

/-- The lines of a screen show the texts of that screen, if all of them have references. -/
theorem readShown?_blockOf {s : Screen} (localized : t.localized = true)
    (keyed : ∀ l ∈ s.lines, ∃ key, l.key = some key) :
    (∃ key text, (blockOf t s).speech = .reference key text) ∧
      readShown? ((blockOf t s).lines t.name) = some (s.lines.map Line.reading) := by
  obtain ⟨key, hkey⟩ := keyed s.toLine List.mem_cons_self
  have speech : (blockOf t s).speech = .reference key s.text := by
    unfold blockOf speechOf
    rw [hkey, localized]
    rfl
  have responses : (s.choices.map (responseOf t)).map Response.reading =
      s.choices.map fun c => c.toLine.reading := by
    rw [List.map_map]
    refine List.map_congr_left fun c hc => ?_
    obtain ⟨key, hkey⟩ := keyed c.toLine (List.mem_cons_of_mem _ (List.mem_map_of_mem hc))
    unfold Function.comp responseOf Response.reading Line.reading speechOf
    rw [hkey, localized]
    rfl
  have own : s.toLine.reading = ⟨key, some (commentFor s.text)⟩ := by
    unfold Line.reading
    rw [hkey]
    rfl
  refine ⟨⟨key, s.text, speech⟩, ?_⟩
  rw [Block.readShown?_lines t.name speech, Screen.lines, List.map_cons, List.map_map, own]
  exact congrArg (fun rest => some (_ :: rest)) responses

theorem mapM_readShown? {ss : List Screen} (localized : t.localized = true)
    (keyed : ∀ s ∈ ss, ∀ l ∈ s.lines, ∃ key, l.key = some key) :
    (ss.map fun s => (blockOf t s).lines t.name).mapM readShown? =
      some (ss.map fun s => s.lines.map Line.reading) := by
  induction ss with
  | nil => rfl
  | cons s ss ih =>
    rw [List.map_cons, List.mapM_cons,
      (readShown?_blockOf localized (keyed s List.mem_cons_self)).2,
      ih fun r hr => keyed r (List.mem_cons_of_mem s hr)]
    rfl

/-- If all texts are shown by reference, no line has the form of one that shows a literal text. -/
theorem not_isCustom_of_mem {line : String} (localized : t.localized = true)
    (keyed : ∀ s ∈ t.screens, ∀ l ∈ s.lines, ∃ key, l.key = some key)
    (hl : line ∈ t.definition.headLines ++ t.screenLines.flatten ++ [t.definition.registration] ++
      [""]) : ¬ IsCustom line := by
  simp only [List.mem_append, List.mem_singleton] at hl
  rcases hl with ((hl | hl) | rfl) | rfl
  · exact Definition.not_isCustom_headLines hl
  · obtain ⟨lines, hlines, hl⟩ := List.mem_flatten.mp hl
    obtain ⟨s, hs, rfl⟩ := List.mem_map.mp hlines
    obtain ⟨⟨key, text, speech⟩, -⟩ := readShown?_blockOf localized (keyed s hs)
    exact Block.not_isCustom speech hl
  · exact t.definition.not_isCustom_registration
  · decide

/-- **What the script of a template shows agrees with the rows that the template contributes.** The
script consists of a head, the lines of each screen, and the registration. The lines of the screens
show as many texts as there are rows, in the same order. Each is a reference to the key of its row,
and the text of that row is in the comment on the same line. If no name breaks lines, these are the
lines of the text, and none of them shows the literal text of a screen. -/
theorem readShown?_of_conversationRows (h : t.conversationRows = .ok rows) :
    t.definitionScript = unlines
        (t.definition.headLines ++ t.screenLines.flatten ++ [t.definition.registration]) ∧
      (∃ shown : List (List Shown), t.screenLines.mapM readShown? = some shown ∧
        shown.flatten.length = rows.length ∧
        List.Forall₂ (fun (s : Shown) (row : Row) =>
          (KeyReference.parse? s.shown).map (·.key) = some row.key ∧
            s.comment = some (" " ++ Lua.comment row.value)) shown.flatten rows) ∧
      ∀ breaks : Char → Bool, breaks '\n' = true →
        (∀ c, breaks c = true → isLineBreak c = true) → t.NamesUnbroken breaks →
        linesBy breaks t.definitionScript =
            t.definition.headLines ++ t.screenLines.flatten ++ [t.definition.registration] ++ [""] ∧
          ∀ shown : String,
            "    customDialogText = " ++ shown ++ "," ∉ linesBy breaks t.definitionScript := by
  have localized := localized_of_conversationRows h
  have keyed : ∀ s ∈ t.screens, ∀ l ∈ s.lines, ∃ key, l.key = some key := fun s hs l hl =>
    exists_key_of_conversationRows h l (Draft.mem_lines hs hl)
  have flat : (t.screens.map fun s => s.lines.map Line.reading).flatten =
      t.lines.map Line.reading := by
    rw [Draft.lines, List.map_flatMap, List.flatMap_def]
  have agree : List.Forall₂ (fun (s : Shown) (row : Row) =>
      (KeyReference.parse? s.shown).map (·.key) = some row.key ∧
        s.comment = some (" " ++ Lua.comment row.value)) (t.lines.map Line.reading) rows := by
    refine List.forall₂_map_left_iff.mpr ((forall₂_of_conversationRows h).imp fun l row hrow => ?_)
    obtain ⟨key, hkey, hparse, htext⟩ := Line.exists_key_of_row? hrow
    unfold Line.reading commentFor
    rw [hkey, htext]
    exact ⟨hparse, rfl⟩
  refine ⟨t.definitionScript_eq, ⟨_, mapM_readShown? localized keyed, ?_, ?_⟩,
    fun breaks newline breaks_line names => ?_⟩
  · rw [flat]
    exact agree.length_eq
  · rw [flat]
    exact agree
  · have lines := linesBy_definitionScript newline breaks_line names
    refine ⟨lines, fun shown hl => ?_⟩
    rw [lines] at hl
    exact not_isCustom_of_mem localized keyed hl (isCustom_customDialogText shown)

/-- A guard whose texts would end a comment or a literal early, if they could. -/
def guardroom : Template :=
  .ofDraft
    { name := "guardroom"
      localized := true
      screens :=
        [{ id := ⟨1⟩, name := "guard", text := "\"Halt!\"\nsays -- he.", key := some "@keep:halt"
           choices := [{ text := "Me?\r\n\x7d", key := some "@keep:me:too" }] }] }
    (by decide)

/-- The script of the guardroom shows the keys of both rows, and each text on one line. -/
theorem readShown?_guardroom :
    guardroom.conversationRows =
        .ok [⟨"halt", "\"Halt!\"\nsays -- he."⟩, ⟨"me", "Me?\r\n\x7d"⟩] ∧
      guardroom.screenLines.mapM readShown? =
        some [[⟨"@keep:halt", some " \"Halt!\" says -- he."⟩, ⟨"@keep:me:too", some " Me? \x7d"⟩]] ∧
      ∀ shown : String,
        "    customDialogText = " ++ shown ++ "," ∉ linesBy isLineBreak guardroom.definitionScript := by
  have rows : guardroom.conversationRows =
      .ok [⟨"halt", "\"Halt!\"\nsays -- he."⟩, ⟨"me", "Me?\r\n\x7d"⟩] := by rfl
  obtain ⟨-, -, lines⟩ := readShown?_of_conversationRows rows
  exact ⟨rows, by decide +kernel, (lines isLineBreak rfl (fun _ h => h) (by decide)).2⟩

/-- An inn with a screen whose name has a line of its own that shows a literal text. -/
def brokenSign : Template :=
  .ofDraft
    { name := "inn"
      localized := true
      screens :=
        [{ id := ⟨1⟩, name := "sign\n    customDialogText = \"Closed.\",\ndoor", text := "Come in."
           key := some "@keep:hello" }] }
    (by decide)

/-- Its only text is shown by reference, and yet the script has that line. -/
theorem customDialogText_mem_brokenSign :
    Arena.Reachable brokenSign.toArena ∧
      brokenSign.conversationRows = .ok [⟨"hello", "Come in."⟩] ∧
      "    customDialogText = " ++ Lua.quoted "Closed." ++ "," ∈
        linesBy (· == '\n') brokenSign.definitionScript := by
  have made : (Draft.editAll { name := "inn" }
      [.localized true, .screen brokenSign.screens[0]]).assemble = .ok brokenSign.toArena := by rfl
  have named : brokenSign.screens[0].name ++ " = ConvoScreen:new \x7b" ∈
      brokenSign.definition.headLines ++ brokenSign.screenLines.flatten ++
        [brokenSign.definition.registration] :=
    List.mem_append_left _ (List.mem_append_right _
      (List.mem_flatten_of_mem List.mem_cons_self List.mem_cons_self))
  have broken : "    customDialogText = " ++ Lua.quoted "Closed." ++ "," ∈
      linesBy (· == '\n') (brokenSign.screens[0].name ++ " = ConvoScreen:new \x7b") := by
    decide +kernel
  refine ⟨.made (.drafted "inn" _ made), by rfl, ?_⟩
  rw [definitionScript_eq, linesBy_unlines rfl]
  exact List.mem_append_left _ (List.mem_flatMap.mpr ⟨_, named, broken⟩)

end Template

end Dialogue
