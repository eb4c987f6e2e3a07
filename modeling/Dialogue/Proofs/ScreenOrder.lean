import Dialogue.Document.Basic
import Dialogue.Proofs.EarliestFault
import Dialogue.Proofs.KeylessLines
import Dialogue.Script.Definition

/-!
# The order of the screens

Choices refer to screens by identifier, so the screens of a template can be declared in any order.
Validation accepts every order, the index of every order finds the same screens, and choices lead to
the same screens. The order shows in the definition script and in the rows of the texts, and nowhere
but in the order of the parts that they have for each screen. Only where the conversation starts on no
screen in particular, it starts on another one.

* `Template.Reordered`: templates with the same parts up to the order of their screens.
* `Script.Definition.head`, `Script.Definition.tail`, `Template.blockText`: the parts of a definition
  script.
* `Screen.rows`: the rows of a screen.

Results:
* `Agree.of_perm`: validation accepts every order.
* `Template.Reordered.screen?_eq`, `Template.Reordered.resolve_eq`,
  `Template.Reordered.entryScreen_eq`: the graph.
* `Template.Reordered.blockText_eq`: the part of the definition script for a screen.
* **`Template.build_reordered`**: a template can be built with its screens in any order, and what is
  the same then.
-/

namespace Dialogue

open Text Script

/-! ## Validation -/

/-- What agrees agrees in any order. -/
theorem Agree.of_perm {ss rs : List Screen} (h : Agree ss) (perm : rs.Perm ss) : Agree rs where
  names_not_blank s hs := h.names_not_blank s (perm.mem_iff.mp hs)
  names_nodup := (perm.map (·.name)).nodup_iff.mpr h.names_nodup
  reactions_not_blank s hs := h.reactions_not_blank s (perm.mem_iff.mp hs)
  ids_nodup := (perm.map (·.id)).nodup_iff.mpr h.ids_nodup

theorem Draft.WellFormed.of_perm {d : Draft} (h : d.WellFormed) {screens : List Screen}
    (perm : screens.Perm d.screens) : ({ d with screens } : Draft).WellFormed := by
  obtain ⟨name, screens_ne_nil, agree⟩ := Draft.wellFormed_iff.mp h
  refine Draft.wellFormed_iff.mpr ⟨name, ?_, agree.of_perm perm⟩
  rintro rfl
  exact screens_ne_nil perm.nil_eq.symm

/-! ## Parts of scripts and tables -/

/-- The text with which a definition script begins. -/
def Script.Definition.head (d : Definition) : String := unlines d.headLines

/-- The text with which a definition script ends. -/
def Script.Definition.tail (d : Definition) : String := unlines [d.registration]

/-- The rows of a screen, all lines of which have keys. -/
def Screen.rows (s : Screen) : List Row := s.lines.map Line.keyedRow

namespace Template

/-- The text of the definition script for a screen. -/
def blockText (t : Template) (s : Screen) : String := unlines ((blockOf t s).lines t.name)

theorem definitionScript_eq_join (t : Template) :
    t.definitionScript =
      t.definition.head ++ String.join (t.screens.map t.blockText) ++ t.definition.tail := by
  have blocks : t.definition.blocks.flatMap (·.lines t.definition.template) =
      t.screens.flatMap fun s => (blockOf t s).lines t.name := List.flatMap_map (blockOf t) _ t.screens
  unfold definitionScript Definition.render Definition.lines
  rw [unlines_append, unlines_append, blocks, unlines_flatMap]
  rfl

/-- The rows of a template are those of its screens, if all lines have keys. -/
theorem conversationRows_eq_ok_iff_flatMap {t : Template} {rows : List Row} :
    t.conversationRows = .ok rows ↔
      t.localized = true ∧ (∀ s ∈ t.screens, ∀ l ∈ s.lines, l.Keyed) ∧
        t.screens.flatMap Screen.rows = rows := by
  rw [conversationRows_eq_ok_iff_keyed, Draft.lines, List.forall_mem_flatMap, List.map_flatMap]
  rfl

/-! ## Templates that differ in the order of their screens -/

/-- The templates have the same parts, up to the order in which the screens are declared. -/
structure Reordered (t u : Template) : Prop where
  /-- The screens apart, the parts are the same. -/
  parts : u.toDraft = { t.toDraft with screens := u.screens }
  /-- The screens are the same up to their order. -/
  perm : u.screens.Perm t.screens

namespace Reordered

variable {t u : Template} (h : Reordered t u)
include h

/-- The same screens are found: identifiers tell them apart in any order. -/
theorem screen?_eq (id : ScreenId) : u.screen? id = t.screen? id := by
  ext s
  rw [screen?_eq_some_iff, screen?_eq_some_iff, h.perm.mem_iff]

theorem resolve_eq (c : Choice) : u.resolve c = t.resolve c := by
  unfold resolve
  rw [funext h.screen?_eq]

theorem initialScreen_eq : u.initialScreen = t.initialScreen := by rw [h.parts]

theorem localized_eq : u.localized = t.localized := by rw [h.parts]

theorem name_eq : u.name = t.name := by rw [h.parts]

/-- The conversation starts on the same screen, if the template says on which. -/
theorem entryScreen_eq (configured : (t.initialScreen.bind t.screen?).isSome = true) :
    u.entryScreen = t.entryScreen := by
  obtain ⟨s, hs⟩ := Option.isSome_iff_exists.mp configured
  have same : u.initialScreen.bind u.screen? = some s := by
    rw [h.initialScreen_eq, funext h.screen?_eq, hs]
  unfold entryScreen
  rw [same, hs, Option.getD_some, Option.getD_some]

theorem blockText_eq (s : Screen) : u.blockText s = t.blockText s := by
  have responses : responseOf u = responseOf t := by
    funext c
    unfold responseOf targetName
    rw [h.localized_eq, h.resolve_eq]
  unfold blockText blockOf
  rw [responses, h.localized_eq, h.name_eq]

/-- The script begins in the same way, apart from the screen on which the conversation starts. -/
theorem head_eq : u.definition.head = ({ t.definition with entry := u.entryScreen.name }).head := by
  unfold Definition.head Definition.headLines definition
  rw [h.name_eq]

theorem tail_eq : u.definition.tail = t.definition.tail := by
  unfold Definition.tail Definition.registration definition
  rw [h.name_eq]

theorem definitionScript_eq :
    u.definitionScript =
      u.definition.head ++ String.join (u.screens.map t.blockText) ++ t.definition.tail := by
  rw [definitionScript_eq_join, h.tail_eq, funext h.blockText_eq]

theorem keyed_iff :
    (∀ s ∈ u.screens, ∀ l ∈ s.lines, l.Keyed) ↔ ∀ s ∈ t.screens, ∀ l ∈ s.lines, l.Keyed :=
  forall_congr' fun _ => imp_congr_left h.perm.mem_iff

theorem conversationRows_eq_ok_iff {rows : List Row} :
    u.conversationRows = .ok rows ↔
      t.conversationRows = .ok (t.screens.flatMap Screen.rows) ∧
        u.screens.flatMap Screen.rows = rows := by
  rw [conversationRows_eq_ok_iff_flatMap, conversationRows_eq_ok_iff_flatMap, h.localized_eq,
    h.keyed_iff]
  simp only [and_assoc, true_and]

theorem toDocument_eq :
    u.toDocument = { t.toDocument with screens := u.screens.map (·.toEntry) } := by
  unfold toDocument
  rw [h.parts]

end Reordered

/-- **A template can be built with its screens in any order**, from a draft as from a document. The
same screens are found and choices lead to the same ones. If the template says on which screen the
conversation starts, it starts there, and the definition script begins in the same way; otherwise
only the name of the entry screen differs there. Then follow the same texts for the screens, in the
new order, and the script ends in the same way. The rows are the same for each screen, in the new
order, if there are any. -/
theorem build_reordered (t : Template) {screens : List Screen} (perm : screens.Perm t.screens) :
    ∃ u : Template,
      ({ t.toDraft with screens } : Draft).build = .ok u ∧
      ({ t.toDocument with screens := screens.map (·.toEntry) } : Document).toTemplate = .ok u ∧
      (∀ id, u.screen? id = t.screen? id) ∧
      (∀ c, u.resolve c = t.resolve c) ∧
      ((t.initialScreen.bind t.screen?).isSome = true →
        u.entryScreen = t.entryScreen ∧ u.definition.head = t.definition.head) ∧
      u.definition.head = ({ t.definition with entry := u.entryScreen.name }).head ∧
      t.definitionScript =
        t.definition.head ++ String.join (t.screens.map t.blockText) ++ t.definition.tail ∧
      u.definitionScript =
        u.definition.head ++ String.join (screens.map t.blockText) ++ t.definition.tail ∧
      ∀ rows, t.conversationRows = .ok rows →
        (∀ s ∈ t.screens, List.Forall₂ Line.Yields s.lines s.rows) ∧
          rows = t.screens.flatMap Screen.rows ∧
          u.conversationRows = .ok (screens.flatMap Screen.rows) := by
  let u : Template := .ofDraft { t.toDraft with screens } (t.wellFormed.of_perm perm)
  have h : Reordered t u := ⟨rfl, perm⟩
  have described : ({ t.toDocument with screens := screens.map (·.toEntry) } : Document).toTemplate =
      .ok u :=
    (congrArg Document.toTemplate h.toDocument_eq).symm.trans (Document.toTemplate_toDocument u)
  refine ⟨u, Draft.build_eq_ok_iff.mpr rfl, described, h.screen?_eq, h.resolve_eq,
    fun configured => ?_, h.head_eq, t.definitionScript_eq_join, h.definitionScript_eq,
    fun rows hrows => ?_⟩
  · have entry : u.entryScreen = t.entryScreen := h.entryScreen_eq configured
    exact ⟨entry, by rw [h.head_eq, entry]; rfl⟩
  · obtain ⟨-, keyed, rfl⟩ := conversationRows_eq_ok_iff_flatMap.mp hrows
    refine ⟨fun s hs => Line.forall₂_yields_iff.mpr ⟨keyed s hs, rfl⟩, rfl, ?_⟩
    exact h.conversationRows_eq_ok_iff.mpr ⟨hrows, rfl⟩

/-- An orchard whose screens lead to each other in a circle. The conversation starts on the second
of them. -/
def orchard : Template :=
  .ofDraft
    { name := "orchard"
      localized := true
      initialScreen := some ⟨5⟩
      screens :=
        [{ id := ⟨9⟩, name := "well", text := "It is deep.", key := some "orchard:s_1"
           choices := [{ text := "Go back.", key := some "orchard:s_2", target := some ⟨5⟩ }] },
          { id := ⟨5⟩, name := "gate", text := "Welcome.", key := some "orchard:s_3"
            choices := [{ text := "Is that a well?", key := some "orchard:s_4", target := some ⟨9⟩ },
              { text := "Goodbye.", key := some "orchard:s_5", target := some ⟨7⟩ }] }] }
    (by decide)

/-- The document of the orchard with its screens from last to first. The conversation still starts
at the gate, and the rows of the gate are now the first. -/
theorem build_reordered_orchard :
    orchard.screens.reverse.Perm orchard.screens ∧
      ∃ u, ({ orchard.toDocument with
              screens := orchard.toDocument.screens.reverse } : Document).toTemplate = .ok u ∧
        (u.screen? ⟨9⟩).map (·.name) = some "well" ∧ u.entryScreen.name = "gate" ∧
        u.conversationRows =
          .ok [⟨"s_3", "Welcome."⟩, ⟨"s_4", "Is that a well?"⟩, ⟨"s_5", "Goodbye."⟩,
            ⟨"s_1", "It is deep."⟩, ⟨"s_2", "Go back."⟩] := by
  have perm : orchard.screens.reverse.Perm orchard.screens := List.reverse_perm orchard.screens
  obtain ⟨u, -, described, found, -, started, -, -, -, rows⟩ := orchard.build_reordered perm
  refine ⟨perm, u, described, ?_, ?_, ?_⟩
  · rw [found]
    rfl
  · rw [(started rfl).1]
    rfl
  · exact (rows _ rfl).2.2.trans (by rfl)

end Template

end Dialogue
