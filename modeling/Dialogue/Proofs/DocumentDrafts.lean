import Dialogue.Document.Basic
import Dialogue.Proofs.FirstFailure

/-!
# Documents and drafts

A template can be described by a document, or drafted from the same parts. The two check triggers at
different points: a document is refused for the first trigger without reaction before anything else
is looked at, a draft for its earliest fault.

* `Document.drafted`: the draft with the parts of a document, with an empty reaction where an entry
  has none.
* `ScreenEntry.missingReaction?`: the fault of an entry with an action and nothing to apply it to.

Results:
* `ScreenEntry.toScreen_eq`: an entry without this fault describes the screen drafted for it.
* **`Document.toTemplate_eq_build`**: the document describes the template that the draft makes, and
  both fail alike unless a reaction is missing.
-/

namespace Dialogue

open Text

/-! ## Entries -/

namespace ScreenEntry

/-- The screen drafted for an entry. Its trigger is attached like any other. -/
def draftedScreen (e : ScreenEntry) : Screen where
  text := e.text
  key := e.key
  id := e.id
  name := e.name
  terminal := e.terminal
  trigger := e.action.bind fun action =>
    QuestTrigger.of? action (e.reaction.getD "") e.title e.description
  choices := e.choices.map (·.toChoice)

/-- The fault of an entry whose action is not blank and whose reaction is blank or missing. -/
def missingReaction? (e : ScreenEntry) : Option Fault :=
  (e.action.filter fun action => ! isBlank action && e.reaction.all isBlank).map
    (.missingReaction e.name)

theorem toScreen_eq (e : ScreenEntry) :
    e.toScreen = e.missingReaction?.elim (.ok e.draftedScreen) .error := by
  unfold toScreen ScreenEntry.trigger missingReaction? draftedScreen
  cases ha : e.action with
  | none => simp [Except.map]
  | some action =>
    cases blank : isBlank action with
    | true => simp [Option.filter, blank, Except.map, QuestTrigger.of?]
    | false =>
      cases hr : e.reaction with
      | none => simp [Option.filter, blank, Except.map]
      | some reaction =>
        cases blankReaction : isBlank reaction <;>
          simp [Option.filter, blank, blankReaction, Except.map]

/-- The trigger drafted for an entry with this fault has a blank reaction. -/
theorem exists_trigger_of_missingReaction? {e : ScreenEntry} {fault : Fault}
    (h : e.missingReaction? = some fault) :
    ∃ t ∈ e.draftedScreen.trigger, isBlank t.reaction = true := by
  obtain ⟨action, hfilter, -⟩ := Option.map_eq_some_iff.mp h
  obtain ⟨ha, hlacks⟩ := Option.filter_eq_some_iff.mp hfilter
  obtain ⟨acts, lacks⟩ := (Bool.and_eq_true _ _).mp hlacks
  have acting : isBlank action = false := by simpa using acts
  have reaction : isBlank (e.reaction.getD "") = true := by
    cases hr : e.reaction with
    | none => decide
    | some reaction => simpa [hr] using lacks
  exact ⟨⟨action, e.reaction.getD "", e.title, e.description, acting⟩,
    by simp [draftedScreen, ha, QuestTrigger.of?, acting], reaction⟩

end ScreenEntry

/-! ## Documents -/

namespace Document

/-- The settings that put the parts of a document into a draft. -/
def edits (d : Document) : List Edit :=
  [.id (d.id.getD ⟨0⟩), .localized d.localized, .keyPrefix d.keyPrefix,
    .screens (d.screens.map (·.draftedScreen))] ++ d.initialScreen.toList.map .initialScreen

/-- The draft with the parts of a document. -/
def drafted (d : Document) : Draft := Draft.editAll { name := d.name } d.edits

theorem drafted_eq (d : Document) :
    d.drafted =
      { name := d.name
        id := d.id.getD ⟨0⟩
        localized := d.localized
        keyPrefix := d.keyPrefix
        initialScreen := d.initialScreen
        screens := d.screens.map (·.draftedScreen) } := by
  unfold drafted edits
  cases d.initialScreen <;> rfl

/-- The fault of the first entry whose action has no reaction. -/
def missingReaction? (d : Document) : Option Fault := d.screens.findSome? (·.missingReaction?)

theorem toTemplate_eq (d : Document) :
    d.toTemplate = d.missingReaction?.elim d.drafted.build .error := by
  unfold toTemplate toDraft
  rw [mapM_eq_findSome? ScreenEntry.toScreen_eq, drafted_eq, missingReaction?]
  cases d.screens.findSome? (·.missingReaction?) <;> rfl

/-- A draft with a trigger whose reaction is blank makes no template. -/
theorem build_drafted_ne_ok {d : Document} {fault : Fault} (h : d.missingReaction? = some fault)
    (t : Template) : d.drafted.build ≠ .ok t := by
  intro built
  obtain ⟨e, he, hfault⟩ := List.exists_of_findSome?_eq_some h
  obtain ⟨trigger, triggered, blank⟩ := ScreenEntry.exists_trigger_of_missingReaction? hfault
  have parts : t.toDraft = d.drafted := Draft.build_eq_ok_iff.mp built
  have hs : e.draftedScreen ∈ t.screens := by
    rw [parts, drafted_eq]
    exact List.mem_map_of_mem he
  simp [t.wellFormed.reaction_not_blank _ hs trigger triggered] at blank

/-- **The document describes the template that the draft with its parts makes.** Where one fails, so
does the other. The document fails with the first missing reaction if there is one on any screen,
and otherwise exactly as the draft does. -/
theorem toTemplate_eq_build (d : Document) :
    (∀ t, d.toTemplate = .ok t ↔ d.drafted.build = .ok t) ∧
      d.toTemplate =
        match d.screens.findSome? (·.missingReaction?) with
        | some fault => .error fault
        | none => d.drafted.build := by
  rw [toTemplate_eq, ← missingReaction?]
  cases h : d.missingReaction? with
  | none => exact ⟨fun t => Iff.rfl, rfl⟩
  | some fault => exact ⟨fun t => ⟨nofun, fun built => absurd built (build_drafted_ne_ok h t)⟩, rfl⟩

/-- Neither the blank name of the template nor that of a screen hides a missing reaction. -/
example :
    ({ screens :=
        [{ id := ⟨1⟩, name := "" }, { id := ⟨2⟩, name := "ford", action := some "wade" }] } :
        Document).toTemplate =
      .error (.missingReaction "ford" "wade") := by
  rfl

end Document

end Dialogue
