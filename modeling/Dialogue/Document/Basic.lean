import Dialogue.Template.Basic

/-!
# Documents

Editors store a template as a document. A document is not checked: a screen's trigger is spread over
four optional fields, and identifiers may be missing or repeated.

* `Document.toTemplate` makes a template, and reports a trigger without reaction on any screen
  before anything else.
* `Template.toDocument` goes back.

Results:
* `ScreenEntry.toScreen_toEntry`: the entry for a screen describes that screen.
* **`Document.toTemplate_toDocument`**: so does the document of a template.
-/

namespace Dialogue

open Text

/-- A response as a document holds it. -/
structure ChoiceEntry where
  /-- The number of the response, which means nothing here. -/
  id : Option UInt64 := none
  /-- The literal text. -/
  text : String := ""
  /-- The reference of the text. -/
  key : Option String := none
  /-- The screen that the response leads to. -/
  target : Option ScreenId := none
  deriving DecidableEq, Repr

/-- A screen as a document holds it. -/
structure ScreenEntry where
  /-- The identifier of the screen. -/
  id : ScreenId
  /-- The name of the screen. -/
  name : String
  /-- The literal text. -/
  text : String := ""
  /-- The reference of the text. -/
  key : Option String := none
  /-- The conversation stops here. -/
  terminal : Bool := false
  /-- The action of the trigger. -/
  action : Option String := none
  /-- What the action applies to. -/
  reaction : Option String := none
  /-- The title of the journal entry. -/
  title : Option String := none
  /-- The description in the journal entry. -/
  description : Option String := none
  /-- The responses in order. -/
  choices : List ChoiceEntry := []
  deriving DecidableEq, Repr

/-- A template as a document holds it. -/
structure Document where
  /-- The identifier of the template. -/
  id : Option TemplateId := none
  /-- The name of the template. -/
  name : String := ""
  /-- Texts are shown by reference. -/
  localized : Bool := false
  /-- What references put before the template's name. -/
  keyPrefix : String := defaultKeyPrefix
  /-- The screen on which the conversation is to start. -/
  initialScreen : Option ScreenId := none
  /-- The screens in order. -/
  screens : List ScreenEntry := []
  deriving DecidableEq, Repr

/-! ## From documents to templates -/

/-- The choice that an entry describes. -/
def ChoiceEntry.toChoice (e : ChoiceEntry) : Choice where
  text := e.text
  key := e.key
  target := e.target

/-- The trigger that an entry describes, if it has an action. -/
def ScreenEntry.trigger (e : ScreenEntry) : Except Fault (Option QuestTrigger) :=
  match e.action.filter (! isBlank ·) with
  | none => .ok none
  | some action =>
    match e.reaction.filter (! isBlank ·) with
    | none => .error (.missingReaction e.name action)
    | some reaction => .ok (QuestTrigger.of? action reaction e.title e.description)

/-- The screen that an entry describes. -/
def ScreenEntry.toScreen (e : ScreenEntry) : Except Fault Screen :=
  e.trigger.map fun trigger =>
    { text := e.text
      key := e.key
      id := e.id
      name := e.name
      terminal := e.terminal
      trigger
      choices := e.choices.map (·.toChoice) }

/-- The draft that a document describes. -/
def Document.toDraft (d : Document) : Except Fault Draft := do
  let screens ← d.screens.mapM (·.toScreen)
  return {
    name := d.name
    id := d.id.getD ⟨0⟩
    localized := d.localized
    keyPrefix := d.keyPrefix
    initialScreen := d.initialScreen
    screens }

/-- The template that a document describes. -/
def Document.toTemplate (d : Document) : Except Fault Template := do
  let draft ← d.toDraft
  draft.build

theorem Document.toTemplate_eq_ok_iff {d : Document} {t : Template} :
    d.toTemplate = .ok t ↔ ∃ draft, d.toDraft = .ok draft ∧ draft.build = .ok t := by
  unfold Document.toTemplate
  cases d.toDraft with
  | error fault => simp [bind, Except.bind]
  | ok draft => simp [bind, Except.bind]

/-! ## From templates to documents -/

/-- The entry for a choice. -/
def Choice.toEntry (c : Choice) : ChoiceEntry where
  text := c.text
  key := c.key
  target := c.target

/-- The entry for a screen. -/
def Screen.toEntry (s : Screen) : ScreenEntry where
  id := s.id
  name := s.name
  text := s.text
  key := s.key
  terminal := s.terminal
  action := s.trigger.map (·.action)
  reaction := s.trigger.map (·.reaction)
  title := s.trigger.bind (·.title)
  description := s.trigger.bind (·.description)
  choices := s.choices.map (·.toEntry)

/-- The document for a template. -/
def Template.toDocument (t : Template) : Document where
  id := some t.id
  name := t.name
  localized := t.localized
  keyPrefix := t.keyPrefix
  initialScreen := t.initialScreen
  screens := t.screens.map (·.toEntry)

@[simp] theorem Choice.toChoice_toEntry (c : Choice) : c.toEntry.toChoice = c := rfl

theorem Screen.toScreen_toEntry {s : Screen} (h : ∀ t ∈ s.trigger, isBlank t.reaction = false) :
    s.toEntry.toScreen = .ok s := by
  have hc : s.choices.map (ChoiceEntry.toChoice ∘ Choice.toEntry) = s.choices :=
    List.map_id s.choices
  rcases s with ⟨line, id, name, terminal, trigger, choices⟩
  cases trigger with
  | none => simp_all [Screen.toEntry, ScreenEntry.toScreen, ScreenEntry.trigger, Except.map]
  | some t =>
    have := h t rfl
    simp_all [Screen.toEntry, ScreenEntry.toScreen, ScreenEntry.trigger, Except.map,
      t.action_not_blank, Option.filter]

theorem mapM_toScreen_toEntry {screens : List Screen}
    (h : ∀ s ∈ screens, ∀ t ∈ s.trigger, isBlank t.reaction = false) :
    (screens.map (·.toEntry)).mapM (·.toScreen) = Except.ok screens := by
  induction screens with
  | nil => rfl
  | cons s screens ih =>
    rw [List.map_cons, List.mapM_cons, Screen.toScreen_toEntry (h s (by simp)),
      ih fun s hs => h s (by simp [hs])]
    rfl

/-- **The document of a template describes that template.** -/
theorem Document.toTemplate_toDocument (t : Template) : t.toDocument.toTemplate = .ok t := by
  have hs := mapM_toScreen_toEntry t.wellFormed.reaction_not_blank
  have hb : t.toDraft.build = .ok t := Draft.build_eq_ok_iff.mpr rfl
  simpa [Document.toTemplate, Document.toDraft, Template.toDocument, hs, bind, Except.bind, pure,
    Except.pure] using hb

end Dialogue
