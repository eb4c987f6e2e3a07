import Dialogue.Localization.Rows
import Dialogue.Proofs.LocalizationRoundTrip
import Dialogue.Proofs.RebasedReferences

/-!
# What switching modes leaves alone

Localizing a template, taking its texts from a table and rebasing its references change lines, and
one setting each. The conversation itself is what is left without lines and without these settings:
which screens there are, where choices lead, and what is asked of the quest manager. The handler
script and the journal are made of nothing else.

* `Template.bare`: the template without texts, references, mode and prefix.
* `Template.SameConversation`: what templates have in common that differ in these alone.

Results:
* `Template.plain_localize`, `Template.mute_toLiteral`, `Template.plain_rebase`: what is the same
  before and after.
* `Template.SameConversation.of_bare_eq`: the conversation depends on nothing else.
* **`Template.sameConversation_of_modes`**: no switch of modes changes the conversation.
-/

namespace Dialogue

/-- A line with neither text nor reference. -/
def Line.bare (_ : Line) : Line := { text := "" }

namespace Arena

/-- The arena without texts, references, mode and prefix. -/
def bare (a : Arena) : Arena := ((a.mapLines Line.bare).withLocalized false).withKeyPrefix ""

theorem bare_withLocalized (a : Arena) (localized : Bool) :
    (a.withLocalized localized).bare = a.bare := rfl

theorem bare_withKeyPrefix (a : Arena) (keyPrefix : String) :
    (a.withKeyPrefix keyPrefix).bare = a.bare := rfl

/-- Nothing of the lines is left. -/
theorem bare_mapLines (f : Line → Line) (a : Arena) : (a.mapLines f).bare = a.bare := by
  have lines := mapLines_mapLines f Line.bare a
  exact congrArg (fun a : Arena => (a.withLocalized false).withKeyPrefix "") lines

theorem bare_mapAccumLines {σ β : Type} (f : σ → Line → (Line × β) × σ) (state : σ) (a : Arena) :
    (a.mapAccumLines f state).1.1.bare = a.bare := by
  have line : ∀ state l, Line.bare (f state l).1.1 = l.bare := fun _ _ => rfl
  have lines := mapLines_mapAccumLines line state a
  exact congrArg (fun a : Arena => (a.withLocalized false).withKeyPrefix "") lines

end Arena

namespace Template

/-- The template without texts, references, mode and prefix. -/
def bare (t : Template) : Template :=
  ⟨t.toArena.bare, ((t.sound.mapLines Line.bare).withLocalized false).withKeyPrefix ""⟩

/-- For each screen and each of its choices, the screen that the choice leads to. -/
def links (t : Template) : List (List (Option Outline)) :=
  t.screens.map fun s => s.choices.map fun c => (t.resolve c).map Screen.outline

/-- What templates have in common that are the same conversation. -/
structure SameConversation (t u : Template) : Prop where
  /-- The handler script is compiled and is the same, whatever it is told. -/
  compileHandler : ∀ settings, u.compileHandler settings = .ok (t.handlerScript settings)
  /-- The journal has the same rows. -/
  taskRows : u.taskRows = t.taskRows
  /-- The same screens are found. -/
  screen? : ∀ id, (u.screen? id).map Screen.outline = (t.screen? id).map Screen.outline
  /-- A choice leads to the same screen in both templates. -/
  resolve : ∀ c, (u.resolve c).map Screen.outline = (t.resolve c).map Screen.outline
  /-- So do the choices in the same places. -/
  links : u.links = t.links
  /-- The conversation starts on the same screen. -/
  entryScreen : u.entryScreen.outline = t.entryScreen.outline

/-! ## The conversation is all that is left -/

section

variable (t : Template)

theorem handlerScript_bare (settings : Script.Settings) :
    t.bare.handlerScript settings = t.handlerScript settings :=
  congrArg Script.Handler.render (t.handler_mapLines Line.bare settings)

theorem taskRows_bare : t.bare.taskRows = t.taskRows := by
  have triggers : t.bare.screens.filterMap (·.trigger) = t.screens.filterMap (·.trigger) :=
    List.filterMap_map
  unfold taskRows taskTriggers
  rw [triggers]

theorem screen?_bare (id : ScreenId) :
    (t.bare.screen? id).map Screen.outline = (t.screen? id).map Screen.outline := by
  have found : t.bare.screen? id = (t.screen? id).map (·.mapLines Line.bare) :=
    t.screen?_mapLines Line.bare id
  rw [found, Option.map_map]
  rfl

theorem resolve_bare (c : Choice) :
    (t.bare.resolve c).map Screen.outline = (t.resolve c).map Screen.outline := by
  unfold resolve
  cases c.target with
  | none => rfl
  | some id => exact t.screen?_bare id

theorem links_bare : t.bare.links = t.links := by
  have screens : t.bare.screens = t.screens.map (·.mapLines Line.bare) := rfl
  unfold links
  rw [screens, List.map_map]
  refine List.map_congr_left fun s _ => ?_
  show (s.choices.map (·.mapLine Line.bare)).map _ = _
  rw [List.map_map]
  exact List.map_congr_left fun c _ => t.resolve_bare (c.mapLine Line.bare)

theorem entryScreen_bare : t.bare.entryScreen.outline = t.entryScreen.outline := by
  have entry : t.bare.entryScreen = t.entryScreen.mapLines Line.bare :=
    t.entryScreen_mapLines Line.bare
  rw [entry, Screen.outline_mapLines]

end

/-- **The conversation depends on what is left without lines and settings.** -/
theorem SameConversation.of_bare_eq {t u : Template} (h : u.toArena.bare = t.toArena.bare) :
    SameConversation t u := by
  have bare : u.bare = t.bare := eq_of_toArena_eq h
  constructor
  · intro settings
    rw [compileHandler_eq, ← handlerScript_bare, bare, handlerScript_bare]
  · rw [← taskRows_bare, bare, taskRows_bare]
  · intro id
    rw [← screen?_bare, bare, screen?_bare]
  · intro c
    rw [← resolve_bare, bare, resolve_bare]
  · rw [← links_bare, bare, links_bare]
  · rw [← entryScreen_bare, bare, entryScreen_bare]

/-! ## Switching modes -/

/-- Taking texts from a table changes texts and the mode, and nothing else. -/
theorem mute_toLiteral (t : Template) (table : StringTable) :
    (t.toLiteral table).mute.toArena = t.mute.toArena.withLocalized false := by
  have line : ∀ l : Line, (l.toLiteral table).mute = l.mute := by
    intro l
    rw [Line.toLiteral_eq, Line.translate_eq]
    rfl
  have lines := Arena.mapLines_mapLines (Line.toLiteral table) Line.mute t.toArena
  simp only [line] at lines
  exact congrArg (Arena.withLocalized false) lines

/-- Rebasing changes references and the prefix, and nothing else. -/
theorem plain_rebase (t : Template) (keyPrefix : String) :
    (t.rebase keyPrefix).plain.toArena = t.plain.toArena.withKeyPrefix keyPrefix := by
  have line : ∀ l : Line, (l.rebase keyPrefix t.name).plain = l.plain := by
    intro l
    unfold Line.rebase
    cases l.keyId? <;> rfl
  have lines := Arena.mapLines_mapLines (·.rebase keyPrefix t.name) Line.plain t.toArena
  simp only [line] at lines
  exact congrArg (Arena.withKeyPrefix keyPrefix) lines

/-- **No switch of modes changes the conversation.** Localizing changes references and the mode,
taking texts from a table changes texts and the mode, and rebasing changes references and the
prefix. All else is the same, the index included, and so are the handler script, the journal, and
the screens that are found, that choices lead to, and on which the conversation starts. -/
theorem sameConversation_of_modes {σ : Type} [KeyGenerator σ] (t : Template) (keys : σ)
    (table : StringTable) (keyPrefix : String) :
    ((t.localize keys).1.1.plain.toArena = t.plain.toArena.withLocalized true ∧
        SameConversation t (t.localize keys).1.1) ∧
      ((t.toLiteral table).mute.toArena = t.mute.toArena.withLocalized false ∧
        SameConversation t (t.toLiteral table)) ∧
      ((t.rebase keyPrefix).plain.toArena = t.plain.toArena.withKeyPrefix keyPrefix ∧
        SameConversation t (t.rebase keyPrefix)) := by
  refine ⟨⟨plain_localize, .of_bare_eq ?_⟩, ⟨t.mute_toLiteral table, .of_bare_eq ?_⟩,
    ⟨t.plain_rebase keyPrefix, .of_bare_eq ?_⟩⟩
  · exact (Arena.bare_withLocalized _ true).trans
      (Arena.bare_mapAccumLines (Line.localize t.keyPrefix t.name) keys t.toArena)
  · exact (Arena.bare_withLocalized _ false).trans
      (Arena.bare_mapLines (Line.toLiteral table) t.toArena)
  · exact (Arena.bare_withKeyPrefix _ keyPrefix).trans
      (Arena.bare_mapLines (·.rebase keyPrefix t.name) t.toArena)

end Template

end Dialogue
