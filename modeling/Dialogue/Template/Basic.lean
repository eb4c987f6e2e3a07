import Dialogue.Template.Arena

/-!
# Templates

A template is a sound arena. It is the conversation as a graph: screens are found by their
identifier, the conversation starts on the entry screen, and a choice leads to the screen that its
target resolves to, or ends the conversation.

Results:
* `Draft.build_eq_ok_iff`, `Draft.build_eq_error_iff`: building succeeds on the drafts without
  fault, and otherwise reports the draft's fault.
* **`Template.screen?_eq_some_iff`**: the look-up finds the one screen with the identifier.
* `Template.entryScreen_mem`, `Template.resolve_mem`: entry and targets are screens of the template.
-/

namespace Dialogue

/-- A conversation whose parts fit together. -/
structure Template extends Arena where
  /-- The parts have no fault, and the index is that of the screens. -/
  sound : toArena.Sound
  deriving DecidableEq

/-- The template made of a draft, or the draft's earliest fault. -/
def Draft.build (d : Draft) : Except Fault Template :=
  match h : d.assemble with
  | .error fault => .error fault
  | .ok arena => .ok ⟨arena, (Draft.assemble_eq_ok_iff.mp h).2⟩

/-- Building a template is assembling its arena. -/
theorem Draft.build_eq_ok_iff_assemble {d : Draft} {t : Template} :
    d.build = .ok t ↔ d.assemble = .ok t.toArena := by
  unfold Draft.build
  split
  · rename_i fault h
    rw [h]
    simp
  · rename_i arena h
    constructor
    · intro ht
      cases ht
      exact h
    · intro ha
      rw [h] at ha
      cases ha
      rfl

theorem Draft.build_eq_ok_iff {d : Draft} {t : Template} : d.build = .ok t ↔ t.toDraft = d := by
  rw [Draft.build_eq_ok_iff_assemble, Draft.assemble_eq_ok_iff]
  exact and_iff_left t.sound

/-- The template made of a draft that is known to be well formed. -/
def Template.ofDraft (d : Draft) (h : d.WellFormed) : Template :=
  ⟨{ d with index := ScreenIndex.of d.screens }, h, rfl⟩

theorem Draft.build_eq_error_iff {d : Draft} {fault : Fault} :
    d.build = .error fault ↔ d.fault? = some fault := by
  rw [← Draft.assemble_eq_error_iff]
  unfold Draft.build
  split
  · rename_i h
    simp [h]
  · rename_i h
    simp [h]

namespace Template

theorem wellFormed (t : Template) : t.toDraft.WellFormed := t.sound.wellFormed

/-! ## The graph -/

/-- The screen with the given identifier. -/
def screen? (t : Template) (id : ScreenId) : Option Screen := t.toArena.screen? id

/-- The screen on which the conversation starts: the configured one if the template has it, else the
first. -/
def entryScreen (t : Template) : Screen :=
  (t.initialScreen.bind t.screen?).getD (t.screens.head t.wellFormed.screens_ne_nil)

/-- The screen that a choice leads to. -/
def resolve (t : Template) (c : Choice) : Option Screen := c.target.bind t.screen?

variable {t : Template} {id : ScreenId} {s : Screen}

theorem screen?_eq_find? (t : Template) (id : ScreenId) :
    t.screen? id = t.screens.find? (·.id == id) :=
  t.sound.screen?_eq_find? id

/-- **The look-up finds the one screen with the identifier.** -/
theorem screen?_eq_some_iff : t.screen? id = some s ↔ s ∈ t.screens ∧ s.id = id :=
  t.sound.screen?_eq_some_iff

theorem screen?_eq_none_iff : t.screen? id = none ↔ ∀ s ∈ t.screens, s.id ≠ id :=
  t.sound.screen?_eq_none_iff

theorem entryScreen_mem : t.entryScreen ∈ t.screens := by
  unfold entryScreen
  cases h : t.initialScreen.bind t.screen? with
  | none => exact List.head_mem _
  | some s =>
    obtain ⟨id, -, hs⟩ := Option.bind_eq_some_iff.mp h
    exact (screen?_eq_some_iff.mp hs).1

theorem resolve_mem {c : Choice} (h : t.resolve c = some s) : s ∈ t.screens := by
  obtain ⟨id, -, hs⟩ := Option.bind_eq_some_iff.mp h
  exact (screen?_eq_some_iff.mp hs).1

end Template

end Dialogue
