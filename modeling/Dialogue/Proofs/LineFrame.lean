import Dialogue.Script.Pair
import Dialogue.Template.Traversal

/-!
# What does not depend on the lines

The lines of a template may be changed without changing the conversation. The same screens are found,
the conversation starts on the same screen, and choices lead to the same screens. The handler script
does not show a line at all, and the definition script of a literal template does not show a
reference.

* `Template.mapLines`: the template with each line changed.
* `Template.plain`, `Template.mute`: the template without references, and without texts.

Results:
* `Template.screen?_mapLines`, `Template.entryScreen_mapLines`, `Template.resolve_mapLines`: the
  graph of a template with changed lines.
* `Template.handler_mapLines`: the handler script stays the same.
* `Template.definition_mapLines`: the definition script shows each screen with its changed lines.
* `Template.definition_plain`, `Template.definitionScript_eq_of_plain`: that of a literal template
  depends neither on its references nor on their prefix.
-/

namespace Dialogue

theorem Template.eq_of_toArena_eq {t u : Template} (h : t.toArena = u.toArena) : t = u := by
  cases t
  cases u
  cases h
  rfl

/-- The line without its reference. -/
def Line.plain (l : Line) : Line := { l with key := none }

/-- The line without its text. -/
def Line.mute (l : Line) : Line := { l with text := "" }

namespace Template

/-- The template with each line changed. -/
def mapLines (f : Line → Line) (t : Template) : Template :=
  ⟨t.toArena.mapLines f, t.sound.mapLines f⟩

/-- The template without references. -/
def plain (t : Template) : Template := t.mapLines Line.plain

/-- The template without texts. -/
def mute (t : Template) : Template := t.mapLines Line.mute

/-! ## The graph -/

section

variable (f : Line → Line) (t : Template)

theorem screens_mapLines : (t.mapLines f).screens = t.screens.map (·.mapLines f) := rfl

theorem screen?_mapLines (id : ScreenId) :
    (t.mapLines f).screen? id = (t.screen? id).map (·.mapLines f) := by
  rw [screen?_eq_find?, screen?_eq_find?, screens_mapLines, List.find?_map]
  rfl

theorem entryScreen_mapLines : (t.mapLines f).entryScreen = t.entryScreen.mapLines f := by
  have configured : (t.mapLines f).initialScreen.bind (t.mapLines f).screen? =
      (t.initialScreen.bind t.screen?).map (·.mapLines f) := by
    show t.initialScreen.bind (t.mapLines f).screen? = _
    cases t.initialScreen with
    | none => rfl
    | some id => exact t.screen?_mapLines f id
  have first : (t.mapLines f).screens.head (t.mapLines f).wellFormed.screens_ne_nil =
      (t.screens.head t.wellFormed.screens_ne_nil).mapLines f :=
    List.head_map (t.mapLines f).wellFormed.screens_ne_nil
  unfold entryScreen
  rw [configured, first]
  cases t.initialScreen.bind t.screen? <;> rfl

theorem resolve_mapLines (c : Choice) :
    (t.mapLines f).resolve (c.mapLine f) = (t.resolve c).map (·.mapLines f) := by
  unfold resolve
  show c.target.bind (t.mapLines f).screen? = _
  cases c.target with
  | none => rfl
  | some id => exact t.screen?_mapLines f id

end

/-! ## The scripts -/

open Script

section

variable (f : Line → Line) (t : Template)

theorem targetName_mapLines (c : Choice) :
    targetName (t.mapLines f) (c.mapLine f) = targetName t c := by
  unfold targetName
  rw [resolve_mapLines]
  cases t.resolve c <;> rfl

theorem triggered_mapLines :
    triggered (t.mapLines f) = (triggered t).map fun p => (p.1.mapLines f, p.2) := by
  unfold triggered
  rw [screens_mapLines, List.filterMap_map, List.map_filterMap]
  congr 1
  funext s
  show s.trigger.map (s.mapLines f, ·) = _
  cases s.trigger <;> rfl

/-- The handler script does not show a line. -/
theorem handler_mapLines (settings : Settings) :
    (t.mapLines f).handler settings = t.handler settings := by
  unfold handler probing acting
  rw [triggered_mapLines, entryScreen_mapLines, List.filter_map, List.filter_map, List.map_map,
    List.map_map]
  rfl

end

variable {t u : Template}

/-- A response of a literal template shows no reference. -/
theorem responseOf_plain (h : t.localized = false) (c : Choice) :
    responseOf t.plain (c.mapLine Line.plain) = responseOf t c := by
  have target : targetName t.plain (c.mapLine Line.plain) = targetName t c :=
    targetName_mapLines Line.plain t c
  have literal : t.plain.localized = false := h
  unfold responseOf
  rw [target, literal, h]
  cases hk : c.key <;> simp [speechOf, Choice.mapLine, Line.plain, hk]

theorem blockOf_plain (h : t.localized = false) (s : Screen) :
    blockOf t.plain (s.mapLines Line.plain) = blockOf t s := by
  have literal : t.plain.localized = false := h
  have responses : (s.choices.map (·.mapLine Line.plain)).map (responseOf t.plain) =
      s.choices.map (responseOf t) := by
    rw [List.map_map]
    exact List.map_congr_left fun c _ => responseOf_plain h c
  unfold blockOf
  rw [literal, h]
  cases hk : s.key <;> simp [speechOf, Screen.mapLines, Line.plain, hk, responses]

/-- The definition of a template with changed lines says of each screen what its changed lines say. -/
theorem definition_mapLines {f : Line → Line} {g : Block → Block}
    (h : ∀ s ∈ t.screens, blockOf (t.mapLines f) (s.mapLines f) = g (blockOf t s)) :
    (t.mapLines f).definition = { t.definition with blocks := t.definition.blocks.map g } := by
  have entry : (t.mapLines f).entryScreen.name = t.entryScreen.name := by
    rw [entryScreen_mapLines]
    rfl
  have blocks : (t.mapLines f).screens.map (blockOf (t.mapLines f)) =
      (t.screens.map (blockOf t)).map g := by
    rw [screens_mapLines, List.map_map, List.map_map]
    exact List.map_congr_left h
  unfold definition
  rw [entry, blocks]
  rfl

/-- The definition script of a literal template shows no reference. -/
theorem definition_plain (h : t.localized = false) : t.plain.definition = t.definition := by
  have blocks : ∀ s ∈ t.screens, blockOf t.plain (s.mapLines Line.plain) = id (blockOf t s) :=
    fun s _ => blockOf_plain h s
  rw [plain, definition_mapLines blocks, List.map_id]

/-- The prefix of references plays no part in the definition script. -/
theorem definition_withKeyPrefix (t : Template) (keyPrefix : String) :
    definition ⟨t.toArena.withKeyPrefix keyPrefix, t.sound.withKeyPrefix keyPrefix⟩ =
      t.definition := rfl

/-- Literal templates that differ in their references and their prefix have the same definition
script. -/
theorem definitionScript_eq_of_plain (ht : t.localized = false) (hu : u.localized = false)
    (h : u.plain.toArena.withKeyPrefix t.keyPrefix = t.plain.toArena) :
    u.definitionScript = t.definitionScript := by
  have same : (⟨_, u.plain.sound.withKeyPrefix t.keyPrefix⟩ : Template) = t.plain :=
    eq_of_toArena_eq h
  have plain : u.plain.definition = t.plain.definition := by
    rw [← definition_withKeyPrefix u.plain t.keyPrefix, same]
  unfold definitionScript
  rw [← definition_plain hu, plain, definition_plain ht]

/-- **Literal templates that differ in their references alone have the same scripts.** -/
theorem scripts_eq_of_plain_eq (ht : t.localized = false) (hu : u.localized = false)
    (h : u.plain = t.plain) :
    u.definitionScript = t.definitionScript ∧
      ∀ settings, u.handlerScript settings = t.handlerScript settings := by
  refine ⟨?_, fun settings => ?_⟩
  · refine definitionScript_eq_of_plain ht hu ?_
    rw [h]
    rfl
  · unfold handlerScript
    rw [← handler_mapLines Line.plain u, ← handler_mapLines Line.plain t]
    exact congrArg (fun t => (handler settings t).render) h

end Template

end Dialogue
