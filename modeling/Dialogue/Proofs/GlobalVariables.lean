import Dialogue.Proofs.DefinitionReading
import Dialogue.Proofs.EntryResolution
import Mathlib.Data.List.Nodup

/-!
# The global variables of the scripts

Loading the scripts of a template assigns global variables: the conversation and the handler have
names that derive from the template's, and each screen has its own. Validation keeps the names of
screens apart, but does not look at the other two.

* `Lua.assignments`: the assignments to global variables that loading a script makes.
* `Lua.valueAfter`, `Lua.Kept`: what a variable holds afterwards, and that nothing is overwritten.

Results:
* `Lua.kept_iff_nodup`: distinct assignments keep their values if they are to distinct variables.
* `Script.assignments_definition`, `Script.assignments_handler`: what the scripts assign.
* **`Template.nodup_globals_iff`**: the variables are distinct, and loading the scripts in any order
  keeps what it assigns, if no screen has the name of the conversation or of the handler.
-/

namespace Dialogue

namespace Lua

/-! ## Loading a script -/

/-- The assignments to global variables that loading a script makes, in order, where the variables
`locals` are local. The bodies of methods do not run. -/
def assignments (locals : List String) : List Item → List (String × Expr)
  | [] => []
  | .simple (.declare x _) :: rest => assignments (x :: locals) rest
  | .simple (.assign x e) :: rest =>
    if x ∈ locals then assignments locals rest else (x, e) :: assignments locals rest
  | _ :: rest => assignments locals rest

/-- What a global variable holds after assignments: the last of its values. -/
def valueAfter (made : List (String × Expr)) (x : String) : Option Expr := made.reverse.lookup x

/-- No assignment is overwritten by a later one. -/
def Kept (made : List (String × Expr)) : Prop := ∀ p ∈ made, valueAfter made p.1 = some p.2

/-- Distinct assignments keep their values exactly if they are to distinct variables. -/
theorem kept_iff_nodup {made : List (String × Expr)} (h : made.Nodup) :
    Kept made ↔ (made.map (·.1)).Nodup := by
  constructor
  · intro kept
    refine List.Nodup.map_on (fun p hp q hq same => ?_) h
    have value : some p.2 = some q.2 := by rw [← kept p hp, ← kept q hq, same]
    exact Prod.ext same (Option.some.inj value)
  · intro distinct p hp
    obtain ⟨later, earlier, split⟩ := List.append_of_mem (List.mem_reverse.mpr hp)
    refine List.lookup_eq_some_iff.mpr ⟨later, earlier, split, fun q hq => ?_⟩
    have reversed : ((later ++ p :: earlier).map (·.1)).Nodup := by
      rw [← split, List.map_reverse, List.nodup_reverse]
      exact distinct
    rw [List.map_append, List.nodup_append] at reversed
    have : q.1 ≠ p.1 := reversed.2.2 q.1 (List.mem_map_of_mem hq) p.1 (by simp)
    simpa using this.symm

end Lua

open Lua Text

namespace Script

/-! ## What the scripts assign -/

/-- The conversation, as the definition script makes it. -/
def Definition.object (d : Definition) : Expr := .make (.word "ConvoTemplate") "new" d.headFields

/-- The screen, as the definition script makes it. -/
def Block.object (b : Block) : Expr := .make (.word "ConvoScreen") "new" b.fields

/-- The handler, as the handler script makes it. -/
def handlerObject : Expr := .make (.word "conv_handler") "new" []

theorem assignments_definition (d : Definition) :
    assignments [] d.items =
      (conversationVariable d.template, d.object) :: d.blocks.map fun b => (b.name, b.object) := by
  have blocks (bs : List Block) :
      assignments [] (bs.flatMap (·.items d.template) ++ d.registrationItems) =
        bs.map fun b => (b.name, b.object) := by
    induction bs with
    | nil => rfl
    | cons b bs ih =>
      rw [List.flatMap_cons, List.append_assoc, List.map_cons, ← ih]
      rfl
  rw [← blocks]
  rfl

theorem assignments_handler (h : Handler) :
    assignments [] h.items = [(handlerVariable h.template, handlerObject)] := by
  have global : handlerVariable h.template ∉ ["QuestManager"] :=
    List.mem_singleton.not.mpr (handlerVariable_ne h.template)
  exact if_neg global

theorem conversationVariable_ne_handlerVariable (template : String) :
    conversationVariable template ≠ handlerVariable template := by
  intro h
  have ends : "_convo_template" = "_convo_handler" := (String.append_right_inj template).mp h
  exact absurd ends (by decide)

end Script

/-! ## Templates -/

namespace Template

open Script

/-- What loading the definition script of a template assigns: the conversation and its screens. -/
def conversationObjects (t : Template) : List (String × Expr) :=
  (conversationVariable t.name, t.definition.object) ::
    t.screens.map fun s => (s.name, (blockOf t s).object)

/-- What loading the handler script of a template assigns. -/
def handlerObjects (t : Template) : List (String × Expr) :=
  [(handlerVariable t.name, handlerObject)]

/-- No screen has the name of the variable of the conversation or of the handler. -/
def NamesApart (t : Template) : Prop :=
  ∀ s ∈ t.screens, s.name ≠ conversationVariable t.name ∧ s.name ≠ handlerVariable t.name

variable {t : Template}

theorem readScript_definitionScript (hname : isWordText t.name = true)
    (hscreens : ∀ s ∈ t.screens, isWordText s.name = true) :
    (readScript t.definitionScript).map (assignments []) = some t.conversationObjects := by
  have worded : t.definition.Worded := by
    refine ⟨⟨ne_empty_of_isBlank_eq_false t.wellFormed.name_not_blank, hname⟩, fun b hb => ?_⟩
    obtain ⟨s, hs, rfl⟩ := List.mem_map.mp hb
    exact ⟨ne_empty_of_isBlank_eq_false (t.wellFormed.screen_name_not_blank s hs), hscreens s hs⟩
  rw [definitionScript, readScript_render worded, Option.map_some, assignments_definition]
  simp [conversationObjects, Template.definition, Function.comp_def, blockOf]

theorem readScript_handlerScript (hname : isWordText t.name = true) (htriggers : t.TriggersWorded)
    (settings : Settings) :
    (readScript (t.handlerScript settings)).map (assignments []) = some t.handlerObjects := by
  rw [handlerScript, readScript_handler_render (worded_handler hname htriggers settings),
    Option.map_some, assignments_handler]
  rfl

theorem names_objects (t : Template) :
    (t.conversationObjects ++ t.handlerObjects).map (·.1) =
      conversationVariable t.name :: (t.screens.map (·.name) ++ [handlerVariable t.name]) := by
  simp [conversationObjects, handlerObjects, Function.comp_def]

theorem nodup_names_iff (t : Template) :
    ((t.conversationObjects ++ t.handlerObjects).map (·.1)).Nodup ↔ t.NamesApart := by
  have others := conversationVariable_ne_handlerVariable t.name
  rw [names_objects, List.nodup_cons, List.nodup_append]
  simp only [List.mem_append, List.mem_map, List.mem_singleton, NamesApart]
  constructor
  · rintro ⟨conversation, -, -, handler⟩ s hs
    exact ⟨fun same => conversation (.inl ⟨s, hs, same⟩), handler _ ⟨s, hs, rfl⟩ _ rfl⟩
  · intro apart
    refine ⟨?_, t.wellFormed.names_nodup, List.nodup_singleton _, ?_⟩
    · rintro (⟨s, hs, same⟩ | same)
      · exact (apart s hs).1 same
      · exact others same
    · rintro _ ⟨s, hs, rfl⟩ _ rfl
      exact (apart s hs).2

/-- The scripts make no object twice. -/
theorem nodup_objects (t : Template) : (t.conversationObjects ++ t.handlerObjects).Nodup := by
  have screens : (t.screens.map fun s => (s.name, (blockOf t s).object)).Nodup := by
    refine List.Nodup.of_map (·.1) ?_
    rw [List.map_map]
    exact t.wellFormed.names_nodup
  have conversation : (conversationVariable t.name, t.definition.object) ∉
      t.screens.map fun s => (s.name, (blockOf t s).object) := by
    simp [Block.object, Definition.object]
  have handler : ∀ p ∈ t.conversationObjects, p ≠ (handlerVariable t.name, handlerObject) := by
    simp [conversationObjects, Block.object, Definition.object, handlerObject]
  refine List.nodup_append.mpr ⟨List.nodup_cons.mpr ⟨conversation, screens⟩,
    List.nodup_singleton _, fun p hp q hq => ?_⟩
  obtain rfl := List.mem_singleton.mp hq
  exact handler p hp

/-- **When the global variables of the scripts are distinct.** The definition script assigns one to
the conversation and one to each screen, the handler script one to the handler, whatever its
triggers. They are pairwise distinct, and loading the scripts in either order overwrites none of
these objects, exactly if no screen has the name of the variable of the conversation or of the
handler. Validation does not ask for that. -/
theorem nodup_globals_iff (t : Template) (settings : Settings) (hname : isWordText t.name = true)
    (hscreens : ∀ s ∈ t.screens, isWordText s.name = true) :
    (readScript t.definitionScript).map (assignments []) = some t.conversationObjects ∧
      assignments [] (t.handler settings).items = t.handlerObjects ∧
      (t.TriggersWorded →
        (readScript (t.handlerScript settings)).map (assignments []) = some t.handlerObjects) ∧
      (t.conversationObjects ++ t.handlerObjects).map (·.1) =
        conversationVariable t.name :: (t.screens.map (·.name) ++ [handlerVariable t.name]) ∧
      (((t.conversationObjects ++ t.handlerObjects).map (·.1)).Nodup ↔ t.NamesApart) ∧
      (Kept (t.conversationObjects ++ t.handlerObjects) ↔ t.NamesApart) ∧
      (Kept (t.handlerObjects ++ t.conversationObjects) ↔ t.NamesApart) := by
  have swapped : (t.handlerObjects ++ t.conversationObjects).Perm
      (t.conversationObjects ++ t.handlerObjects) := List.perm_append_comm
  refine ⟨readScript_definitionScript hname hscreens, assignments_handler _,
    fun htriggers => readScript_handlerScript hname htriggers settings, t.names_objects,
    t.nodup_names_iff, ?_, ?_⟩
  · rw [kept_iff_nodup t.nodup_objects, nodup_names_iff]
  · rw [kept_iff_nodup (swapped.nodup_iff.mpr t.nodup_objects), (swapped.map _).nodup_iff,
      nodup_names_iff]

/-- A conversation and a screen with names that are nearly those of other variables. -/
def smithy : Template :=
  .ofDraft
    { name := "smithy"
      screens :=
        [{ id := ⟨1⟩, name := "smithy", text := "Shoes?"
           choices := [{ text := "Swords.", target := some ⟨2⟩ }] },
          { id := ⟨2⟩, name := "smithy_convo", text := "Mind the fire."
            trigger := QuestTrigger.of? "hasSword" "sword" none none }] }
    (by decide)

theorem nodup_globals_smithy :
    (readScript smithy.definitionScript).map (assignments []) = some smithy.conversationObjects ∧
      (readScript (smithy.handlerScript {})).map (assignments []) = some smithy.handlerObjects ∧
      Kept (smithy.conversationObjects ++ smithy.handlerObjects) := by
  have apart : smithy.NamesApart := by
    unfold NamesApart
    decide
  have triggers : smithy.TriggersWorded := by
    unfold TriggersWorded
    decide
  obtain ⟨definition, -, handler, -, -, kept, -⟩ :=
    nodup_globals_iff smithy {} (by decide) (by decide)
  exact ⟨definition, handler triggers, kept.mpr apart⟩

/-- A template, which validation accepts, with a screen of the name of its conversation. -/
def taproom : Template :=
  .ofDraft
    { name := "inn"
      screens := [{ id := ⟨1⟩, name := "inn_convo_template", text := "What will it be?" }] }
    (by decide)

/-- The scripts of the inn assign one variable twice, and the screen takes the place of the
conversation. -/
theorem not_nodup_globals_taproom :
    let made := taproom.conversationObjects ++ taproom.handlerObjects
    (readScript taproom.definitionScript).map (assignments []) =
        some taproom.conversationObjects ∧
      (readScript (taproom.handlerScript {})).map (assignments []) = some taproom.handlerObjects ∧
      made.map (·.1) = ["inn_convo_template", "inn_convo_template", "inn_convo_handler"] ∧
      ¬ (made.map (·.1)).Nodup ∧
      ∃ fields,
        valueAfter made "inn_convo_template" = some (.make (.word "ConvoScreen") "new" fields) := by
  have triggers : taproom.TriggersWorded := by
    unfold TriggersWorded
    decide
  have clash : ¬ taproom.NamesApart := by
    unfold NamesApart
    decide
  refine ⟨readScript_definitionScript (by decide) (by decide),
    readScript_handlerScript (by decide) triggers {}, rfl, ?_, _, rfl⟩
  rwa [nodup_names_iff]

end Template

end Dialogue
