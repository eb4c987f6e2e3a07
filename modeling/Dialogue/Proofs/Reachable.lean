import Dialogue.Localization.Mode
import Dialogue.Script.Pair
import Dialogue.Source

/-!
# Every arena that can be reached is sound

An arena is made from a draft, from a document, or by fetching from a source. It is worked on by
building it anew with other settings, by switching between literal and localized texts, and by
rebasing its references; of these only building checks the parts, the others take the index along
and change screens in place.

* `Arena.Made`, `Arena.Step`, `Arena.Reachable`: the arenas that any sequence of these operations
  leads to.

Results:
* `Arena.Made.sound`, `Arena.Step.sound`: what is made is sound, and a step keeps it so.
* `Arena.Reachable.sound`: hence every reachable arena is sound.
* **`Arena.Reachable.invariant`**: the parts of a reachable arena fit together, its index agrees
  with a scan and never leads astray, and compiling it does not fail.
-/

namespace Dialogue

open Text

/-! ## Sources give what they were given -/

namespace Catalog

theorem mem_of_mem_insert {c : Catalog} {s t : Template} (h : t ∈ (c.insert s).templates) :
    t = s ∨ t ∈ c.templates := by
  rcases List.mem_cons.mp h with rfl | h
  · exact Or.inl rfl
  · exact Or.inr ((List.mem_filter.mp h).1)

theorem mem_of_mem_foldl {t : Template} : ∀ {ts : List Template} {c : Catalog},
    t ∈ (ts.foldl insert c).templates → t ∈ ts ∨ t ∈ c.templates
  | [], _, h => Or.inr h
  | s :: ts, c, h => by
    rw [List.foldl_cons] at h
    rcases mem_of_mem_foldl h with h | h
    · exact Or.inl (List.mem_cons_of_mem s h)
    · rcases mem_of_mem_insert h with rfl | h
      · exact Or.inl List.mem_cons_self
      · exact Or.inr h

/-- What a catalog hands out has been put in. -/
theorem mem_of_fetch {ts : List Template} {id : TemplateId} {t : Template}
    (h : (Catalog.ofList ts).fetch id = .ok t) : t ∈ ts := by
  unfold fetch at h
  cases hg : (Catalog.ofList ts).get? id with
  | none => rw [hg] at h; cases h
  | some s =>
    rw [hg] at h
    cases h
    rcases mem_of_mem_foldl (List.mem_of_find?_eq_some hg) with h | h
    · exact h
    · cases h

end Catalog

/-- What a folder hands out has been assembled from the draft of a document. -/
theorem DocumentFolder.assemble_of_fetch {f : DocumentFolder} {id : TemplateId} {t : Template}
    (h : f.fetch id = .ok t) : ∃ draft : Draft, draft.assemble = .ok t.toArena := by
  unfold DocumentFolder.fetch at h
  cases hr : f.tree.readText (f.pathOf id) with
  | error cause => rw [hr] at h; cases cause <;> cases h
  | ok json =>
    rw [hr] at h
    unfold templateOfJson at h
    cases hd : Document.ofJson json with
    | error problem => simp [hd] at h
    | ok document =>
      have ht : ({ document with id := some id } : Document).toTemplate = .ok t := by
        cases hs : ({ document with id := some id } : Document).toTemplate with
        | error fault => simp [hd, hs] at h
        | ok s => simpa [hd, hs] using h
      obtain ⟨draft, -, hb⟩ := Document.toTemplate_eq_ok_iff.mp ht
      exact ⟨draft, Draft.build_eq_ok_iff_assemble.mp hb⟩

namespace Arena

/-! ## Runs of operations -/

/-- The arenas that come from drafts, documents and folders. -/
inductive Made : Arena → Prop
  /-- A name is given, then settings are made and screens declared. -/
  | drafted {a : Arena} (name : String) (edits : List Edit)
      (h : (Draft.editAll { name } edits).assemble = .ok a) : Made a
  /-- A document is converted. -/
  | described {a : Arena} {draft : Draft} (d : Document) (hd : d.toDraft = .ok draft)
      (h : draft.assemble = .ok a) : Made a
  /-- A document is fetched from a folder. -/
  | loaded {t : Template} (f : DocumentFolder) (id : TemplateId) (h : f.fetch id = .ok t) :
      Made t.toArena

/-- The operations on an arena. -/
inductive Step : Arena → Arena → Prop
  /-- The parts go back into a draft, which is edited and checked. -/
  | rebuild {a b : Arena} (edits : List Edit)
      (h : (a.toDraft.editAll edits).assemble = .ok b) : Step a b
  /-- Every text gets a reference. -/
  | localize {σ : Type} [KeyGenerator σ] (a : Arena) (keys : σ) : Step a (a.localize keys).1.1
  /-- Texts are taken from a table. -/
  | toLiteral (a : Arena) (table : StringTable) : Step a (a.toLiteral table)
  /-- References get another prefix. -/
  | rebase (a : Arena) (keyPrefix : String) : Step a (a.rebase keyPrefix)

/-- The arenas that a run of operations leads to. Arenas are also put into a catalog in any order
and fetched from it. -/
inductive Reachable : Arena → Prop
  | made {a : Arena} (h : a.Made) : Reachable a
  | step {a b : Arena} (ha : Reachable a) (h : Step a b) : Reachable b
  | fetched {ts : List Template} {id : TemplateId} {t : Template}
      (hs : ∀ s ∈ ts, Reachable s.toArena) (h : (Catalog.ofList ts).fetch id = .ok t) :
      Reachable t.toArena

variable {a b : Arena}

/-- What is made has been checked. -/
theorem Made.sound (h : a.Made) : a.Sound := by
  cases h with
  | drafted name edits h => exact (Draft.assemble_eq_ok_iff.mp h).2
  | described d _ h => exact (Draft.assemble_eq_ok_iff.mp h).2
  | loaded f id h =>
    obtain ⟨draft, hd⟩ := DocumentFolder.assemble_of_fetch h
    exact (Draft.assemble_eq_ok_iff.mp hd).2

/-- **A step keeps an arena sound.** Building checks again; the others change no outline. -/
theorem Step.sound (h : Step a b) (ha : a.Sound) : b.Sound := by
  cases h with
  | rebuild edits h => exact (Draft.assemble_eq_ok_iff.mp h).2
  | localize a keys => exact ha.localize keys
  | toLiteral a table => exact ha.toLiteral table
  | rebase a keyPrefix => exact ha.rebase keyPrefix

/-- **Every reachable arena is sound.** -/
theorem Reachable.sound (h : Reachable a) : a.Sound := by
  induction h with
  | made h => exact h.sound
  | step _ h ih => exact h.sound ih
  | fetched _ h ih => exact ih _ (Catalog.mem_of_fetch h)

/-- **The parts of a reachable arena fit together, its index agrees with a scan of the screens and
never leads out of the arena, and neither validation nor compilation fails.** -/
theorem Reachable.invariant (h : Reachable a) :
    a.WellFormed ∧
      (∀ s ∈ a.screens, ∀ t ∈ s.trigger, isBlank t.action = false ∧ isBlank t.reaction = false) ∧
      (∀ id, a.screen? id = a.screens.find? (·.id == id)) ∧
      (∀ id s, a.screen? id = some s ↔
        s ∈ a.screens ∧ s.id = id ∧ ∀ r ∈ a.screens, r.id = id → r = s) ∧
      (∀ id, a.screen? id = none ↔ ∀ s ∈ a.screens, s.id ≠ id) ∧
      (∀ id i, a.index.lookup id = some i → i < a.screens.length) ∧ 0 < a.screens.length ∧
      a.validate = .ok () ∧
      ∃ t : Template, t.toArena = a ∧ t.compileDefinition = .ok t.definitionScript ∧
        ∀ settings, t.compileHandler settings = .ok (t.handlerScript settings) ∧
          t.compile settings = .ok (t.scripts settings) := by
  have hs := h.sound
  refine ⟨hs.wellFormed, fun s hm t ht => ?_, hs.screen?_eq_find?, fun id s => ?_,
    fun id => hs.screen?_eq_none_iff, fun id i => hs.position_lt,
    List.length_pos_iff.mpr hs.wellFormed.screens_ne_nil, hs.validate_eq, ⟨a, hs⟩, rfl, ?_⟩
  · exact ⟨t.action_not_blank, hs.wellFormed.reaction_not_blank s hm t ht⟩
  · rw [hs.screen?_eq_some_iff]
    constructor
    · rintro ⟨hm, rfl⟩
      exact ⟨hm, rfl, fun r hr he => hs.wellFormed.eq_of_id_eq hr hm he⟩
    · rintro ⟨hm, hi, -⟩
      exact ⟨hm, hi⟩
  · exact ⟨Template.compileDefinition_eq _, fun settings =>
      ⟨Template.compileHandler_eq settings _, Template.compile_eq settings _⟩⟩

/-- A door that leads down to a cellar, which asks for a lamp. -/
def cellarEdits : List Edit :=
  [.screen { id := ⟨3⟩, name := "door", text := "Come in."
             choices := [{ text := "Down.", target := some ⟨7⟩ }] },
    .screen { id := ⟨7⟩, name := "cellar", text := "Dark."
              trigger := QuestTrigger.of? "hasLamp" "lamp" none none }]

/-- The cellar is found after its conversation has been localized and rebased. -/
theorem Reachable.invariant_cellar :
    ∃ a : Arena, Reachable a ∧ a.localized = true ∧ a.keyPrefix = "@inn/" ∧
      (a.screen? ⟨7⟩).map (·.name) = some "cellar" ∧ a.validate = .ok () := by
  have hd : (Draft.editAll { name := "inn" } cellarEdits).assemble =
      .ok ⟨Draft.editAll { name := "inn" } cellarEdits, [(⟨7⟩, 1), (⟨3⟩, 0)]⟩ := by rfl
  have hr := ((Reachable.made (.drafted "inn" cellarEdits hd)).step
    (.localize _ (⟨0⟩ : SequentialKeys))).step (.rebase _ "@inn/")
  obtain ⟨-, -, hscan, -, -, -, -, hvalid, -⟩ := hr.invariant
  refine ⟨_, hr, rfl, rfl, ?_, hvalid⟩
  rw [hscan]
  rfl

end Arena

end Dialogue
