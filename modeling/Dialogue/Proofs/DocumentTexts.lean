import Dialogue.CommandLine.Command
import Dialogue.Proofs.DocumentRoundTrip

/-!
# Texts of documents

A command takes the template that the text of its document describes, under the identifier in the
text. A folder gives it under the identifier in the name of the file. As nothing that is made from a
template depends on its identifier, the identifier in the text makes no difference.

* `Template.ofJson` is the template that a text describes, under the identifier in the text.

Results:
* `Command.planFor_withId`: no command looks at the identifier.
* **`templateOfJson_eq_ok_iff`**: where it is stored, a text describes the same template under the
  identifier of that place.
* **`Command.plan_eq_of_unnumbered`**, `templateOfJson_eq_of_unnumbered`: texts that differ in the
  identifier alone make the same plans, and describe the same templates where they are stored.
* `Command.run_of_readText`: what a command does whose document can be read.
-/

namespace Dialogue

open Storage

/-! ## Identifiers -/

/-- The template under another identifier. -/
def Template.withId (id : TemplateId) (t : Template) : Template :=
  ⟨{ t.toArena with id }, t.sound.of_outlines rfl rfl rfl⟩

namespace Template

variable (t : Template) (id : TemplateId)

@[simp] theorem definitionScript_withId : (t.withId id).definitionScript = t.definitionScript := rfl

@[simp] theorem handlerScript_withId (settings : Script.Settings) :
    (t.withId id).handlerScript settings = t.handlerScript settings := rfl

@[simp] theorem conversationTable_withId : (t.withId id).conversationTable = t.conversationTable :=
  rfl

@[simp] theorem taskTable_withId : (t.withId id).taskTable = t.taskTable := rfl

end Template

theorem Draft.build_withId (d : Draft) (id : TemplateId) :
    { d with id }.build = d.build.map (·.withId id) := by
  cases h : d.build with
  | error fault =>
    have fault?_eq : d.fault? = some fault := Draft.build_eq_error_iff.mp h
    exact Draft.build_eq_error_iff.mpr fault?_eq
  | ok t =>
    obtain rfl := Draft.build_eq_ok_iff.mp h
    exact Draft.build_eq_ok_iff.mpr rfl

theorem Document.toTemplate_withId (d : Document) (id : Option TemplateId) :
    { d with id }.toTemplate = d.toTemplate.map (·.withId (id.getD ⟨0⟩)) := by
  unfold Document.toTemplate Document.toDraft
  cases d.screens.mapM (·.toScreen) with
  | error fault => rfl
  | ok screens =>
    let draft : Draft :=
      { name := d.name
        id := d.id.getD ⟨0⟩
        localized := d.localized
        keyPrefix := d.keyPrefix
        initialScreen := d.initialScreen
        screens }
    exact draft.build_withId (id.getD ⟨0⟩)

/-- **No command looks at the identifier.** -/
theorem Command.planFor_withId (c : Command) (id : TemplateId) (t : Template) :
    c.planFor (t.withId id) = c.planFor t := by
  cases c <;> rfl

/-! ## Texts of documents -/

/-- The template that a text describes, under the identifier in the text. -/
def Template.ofJson (json : String) : Except Failure Template :=
  match Document.ofJson json with
  | .error problem => .error (.json problem)
  | .ok document => document.toTemplate.mapError .fault

theorem Template.ofJson_eq_ok_iff {json : String} {t : Template} :
    Template.ofJson json = .ok t ↔
      ∃ d, Document.ofJson json = .ok d ∧ d.toTemplate = .ok t := by
  unfold Template.ofJson
  cases Document.ofJson json with
  | error problem => simp
  | ok d => simp [mapError_eq_ok_iff]

/-- A template is described by the text that is written for it. -/
theorem Template.ofJson_toDocument (t : Template) :
    Template.ofJson t.toDocument.toJson = .ok t := by
  have read : Document.ofJson t.toDocument.toJson = .ok t.toDocument :=
    Json.Layout.parse_render t.toDocument.writes_layout
  exact Template.ofJson_eq_ok_iff.mpr ⟨t.toDocument, read, Document.toTemplate_toDocument t⟩

/-- **Where it is stored, a text describes the same template**, under the identifier of that
place. -/
theorem templateOfJson_eq_ok_iff {id : TemplateId} {json : String} {t : Template} :
    templateOfJson id json = .ok t ↔ ∃ s, Template.ofJson json = .ok s ∧ s.withId id = t := by
  simp only [Template.ofJson_eq_ok_iff]
  unfold templateOfJson
  cases Document.ofJson json with
  | error problem => simp
  | ok d =>
    simp only [Document.toTemplate_withId, Option.getD_some]
    cases ht : d.toTemplate <;> simp [Except.map, ht]

/-- The plan of a command depends on the template alone that its text describes. -/
theorem Command.plan_eq (c : Command) (json : String) :
    c.plan json = .of id (Template.ofJson json) c.planFor := by
  unfold Command.plan Template.ofJson
  cases Document.ofJson json with
  | error problem => rfl
  | ok d =>
    simp only [Plan.of]
    cases d.toTemplate <;> rfl

/-! ## Texts that differ in the identifier -/

/-- The document without its identifier. -/
def Document.unnumbered (d : Document) : Document := { d with id := none }

/-- Texts that differ in the identifier alone have the same problem, or documents that differ in the
identifier alone. -/
theorem Document.cases_of_unnumbered {first second : String}
    (h : (Document.ofJson first).map (·.unnumbered) = (Document.ofJson second).map (·.unnumbered)) :
    (∃ problem, Document.ofJson first = .error problem ∧ Document.ofJson second = .error problem) ∨
      ∃ (d : Document) (id : Option TemplateId),
        Document.ofJson first = .ok { d with id } ∧ Document.ofJson second = .ok d := by
  cases hf : Document.ofJson first with
  | error problem =>
    cases hs : Document.ofJson second with
    | error other =>
      rw [hf, hs] at h
      cases h
      exact .inl ⟨problem, rfl, rfl⟩
    | ok d => simp [hf, hs, Except.map] at h
  | ok e =>
    cases hs : Document.ofJson second with
    | error problem => simp [hf, hs, Except.map] at h
    | ok d =>
      have same : e.unnumbered = d.unnumbered := by simpa [hf, hs, Except.map] using h
      have renumbered : e = { d with id := e.id } :=
        congrArg (fun u : Document => { u with id := e.id }) same
      exact .inr ⟨d, e.id, congrArg _ renumbered, rfl⟩

/-- Texts that differ in the identifier alone describe the same template where they are stored. -/
theorem templateOfJson_eq_of_unnumbered {first second : String}
    (h : (Document.ofJson first).map (·.unnumbered) = (Document.ofJson second).map (·.unnumbered))
    (id : TemplateId) : templateOfJson id first = templateOfJson id second := by
  rcases Document.cases_of_unnumbered h with ⟨problem, hf, hs⟩ | ⟨d, other, hf, hs⟩
  · simp only [templateOfJson, hf, hs]
  · simp only [templateOfJson, hf, hs]

/-- **Texts that differ in the identifier alone make the same plans.** -/
theorem Command.plan_eq_of_unnumbered {first second : String}
    (h : (Document.ofJson first).map (·.unnumbered) = (Document.ofJson second).map (·.unnumbered))
    (c : Command) : c.plan first = c.plan second := by
  rcases Document.cases_of_unnumbered h with ⟨problem, hf, hs⟩ | ⟨d, other, hf, hs⟩
  · simp only [Command.plan, hf, hs]
  · simp only [Command.plan, hf, hs, Plan.of, Document.toTemplate_withId]
    cases d.toTemplate with
    | error fault => rfl
    | ok t => exact c.planFor_withId _ t

namespace Command

/-- What a command does whose document can be read. -/
theorem run_of_readText {tree : FileTree} {c : Command} {json : String}
    (h : tree.readText c.document = .ok json) :
    c.run tree =
      match Template.ofJson json with
      | .error cause => { tree, failure := some cause }
      | .ok t => (c.planFor t).perform tree := by
  rw [run, h]
  simp only [plan_eq]
  cases Template.ofJson json <;> rfl

end Command

end Dialogue
