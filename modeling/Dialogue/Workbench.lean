import Dialogue.Localization.Rows
import Dialogue.Script.Pair
import Dialogue.Source
import Dialogue.StringTable.Encoding

/-!
# Workbenches

A workbench fetches a template from its source and compiles it. Each task fetches once, and
everything it makes comes from that one template.

Results:
* `Workbench.task_eq_ok_iff`: a task succeeds exactly when the source gives a template from which
  the result can be made; `definitionScript_eq_ok_iff` and its like say what that result is.
* `Workbench.fails_of_fetch`: without a template, all tasks fail for the reason that the source
  gives.
-/

namespace Dialogue

/-- Why a task of a workbench failed. -/
inductive WorkbenchError where
  /-- The source gave no template. -/
  | source (cause : SourceError)
  /-- The template has a fault. -/
  | fault (cause : Fault)
  /-- The template does not yield the rows of a string table. -/
  | localization (cause : LocalizationError)
  /-- The string table has no binary form. -/
  | encoding (cause : EncodingError)
  deriving DecidableEq, Repr

/-- The message for an error of a workbench. -/
def WorkbenchError.message : WorkbenchError → String
  | .source cause => cause.message
  | .fault cause => cause.message
  | .localization cause => cause.message
  | .encoding cause => cause.message

/-- A source of templates and how to compile them. -/
structure Workbench where
  /-- Fetches a template. -/
  source : TemplateId → Except SourceError Template
  /-- What handler scripts are told besides the template. -/
  settings : Script.Settings := {}

/-- The string table of a template's texts. -/
def Template.conversationTable (t : Template) : Except LocalizationError StringTable :=
  t.conversationRows.map fun rows => ⟨rows⟩

/-- The string table of a template's journal. -/
def Template.taskTable (t : Template) : StringTable := ⟨t.taskRows⟩

theorem mapError_eq_ok_iff {ε δ α : Type} {f : ε → δ} {result : Except ε α} {a : α} :
    result.mapError f = .ok a ↔ result = .ok a := by
  cases result with
  | error cause => exact ⟨nofun, nofun⟩
  | ok value => exact ⟨fun h => congrArg _ (Except.ok.inj h), fun h => congrArg _ (Except.ok.inj h)⟩

namespace Workbench

/-- Fetches a template. -/
def fetch (w : Workbench) (id : TemplateId) : Except WorkbenchError Template :=
  (w.source id).mapError .source

/-- The definition script of a template. -/
def definitionScript (w : Workbench) (id : TemplateId) : Except WorkbenchError String := do
  let t ← w.fetch id
  t.compileDefinition.mapError .fault

/-- The handler script of a template. -/
def handlerScript (w : Workbench) (id : TemplateId) : Except WorkbenchError String := do
  let t ← w.fetch id
  (t.compileHandler w.settings).mapError .fault

/-- Both scripts of a template. -/
def scripts (w : Workbench) (id : TemplateId) : Except WorkbenchError Scripts := do
  let t ← w.fetch id
  (t.compile w.settings).mapError .fault

/-- The binary form of the string table of a template's texts. -/
def stringTable (w : Workbench) (id : TemplateId) : Except WorkbenchError (List UInt8) := do
  let t ← w.fetch id
  let table ← t.conversationTable.mapError .localization
  table.encode.mapError .encoding

/-- The binary form of the string table of a template's journal. -/
def taskTable (w : Workbench) (id : TemplateId) : Except WorkbenchError (List UInt8) := do
  let t ← w.fetch id
  t.taskTable.encode.mapError .encoding

/-- Fetching a template and all tasks on it fail for the same reason. -/
structure Fails (w : Workbench) (id : TemplateId) (cause : WorkbenchError) : Prop where
  /-- There is no template. -/
  fetch : w.fetch id = .error cause
  /-- There is no definition script. -/
  definitionScript : w.definitionScript id = .error cause
  /-- There is no handler script. -/
  handlerScript : w.handlerScript id = .error cause
  /-- There are no scripts. -/
  scripts : w.scripts id = .error cause
  /-- There is no string table of the template's texts. -/
  stringTable : w.stringTable id = .error cause
  /-- There is no string table of the template's journal. -/
  taskTable : w.taskTable id = .error cause

section Results

variable {w : Workbench} {id : TemplateId}

/-- A task succeeds exactly when the source gives a template and the result can be made from it. -/
theorem task_eq_ok_iff {α : Type} {make : Template → Except WorkbenchError α} {a : α} :
    (w.fetch id).bind make = .ok a ↔ ∃ t, w.source id = .ok t ∧ make t = .ok a := by
  have fetched (t : Template) : w.fetch id = .ok t ↔ w.source id = .ok t := mapError_eq_ok_iff
  simp only [← fetched]
  cases w.fetch id <;> simp [Except.bind]

theorem definitionScript_eq_ok_iff {script : String} :
    w.definitionScript id = .ok script ↔
      ∃ t, w.source id = .ok t ∧ t.definitionScript = script := by
  refine task_eq_ok_iff.trans ?_
  simp [mapError_eq_ok_iff]

theorem handlerScript_eq_ok_iff {script : String} :
    w.handlerScript id = .ok script ↔
      ∃ t, w.source id = .ok t ∧ t.handlerScript w.settings = script := by
  refine task_eq_ok_iff.trans ?_
  simp [mapError_eq_ok_iff]

theorem stringTable_eq_ok_iff {bytes : List UInt8} :
    w.stringTable id = .ok bytes ↔ ∃ t, w.source id = .ok t ∧
      ∃ table, t.conversationTable = .ok table ∧ table.encode = .ok bytes := by
  refine task_eq_ok_iff.trans (exists_congr fun t => ?_)
  cases t.conversationTable with
  | error cause => exact and_congr_right fun _ => ⟨nofun, nofun⟩
  | ok table =>
    have encoded : table.encode.mapError WorkbenchError.encoding = .ok bytes ↔
        ∃ other, (.ok table : Except LocalizationError StringTable) = .ok other ∧
          other.encode = .ok bytes := by
      simp [mapError_eq_ok_iff]
    exact and_congr_right fun _ => encoded

theorem taskTable_eq_ok_iff {bytes : List UInt8} :
    w.taskTable id = .ok bytes ↔
      ∃ t, w.source id = .ok t ∧ t.taskTable.encode = .ok bytes := by
  refine task_eq_ok_iff.trans ?_
  simp only [mapError_eq_ok_iff]

/-- **Without a template, all tasks fail for the reason that the source gives.** -/
theorem fails_of_fetch {cause : WorkbenchError} (h : w.fetch id = .error cause) :
    w.Fails id cause := by
  have task {α : Type} (make : Template → Except WorkbenchError α) :
      (w.fetch id).bind make = .error cause := by
    rw [h]
    rfl
  exact ⟨h, task _, task _, task _, task _, task _⟩

end Results

end Workbench

end Dialogue
