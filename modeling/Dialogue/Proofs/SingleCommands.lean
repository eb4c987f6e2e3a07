import Dialogue.Proofs.Arguments
import Dialogue.Proofs.DocumentTexts
import Dialogue.Proofs.Plans
import Dialogue.Workbench

/-!
# Commands and tasks agree

A command for a single file reads a document and prints or writes what is made from it. A task of a
workbench over the folder of the document gives the same, although the two find the template's
identifier in different places and report failures in different ways.

* `Artifact` are the files that are made from a template, each with its content and its command.
* `CommandLine.Report.Prints`, `CommandLine.Report.Writes`: a run shows what a task gives.

Results:
* `Artifact.run_command`: a command for one file makes its content, writes and reports it.
* **`CommandLine.writes_run`**: it writes what its document makes, or fails.
* **`DocumentFolder.run_eq_workbench`**: what runs of the program and tasks of a workbench have in
  common.
-/

namespace Dialogue

open CommandLine Storage

/-! ## What single commands write -/

/-- The files that are made from a template. -/
inductive Artifact where
  /-- The definition script. -/
  | definition
  /-- The handler script. -/
  | handler
  /-- The string table of the texts. -/
  | table
  /-- The string table of the journal. -/
  | tasks
  deriving DecidableEq, Repr

namespace Artifact

/-- The command that writes one file. -/
def command (document output : String) : Artifact → Command
  | definition => .definition document (some output)
  | handler => .handler document (some output) "has"
  | table => .table document (some output)
  | tasks => .tasks document (some output)

/-- What is written for a template. -/
def content (t : Template) : Artifact → Except Failure ByteArray
  | definition => .ok t.definitionScript.toUTF8
  | handler => .ok (t.handlerScript {}).toUTF8
  | table =>
    (t.conversationTable.mapError .localization).bind fun table =>
      (table.encode.mapError .encoding).map (·.toByteArray)
  | tasks => (t.taskTable.encode.mapError .encoding).map (·.toByteArray)

/-- What is written for the text of a document. -/
def contentOf (json : String) (a : Artifact) : Except Failure ByteArray :=
  (Template.ofJson json).bind a.content

theorem contentOf_eq_ok_iff {json : String} {a : Artifact} {bytes : ByteArray} :
    a.contentOf json = .ok bytes ↔ ∃ t, Template.ofJson json = .ok t ∧ a.content t = .ok bytes := by
  rw [contentOf]
  cases Template.ofJson json <;> simp [Except.bind]

theorem content_table_eq_ok_iff {t : Template} {bytes : ByteArray} :
    table.content t = .ok bytes ↔ ∃ rows encoded, t.conversationTable = .ok rows ∧
      rows.encode = .ok encoded ∧ encoded.toByteArray = bytes := by
  rw [content]
  cases t.conversationTable with
  | error cause => exact ⟨nofun, nofun⟩
  | ok rows =>
    have encoded : (rows.encode.mapError Failure.encoding).map (·.toByteArray) = .ok bytes ↔ _ :=
      map_eq_ok_iff
    exact encoded.trans (by simp [mapError_eq_ok_iff])

theorem content_tasks_eq_ok_iff {t : Template} {bytes : ByteArray} :
    tasks.content t = .ok bytes ↔
      ∃ encoded, t.taskTable.encode = .ok encoded ∧ encoded.toByteArray = bytes := by
  simp only [content, map_eq_ok_iff, mapError_eq_ok_iff]

theorem document_command (a : Artifact) (document output : String) :
    (a.command document output).document = document := by
  cases a <;> rfl

/-- A file is written and then reported, or the run fails. -/
def outcome (tree : FileTree) (output report : String) (wrap : OsError → Failure)
    (content : Except Failure ByteArray) : Outcome :=
  match content with
  | .error cause => { tree, failure := some cause }
  | .ok content =>
    match tree.write output content with
    | .error cause => { tree, failure := some (wrap cause) }
    | .ok after => { tree := after, printed := report }

theorem perform_of_stores {action : Action} {output : String} {content : ByteArray}
    {wrap : OsError → Failure} (h : action.Stores output content wrap) (tree : FileTree)
    (report : String) :
    Plan.perform tree { actions := [action, .print report] } =
      outcome tree output report wrap (.ok content) := by
  have start : (⟨tree, "", none⟩ : Outcome).failure = none := rfl
  simp only [Plan.perform, performAll_of_stores h start, outcome]
  cases tree.write output content with
  | error cause => rfl
  | ok after => simp [performAll, Action.perform]

theorem perform_scriptPlan (tree : FileTree) (output script : String) :
    (scriptPlan (some output) script).perform tree =
      outcome tree output (wrote output) .writing (.ok script.toUTF8) :=
  perform_of_stores (Action.stores_writeScript output script) tree (wrote output)

theorem perform_tablePlan (tree : FileTree) (output report : String) (table : StringTable) :
    (tablePlan output report table).perform tree =
      outcome tree output report (.encoding <| .io ·)
        ((table.encode.mapError .encoding).map (·.toByteArray)) := by
  unfold tablePlan StringTable.savePlan
  cases table.encode with
  | error cause => rfl
  | ok bytes => exact perform_of_stores (Action.stores_writeTable output bytes) tree report

/-- A command for one file makes its content and writes it. -/
theorem perform_planFor (a : Artifact) (t : Template) (tree : FileTree) (document output : String) :
    ∃ report wrap, ((a.command document output).planFor t).perform tree =
      outcome tree output report wrap (a.content t) := by
  cases a with
  | definition =>
    refine ⟨wrote output, .writing, ?_⟩
    rw [command, Command.planFor, Template.compileDefinition_eq]
    exact perform_scriptPlan tree output t.definitionScript
  | handler =>
    refine ⟨wrote output, .writing, ?_⟩
    rw [command, Command.planFor, Template.compileHandler_eq]
    exact perform_scriptPlan tree output (t.handlerScript {})
  | table =>
    rw [command, Command.planFor, content]
    cases t.conversationTable with
    | error cause => exact ⟨"", .writing, rfl⟩
    | ok table => exact ⟨_, _, perform_tablePlan tree output (wroteStrings table.size output) table⟩
  | tasks => exact ⟨_, _, perform_tablePlan tree output _ t.taskTable⟩

theorem run_command {tree : FileTree} {document json : String}
    (h : tree.readText document = .ok json) (a : Artifact) (output : String) :
    ∃ report wrap, (a.command document output).run tree =
      outcome tree output report wrap (a.contentOf json) := by
  rw [Command.run_of_readText (by rw [document_command]; exact h), contentOf]
  cases Template.ofJson json with
  | error cause => exact ⟨"", .writing, rfl⟩
  | ok t => exact a.perform_planFor t tree document output

end Artifact

/-! ## What runs show -/

/-- Every content can be written at the path. -/
def Storage.FileTree.IsWritable (tree : FileTree) (path : String) : Prop :=
  ∀ content, ∃ after, tree.write path content = .ok after

theorem Storage.FileTree.isWritable_iff {tree : FileTree} {path : String} :
    tree.IsWritable path ↔ ∃ place, tree.slot path = .ok place := by
  unfold IsWritable
  simp only [write_eq, map_eq_ok_iff]
  exact ⟨fun h => (h .empty).elim fun _ ⟨place, slot, _⟩ => ⟨place, slot⟩,
    fun ⟨place, slot⟩ content => ⟨_, place, slot, rfl⟩⟩

namespace CommandLine

/-- A run prints what a task gives, and fails if the task does. -/
def Report.Prints {ε : Type} (r : Report) (result : Except ε String) : Prop :=
  (∀ text, r.exitCode = 0 ∧ r.printed = text ↔ result = .ok text) ∧
    ((∀ text, result ≠ .ok text) → r.exitCode = 1)

/-- A run writes what a task gives to a path if files can be written there, and fails if they cannot
or if the task does. -/
def Report.Writes {ε : Type} (r : Report) (tree : FileTree) (output : String)
    (result : Except ε ByteArray) : Prop :=
  (tree.IsWritable output →
      ∀ bytes, r.exitCode = 0 ∧ r.tree.read output = .ok bytes ↔ result = .ok bytes) ∧
    (¬ tree.IsWritable output ∨ (∀ bytes, result ≠ .ok bytes) → r.exitCode = 1)

theorem Report.Prints.congr {ε δ : Type} {r : Report} {result : Except ε String}
    {other : Except δ String} (h : r.Prints result)
    (same : ∀ text, result = .ok text ↔ other = .ok text) : r.Prints other := by
  simpa only [Prints, ne_eq, same] using h

theorem Report.Writes.congr {ε δ : Type} {r : Report} {tree : FileTree} {output : String}
    {result : Except ε ByteArray} {other : Except δ ByteArray} (h : r.Writes tree output result)
    (same : ∀ bytes, result = .ok bytes ↔ other = .ok bytes) : r.Writes tree output other := by
  simpa only [Writes, ne_eq, same] using h

theorem Report.Writes.exitCode_eq_zero_iff {ε : Type} {r : Report} {tree : FileTree}
    {output : String} {result : Except ε ByteArray} (h : r.Writes tree output result)
    (writable : tree.IsWritable output) : r.exitCode = 0 ↔ ∃ bytes, result = .ok bytes := by
  constructor
  · intro exit
    cases result with
    | ok bytes => exact ⟨bytes, rfl⟩
    | error cause =>
      have : r.exitCode = 1 := h.2 (.inr (by simp))
      omega
  · rintro ⟨bytes, hbytes⟩
    exact ((h.1 writable bytes).mpr hbytes).1

section Runs

variable {tree : FileTree} {document json : String} {arguments : List String}

/-- A command without an output prints the script that its document makes. -/
theorem prints_run {c : Command} {script : Template → String}
    (plan : ∀ t, c.planFor t = { actions := [.print (script t)] })
    (stored : tree.readText c.document = .ok json) (asked : AsksFor arguments c) :
    (run arguments tree).Prints ((Template.ofJson json).map script) := by
  rw [run_of_asksFor asked, Command.run_of_readText stored]
  cases Template.ofJson json with
  | error cause => simp [Except.map, reportOf, Report.Prints]
  | ok t =>
    simp [Except.map, plan, Plan.perform, performAll, Action.perform, reportOf, Report.Prints]

/-- **A command for one file writes what its document makes.** -/
theorem writes_run {output : String} {a : Artifact} (stored : tree.readText document = .ok json)
    (asked : AsksFor arguments (a.command document output)) :
    (run arguments tree).Writes tree output (a.contentOf json) := by
  obtain ⟨report, wrap, h⟩ := a.run_command stored output
  rw [run_of_asksFor asked, h]
  cases a.contentOf json with
  | error cause => simp [Artifact.outcome, reportOf, Report.Writes]
  | ok content =>
    cases slot : tree.slot output with
    | error cause =>
      have refused : ¬ tree.IsWritable output := by simp [FileTree.isWritable_iff, slot]
      simp [Artifact.outcome, FileTree.write_eq, slot, Except.map, reportOf, Report.Writes, refused]
    | ok place =>
      have writable : tree.IsWritable output := FileTree.isWritable_iff.mpr ⟨place, slot⟩
      simp [Artifact.outcome, FileTree.write_eq, slot, Except.map, reportOf, Report.Writes,
        writable, FileTree.read_put_slot slot]

end Runs

end CommandLine

/-! ## Commands and tasks -/

namespace DocumentFolder

variable {f : DocumentFolder} {id : TemplateId} {json : String}

theorem fetch_of_readText (stored : f.tree.readText (f.pathOf id) = .ok json) :
    f.fetch id = templateOfJson id json := by
  unfold fetch
  split <;> simp_all

/-- A template is fetched if the text of the document describes one. -/
theorem exists_fetch_iff (stored : f.tree.readText (f.pathOf id) = .ok json)
    {p : Template → Prop} :
    (∃ t, f.fetch id = .ok t ∧ p t) ↔ ∃ t, Template.ofJson json = .ok t ∧ p (t.withId id) := by
  rw [fetch_of_readText stored]
  simp only [templateOfJson_eq_ok_iff]
  exact ⟨fun ⟨_, ⟨t, ht, same⟩, hp⟩ => ⟨t, ht, same ▸ hp⟩, fun ⟨t, ht, hp⟩ => ⟨_, ⟨t, ht, rfl⟩, hp⟩⟩

/-- **The commands for single files agree with the tasks of a workbench** over the folder in which
their document is stored. They print and write what the tasks give, and fail when the tasks do or
when their file cannot be written. The identifier in the document makes no difference to either. -/
theorem run_eq_workbench (stored : f.tree.readText (f.pathOf id) = .ok json)
    (probePrefix output : String) :
    let bench : Workbench := ⟨f.fetch, { probePrefix }⟩
    let document := f.pathOf id
    (∀ arguments, AsksFor arguments (.definition document none) →
      (run arguments f.tree).Prints (bench.definitionScript id)) ∧
    (∀ arguments, AsksFor arguments (.handler document none probePrefix) →
      (run arguments f.tree).Prints (bench.handlerScript id)) ∧
    (∀ arguments, AsksFor arguments (.table document (some output)) →
      (run arguments f.tree).Writes f.tree output
        ((bench.stringTable id).map (·.toByteArray))) ∧
    (∀ arguments, AsksFor arguments (.tasks document (some output)) →
      (run arguments f.tree).Writes f.tree output
        ((bench.taskTable id).map (·.toByteArray))) ∧
    ∀ other,
      (Document.ofJson other).map (·.unnumbered) = (Document.ofJson json).map (·.unnumbered) →
      (∀ g : DocumentFolder, g.tree.readText (g.pathOf id) = .ok other → g.fetch id = f.fetch id) ∧
        ∀ c : Command, c.plan other = c.plan json := by
  intro bench document
  -- Failures need no comparing: a run that shows the successes of a task shows its failures.
  refine ⟨fun arguments asked => ?_, fun arguments asked => ?_, fun arguments asked => ?_,
    fun arguments asked => ?_,
    fun other same => ⟨fun g hg => ?_, Command.plan_eq_of_unnumbered same⟩⟩
  · have plan (t : Template) : (Command.definition document none).planFor t =
        { actions := [.print t.definitionScript] } := by
      rw [Command.planFor, Template.compileDefinition_eq]
      rfl
    refine (prints_run plan stored asked).congr fun text => ?_
    simp [Workbench.definitionScript_eq_ok_iff, map_eq_ok_iff, bench, exists_fetch_iff stored]
  · have plan (t : Template) : (Command.handler document none probePrefix).planFor t =
        { actions := [.print (t.handlerScript { probePrefix })] } := by
      rw [Command.planFor, Template.compileHandler_eq]
      rfl
    refine (prints_run plan stored asked).congr fun text => ?_
    simp [Workbench.handlerScript_eq_ok_iff, map_eq_ok_iff, bench, exists_fetch_iff stored]
  · refine (writes_run (a := .table) stored asked).congr fun bytes => ?_
    simp only [Artifact.contentOf_eq_ok_iff, Artifact.content_table_eq_ok_iff, map_eq_ok_iff,
      Workbench.stringTable_eq_ok_iff, bench, exists_fetch_iff stored,
      Template.conversationTable_withId]
    exact ⟨fun ⟨t, ht, table, encoded, htable, h, he⟩ => ⟨encoded, ⟨t, ht, table, htable, h⟩, he⟩,
      fun ⟨encoded, ⟨t, ht, table, htable, h⟩, he⟩ => ⟨t, ht, table, encoded, htable, h, he⟩⟩
  · refine (writes_run (a := .tasks) stored asked).congr fun bytes => ?_
    simp only [Artifact.contentOf_eq_ok_iff, Artifact.content_tasks_eq_ok_iff, map_eq_ok_iff,
      Workbench.taskTable_eq_ok_iff, bench, exists_fetch_iff stored, Template.taskTable_withId]
    exact ⟨fun ⟨t, ht, encoded, h, he⟩ => ⟨encoded, ⟨t, ht, h⟩, he⟩,
      fun ⟨encoded, ⟨t, ht, h⟩, he⟩ => ⟨t, ht, encoded, h, he⟩⟩
  · rw [fetch_of_readText hg, fetch_of_readText stored, templateOfJson_eq_of_unnumbered same]

/-- A harbor with a task, shown as it is. -/
def harbor : Template :=
  .ofDraft
    { name := "harbor"
      id := ⟨7⟩
      screens :=
        [{ id := ⟨1⟩, name := "pier", text := "Sail?"
           trigger := QuestTrigger.of? "activateTask" "harbor" (some "Sail") none }] }
    (by decide)

/-- A folder with the document of the harbor, in a file that is named for another identifier. -/
def berth : DocumentFolder :=
  ⟨((FileTree.empty ["srv"]).put ["srv", "templates"] .folder).put ["srv", "templates", "8.json"]
    (.file harbor.toDocument.toJson.toUTF8), "templates"⟩

/-- What runs show for the harbor, whose texts have no references. -/
theorem run_eq_workbench_berth :
    let lua := run ["lua", "templates/8.json"] berth.tree
    let handler := run ["handler", "--probe-prefix=activate", "templates/8.json"] berth.tree
    let table := run ["stf", "templates/8.json", "-o", "harbor.stf"] berth.tree
    let tasks := run ["task-stf", "-oharbor.stf", "templates/8.json"] berth.tree
    (lua.exitCode = 0 ∧ lua.printed = harbor.definitionScript) ∧
      (handler.exitCode = 0 ∧
        handler.printed = harbor.handlerScript { probePrefix := "activate" }) ∧
      table.exitCode = 1 ∧
      ∃ bytes, harbor.taskTable.encode = .ok bytes ∧
        tasks.exitCode = 0 ∧ tasks.tree.read "harbor.stf" = .ok bytes.toByteArray := by
  have stored : berth.tree.readText (berth.pathOf ⟨8⟩) = .ok harbor.toDocument.toJson :=
    FileTree.readText_put_slot (by decide) _
  have fetched : berth.fetch ⟨8⟩ = .ok (harbor.withId ⟨8⟩) := by
    rw [fetch_of_readText stored]
    exact templateOfJson_eq_ok_iff.mpr ⟨harbor, Template.ofJson_toDocument harbor, rfl⟩
  have writable : berth.tree.IsWritable "harbor.stf" :=
    FileTree.isWritable_iff.mpr ⟨["srv", "harbor.stf"], by decide⟩
  obtain ⟨bytes, encoded⟩ : ∃ bytes, harbor.taskTable.encode = .ok bytes := by
    have : harbor.taskTable.encode.toOption.isSome = true := by decide
    cases h : harbor.taskTable.encode with
    | error cause => simp [h, Except.toOption] at this
    | ok bytes => exact ⟨bytes, rfl⟩
  obtain ⟨lua, handler, table, tasks, -⟩ := run_eq_workbench stored "activate" "harbor.stf"
  refine ⟨?_, ?_, ?_, bytes, encoded, ?_⟩
  · refine ((lua ["lua", "templates/8.json"] rfl).1 _).mpr ?_
    simp only [Workbench.definitionScript_eq_ok_iff]
    exact ⟨_, fetched, harbor.definitionScript_withId _⟩
  · refine ((handler ["handler", "--probe-prefix=activate", "templates/8.json"] rfl).1 _).mpr ?_
    simp only [Workbench.handlerScript_eq_ok_iff]
    exact ⟨_, fetched, harbor.handlerScript_withId _ _⟩
  · refine (table ["stf", "templates/8.json", "-o", "harbor.stf"] rfl).2 (.inr fun bytes => ?_)
    simp only [ne_eq, map_eq_ok_iff, Workbench.stringTable_eq_ok_iff, fetched]
    have refused : (harbor.withId ⟨8⟩).conversationTable = .error (.notLocalized "harbor") := rfl
    rintro ⟨_, ⟨_, ⟨⟩, rows, hrows, -⟩, -⟩
    rw [refused] at hrows
    cases hrows
  · refine ((tasks ["task-stf", "-oharbor.stf", "templates/8.json"] rfl).1 writable _).mpr ?_
    simp only [map_eq_ok_iff, Workbench.taskTable_eq_ok_iff]
    exact ⟨bytes, ⟨_, fetched, encoded⟩, rfl⟩

end DocumentFolder

end Dialogue
