import Dialogue.Proofs.SingleCommands

/-!
# Making everything

The command for everything writes into one folder what the commands for single files write, each
file under a name of its own. It leaves out the string table of the texts if they are shown as they
are, and that of the journal if there are no tasks.

* `Artifact.file` is the name of a file, and `Artifact.isMade` says whether it is made for a
  template.
* `Usable`: a template's name can be part of the names of files.

Results:
* `Artifact.file_injective`: no two files of a template coincide.
* `failure_everythingPlan`: making everything goes wrong if one of the files cannot be made.
* `makes_everythingPlan`: otherwise it writes them one after the other.
* **`run_everything`**: making everything is the sum of the commands for single files.
-/

namespace Dialogue

open CommandLine Storage

/-! ## The files of a template -/

namespace Artifact

/-- What ends the name of the file. -/
def suffix : Artifact → String
  | definition => "_conv.lua"
  | handler => "_conv_handler.lua"
  | table => ".stf"
  | tasks => "_tasks.stf"

/-- The file for a template with the given name. -/
def file (name : String) (a : Artifact) : String := name ++ a.suffix

/-- **No two files of a template coincide.** -/
theorem file_injective (name : String) : Function.Injective (file name) := by
  intro a b h
  have same : a.suffix = b.suffix := (String.append_right_inj name).mp h
  revert same
  cases a <;> cases b <;> decide

/-- The file is made for a template: scripts always, the table of the texts if they are shown by
references, and the table of the journal if a trigger activates a task. -/
def isMade (t : Template) : Artifact → Bool
  | definition | handler => true
  | table => t.localized
  | tasks => t.screens.any fun s => s.trigger.any (·.action == "activateTask")

/-- The artifacts in the order in which they are written. -/
def all : List Artifact := [definition, handler, table, tasks]

theorem mem_all (a : Artifact) : a ∈ all := by
  cases a <;> decide

theorem nodup_all : all.Nodup := by
  decide

/-- What is written for a template if it can be made. -/
def bytes (t : Template) (a : Artifact) : ByteArray := (a.content t).toOption.getD .empty

theorem content_eq_ok_bytes {t : Template} {a : Artifact} (h : ∃ bytes, a.content t = .ok bytes) :
    a.content t = .ok (a.bytes t) := by
  obtain ⟨bytes, h⟩ := h
  rw [Artifact.bytes, h]
  rfl

/-- The files for a template, with the given contents. -/
def files (t : Template) (contents : Artifact → ByteArray) : List (String × ByteArray) :=
  (all.filter (·.isMade t)).map fun a => (a.file t.name, contents a)

/-- The scripts are always made. -/
theorem files_eq (t : Template) (contents : Artifact → ByteArray) :
    files t contents =
      [(definition.file t.name, contents definition), (handler.file t.name, contents handler)] ++
        (([table].filter (·.isMade t)).map (fun a => (a.file t.name, contents a)) ++
          ([tasks].filter (·.isMade t)).map fun a => (a.file t.name, contents a)) := by
  have parts : all.filter (·.isMade t) =
      [definition, handler] ++ ([table].filter (·.isMade t) ++ [tasks].filter (·.isMade t)) := by
    rw [← List.filter_append]
    rfl
  rw [files, parts, List.map_append, List.map_append]
  rfl

theorem mem_files {t : Template} {contents : Artifact → ByteArray} {file : String × ByteArray} :
    file ∈ files t contents ↔
      ∃ a : Artifact, a.isMade t = true ∧ file = (a.file t.name, contents a) := by
  simp only [files, List.mem_map, List.mem_filter, mem_all, true_and, eq_comm (a := file)]

theorem nodup_files (t : Template) (contents : Artifact → ByteArray) :
    ((files t contents).map (·.1)).Nodup := by
  have distinct : (all.filter (·.isMade t)).Nodup := List.Pairwise.filter _ nodup_all
  rw [files, List.map_map]
  exact List.Pairwise.map _ (fun a b hne same => hne (file_injective t.name same)) distinct

end Artifact

theorem Template.isEmpty_taskTable (t : Template) :
    t.taskTable.isEmpty = ! Artifact.tasks.isMade t := by
  have rows : t.taskTable.isEmpty = t.taskTriggers.isEmpty := by
    unfold taskTable taskRows StringTable.isEmpty
    cases t.taskTriggers with
    | nil => rfl
    | cons trigger rest => simp [journalRows]
  have none : t.taskTriggers.isEmpty = true ↔ Artifact.tasks.isMade t = false := by
    simp only [taskTriggers, taskAction, Artifact.isMade, List.isEmpty_iff, List.filter_eq_nil_iff,
      List.mem_filterMap, List.any_eq_false]
    constructor
    · intro h s hs
      cases ht : s.trigger with
      | none => simp
      | some trigger => simpa using h trigger ⟨s, hs, ht⟩
    · rintro h trigger ⟨s, hs, ht⟩
      simpa [ht] using h s hs
  rw [rows, Bool.eq_iff_iff, none, Bool.not_eq_true']

theorem Artifact.exists_content_of_not_isMade {t : Template} {a : Artifact}
    (h : a.isMade t = false) (hne : a ≠ .table) : ∃ bytes, a.content t = .ok bytes := by
  cases a with
  | definition => exact ⟨_, rfl⟩
  | handler => exact ⟨_, rfl⟩
  | table => exact absurd rfl hne
  | tasks =>
    have none : t.taskTable.isEmpty = true := by rw [t.isEmpty_taskTable, h]; rfl
    have empty : t.taskTable = ⟨[]⟩ :=
      congrArg StringTable.mk (List.isEmpty_iff.mp none)
    exact ⟨_, by rw [content, empty]; rfl⟩

/-- All files of a template can be made if those can that are asked for one by one. -/
theorem Artifact.forall_content_iff {t : Template} :
    (∀ a : Artifact, a.isMade t = true → ∃ bytes, a.content t = .ok bytes) ↔
      (∀ a : Artifact, a ≠ .table → ∃ bytes, a.content t = .ok bytes) ∧
        (t.localized = true → ∃ bytes, table.content t = .ok bytes) := by
  constructor
  · refine fun h => ⟨fun a hne => ?_, h .table⟩
    cases ha : a.isMade t with
    | true => exact h a ha
    | false => exact exists_content_of_not_isMade ha hne
  · rintro ⟨others, table⟩ a ha
    by_cases hne : a = .table
    · subst hne
      exact table ha
    · exact others a hne

/-! ## The plan for everything -/

theorem makes_tableInFolder {folder file : String} {table : StringTable} {bytes : List UInt8}
    (names : Names folder file) (h : table.encode = .ok bytes) :
    (tableInFolder folder file table).Makes folder [(file, bytes.toByteArray)] := by
  have store := Action.stores_writeTable (Path.join folder file) bytes
  unfold tableInFolder tablePlan StringTable.savePlan
  rw [h]
  exact ⟨rfl, .store store names (.print _ .nil)⟩

theorem failure_tableInFolder {folder file : String} {table : StringTable} :
    (tableInFolder folder file table).failure = none ↔ ∃ bytes, table.encode = .ok bytes := by
  unfold tableInFolder tablePlan StringTable.savePlan
  cases table.encode <;> simp [Plan.of, Plan.failure_andThen, printPlan]

section Plan

variable {folder : String} {t : Template} {contents : Artifact → ByteArray}

theorem failure_conversationPlan :
    (conversationPlan folder t).failure = none ↔
      (Artifact.table.isMade t = true → ∃ bytes, Artifact.table.content t = .ok bytes) := by
  unfold conversationPlan
  cases hl : t.localized with
  | false => simp [Artifact.isMade, hl]
  | true =>
    cases hc : t.conversationTable with
    | error cause => simp [Artifact.content_table_eq_ok_iff, Artifact.isMade, hl, hc, Plan.of]
    | ok table =>
      simp [Artifact.content_table_eq_ok_iff, Artifact.isMade, hl, hc, Plan.of,
        failure_tableInFolder]

theorem failure_journalPlan :
    (journalPlan folder t).failure = none ↔
      (Artifact.tasks.isMade t = true → ∃ bytes, Artifact.tasks.content t = .ok bytes) := by
  unfold journalPlan
  rw [t.isEmpty_taskTable]
  cases hm : Artifact.tasks.isMade t with
  | false => simp
  | true => simp [Artifact.content_tasks_eq_ok_iff, failure_tableInFolder]

/-- The scripts come first, and then the string tables. -/
theorem everythingPlan_eq :
    everythingPlan folder t = (scriptsPlan folder (t.scripts {})).andThen
      ((conversationPlan folder t).andThen (journalPlan folder t)) := by
  rw [everythingPlan, Template.compile_eq]
  rfl

/-- Making everything goes wrong if some of the files cannot be made. -/
theorem failure_everythingPlan :
    (everythingPlan folder t).failure = none ↔
      ∀ a : Artifact, a.isMade t = true → ∃ bytes, a.content t = .ok bytes := by
  have scripts : (everythingPlan folder t).failure =
      (conversationPlan folder t).failure.or (journalPlan folder t).failure := by
    rw [everythingPlan_eq, Plan.failure_andThen, Plan.failure_andThen]
    rfl
  rw [scripts, Option.or_eq_none_iff, failure_conversationPlan, failure_journalPlan]
  constructor
  · rintro ⟨table, tasks⟩ a
    cases a with
    | definition => exact fun _ => ⟨_, rfl⟩
    | handler => exact fun _ => ⟨_, rfl⟩
    | table => exact table
    | tasks => exact tasks
  · exact fun h => ⟨h .table, h .tasks⟩

theorem fills_scriptsPlan {name : String} (names : ∀ a : Artifact, Names folder (a.file name))
    (definition handler : String) :
    ∃ rest, (scriptsPlan folder ⟨name, definition, handler⟩).actions = .makeFolders folder :: rest ∧
      Fills folder rest
        [(Artifact.definition.file name, definition.toUTF8),
          (Artifact.handler.file name, handler.toUTF8)] :=
  ⟨_, rfl, .store (Action.stores_writeScript _ _) (names .definition) <|
    .store (Action.stores_writeScript _ _) (names .handler) <| .print _ <| .print _ .nil⟩

theorem makes_conversationPlan (names : Names folder (Artifact.table.file t.name))
    (h : Artifact.table.isMade t = true → Artifact.table.content t = .ok (contents .table)) :
    (conversationPlan folder t).Makes folder
      (([Artifact.table].filter (·.isMade t)).map fun a => (a.file t.name, contents a)) := by
  have made : Artifact.table.isMade t = t.localized := rfl
  unfold conversationPlan
  cases hl : t.localized with
  | false =>
    rw [List.filter_singleton, made, hl]
    exact Plan.makes_empty
  | true =>
    rw [made] at h
    obtain ⟨table, bytes, hrows, hbytes, hcontents⟩ := Artifact.content_table_eq_ok_iff.mp (h hl)
    have makes := makes_tableInFolder names hbytes
    rw [hcontents] at makes
    rw [List.filter_singleton, made, hl, hrows]
    exact makes

theorem makes_journalPlan (names : Names folder (Artifact.tasks.file t.name))
    (h : Artifact.tasks.isMade t = true → Artifact.tasks.content t = .ok (contents .tasks)) :
    (journalPlan folder t).Makes folder
      (([Artifact.tasks].filter (·.isMade t)).map fun a => (a.file t.name, contents a)) := by
  unfold journalPlan
  rw [t.isEmpty_taskTable, List.filter_singleton]
  cases hm : Artifact.tasks.isMade t with
  | false => exact Plan.makes_empty
  | true =>
    obtain ⟨bytes, hbytes, hcontents⟩ := Artifact.content_tasks_eq_ok_iff.mp (h hm)
    have makes := makes_tableInFolder names hbytes
    rw [hcontents] at makes
    exact makes

/-- Making everything starts with the folder and then writes the files of the template. -/
theorem makes_everythingPlan (names : ∀ a : Artifact, Names folder (a.file t.name))
    (h : ∀ a : Artifact, a.isMade t = true → a.content t = .ok (contents a)) :
    ∃ rest, (everythingPlan folder t).actions = .makeFolders folder :: rest ∧
      Fills folder rest (Artifact.files t contents) := by
  -- The bytes are compared as results: compared by themselves, scripts would be rendered.
  have definition : .ok t.definitionScript.toUTF8 = Except.ok (contents .definition) :=
    h .definition rfl
  have handler : .ok (t.handlerScript {}).toUTF8 = Except.ok (contents .handler) := h .handler rfl
  obtain ⟨first, hfirst, scripts⟩ := fills_scriptsPlan names t.definitionScript (t.handlerScript {})
  have tables := (makes_conversationPlan (names .table) (h .table)).andThen
    (makes_journalPlan (names .tasks) (h .tasks))
  refine ⟨first ++ ((conversationPlan folder t).andThen (journalPlan folder t)).actions, ?_, ?_⟩
  · rw [everythingPlan_eq, Plan.actions_andThen rfl, Template.scripts, hfirst, List.cons_append]
  · rw [Artifact.files_eq, ← Except.ok.inj definition, ← Except.ok.inj handler]
    exact scripts.append tables.fills

/-- Making everything in a new folder ends well if all files can be made, and then the folder holds
them. -/
theorem perform_everythingPlan {tree made : FileTree} {place : Place}
    (names : ∀ a : Artifact, Names folder (a.file t.name))
    (fresh : tree.makeFolders folder = .ok made) (holds : made.Holds folder place [])
    (h : ∀ a : Artifact, a.isMade t = true → a.content t = .ok (contents a)) :
    ((everythingPlan folder t).perform tree).failure = none ∧
      ((everythingPlan folder t).perform tree).tree.Holds folder place
        (Artifact.files t contents) := by
  have ending : (everythingPlan folder t).failure = none :=
    failure_everythingPlan.mpr fun a ha => ⟨contents a, h a ha⟩
  obtain ⟨rest, actions, fills⟩ := makes_everythingPlan names h
  have first : performAll { tree } (.makeFolders folder :: rest) =
      performAll { tree := made } rest := by
    simp [performAll, Action.perform, fresh]
  obtain ⟨running, held⟩ :=
    fills.run (o := { tree := made }) rfl holds (Artifact.nodup_files t contents)
  rw [Plan.perform, actions, first, ending, Option.or_none]
  exact ⟨running, held⟩

theorem failure_perform_everythingPlan {tree made : FileTree} {place : Place}
    (names : ∀ a : Artifact, Names folder (a.file t.name))
    (fresh : tree.makeFolders folder = .ok made) (holds : made.Holds folder place []) :
    ((everythingPlan folder t).perform tree).failure = none ↔
      ∀ a : Artifact, a.isMade t = true → ∃ bytes, a.content t = .ok bytes :=
  ⟨fun h => failure_everythingPlan.mp (Plan.failure_of_perform h), fun h =>
    (perform_everythingPlan names fresh holds fun a ha => Artifact.content_eq_ok_bytes (h a ha)).1⟩

end Plan

/-! ## Everything and the single files -/

/-- A template's name with which files can be named in a folder. -/
structure Usable (folder name : String) : Prop where
  /-- It has no slash. -/
  slash : '/' ∉ name.toList
  /-- It has no null character. -/
  null : '\x00' ∉ name.toList
  /-- The longest of the names is not too long. -/
  short : (Artifact.handler.file name).utf8ByteSize ≤ FileTree.nameLimit
  /-- Nor is its path. -/
  path_short : (Path.join folder (Artifact.handler.file name)).utf8ByteSize < FileTree.pathLimit

namespace Artifact

theorem isSuffix_suffix (a : Artifact) : isSuffix a.suffix = true := by
  cases a <;> decide

theorem utf8ByteSize_suffix_le (a : Artifact) :
    a.suffix.utf8ByteSize ≤ handler.suffix.utf8ByteSize := by
  cases a <;> decide

end Artifact

theorem Usable.names {folder name : String} (h : Usable folder name)
    (null : '\x00' ∉ folder.toList) (a : Artifact) : Names folder (a.file name) := by
  have plain (b : Artifact) : Path.isPlain (b.file name) = true :=
    isPlain_append b.isSuffix_suffix h.slash
  have size (b : Artifact) :
      (b.file name).utf8ByteSize = name.utf8ByteSize + b.suffix.utf8ByteSize :=
    String.utf8ByteSize_append
  have shorter := a.utf8ByteSize_suffix_le
  have short := h.short
  have path_short := h.path_short
  rw [Path.utf8ByteSize_join (plain _), size] at path_short
  rw [size] at short
  refine .append a.isSuffix_suffix h.slash null h.null ?_ ?_
  · rw [← Artifact.file, size]
    omega
  · rw [← Artifact.file, Path.utf8ByteSize_join (plain a), size]
    omega

section Runs

variable {tree made : FileTree} {document json folder : String} {arguments : List String}

/-- For a text that describes a template, making everything ends well exactly if all files of the
template can be made, and then the folder holds them. -/
theorem run_everything_of_ofJson {t : Template} (stored : tree.readText document = .ok json)
    (described : Template.ofJson json = .ok t) (usable : Usable folder t.name)
    (asked : AsksFor arguments (.everything document folder))
    (fresh : tree.makeFolders folder = .ok made)
    (empty : ∀ names, names ≠ [] → made.below? folder names = none) :
    ((run arguments tree).exitCode = 0 ↔
      ∀ a : Artifact, a.isMade t = true → ∃ bytes, a.content t = .ok bytes) ∧
    ((run arguments tree).exitCode = 0 →
      ∃ place, (run arguments tree).tree.Holds folder place (Artifact.files t (·.bytes t))) := by
  have shown : run arguments tree = reportOf ((everythingPlan folder t).perform tree) := by
    rw [run_of_asksFor asked, Command.run_of_readText (c := .everything document folder) stored,
      described]
    rfl
  obtain ⟨base, null⟩ := FileTree.exists_base_of_makeFolders fresh
  obtain ⟨place, holds⟩ := FileTree.exists_holds_nil base empty
  have names := usable.names null
  have exit := failure_perform_everythingPlan names fresh holds
  rw [shown, exitCode_reportOf]
  refine ⟨exit, fun ended => ⟨place, ?_⟩⟩
  have contents (a : Artifact) (ha : a.isMade t = true) : a.content t = .ok (a.bytes t) :=
    Artifact.content_eq_ok_bytes (exit.mp ended a ha)
  exact (perform_everythingPlan names fresh holds contents).2

/-- **Making everything is the sum of the commands for single files.** In a new folder it ends well
exactly if they do, except that the string table of the texts is not asked for if these are shown as
they are. Then the folder holds nothing but the files that are made for the template, each with the
bytes that its own command writes, and all under names of their own. -/
theorem run_everything {outputs : Artifact → String} {lines : Artifact → List String}
    (stored : tree.readText document = .ok json)
    (usable : ∀ t, Template.ofJson json = .ok t → Usable folder t.name)
    (asked : AsksFor arguments (.everything document folder))
    (singles : ∀ a : Artifact, AsksFor (lines a) (a.command document (outputs a)))
    (writable : ∀ a, tree.IsWritable (outputs a))
    (fresh : tree.makeFolders folder = .ok made)
    (empty : ∀ names, names ≠ [] → made.below? folder names = none) :
    let everything := run arguments tree
    let single := fun a => run (lines a) tree
    (everything.exitCode = 0 ↔
      (∀ a, a ≠ .table → (single a).exitCode = 0) ∧
        ∀ t, Template.ofJson json = .ok t → t.localized = true → (single .table).exitCode = 0) ∧
    ∀ t, Template.ofJson json = .ok t → everything.exitCode = 0 →
      (∀ names, names ≠ [] → ∀ node, everything.tree.below? folder names = some node ↔
        ∃ (a : Artifact) (content : ByteArray), a.isMade t = true ∧ names = [a.file t.name] ∧
          node = .file content ∧ (single a).tree.read (outputs a) = .ok content) ∧
      Function.Injective (Artifact.file t.name) := by
  intro everything single
  have writes (a : Artifact) : (single a).Writes tree (outputs a) (a.contentOf json) :=
    writes_run stored (singles a)
  have single_exit (a : Artifact) :
      (single a).exitCode = 0 ↔ ∃ bytes, a.contentOf json = .ok bytes :=
    (writes a).exitCode_eq_zero_iff (writable a)
  cases ht : Template.ofJson json with
  | error cause =>
    -- Without a template every command fails, that for the definition script as well as any other.
    have failed : everything.exitCode = 1 := by
      rw [show everything = reportOf _ from run_of_asksFor asked tree,
        Command.run_of_readText (c := .everything document folder) stored, ht]
      rfl
    have nothing : ¬ ∃ bytes, Artifact.definition.contentOf json = .ok bytes := by
      simp [Artifact.contentOf_eq_ok_iff, ht]
    refine ⟨⟨fun h => by omega, fun h => ?_⟩, fun t h => by cases h⟩
    exact absurd ((single_exit .definition).mp (h.1 .definition (by decide))) nothing
  | ok t =>
    obtain ⟨exit, holds⟩ := run_everything_of_ofJson stored ht (usable t ht) asked fresh empty
    have content (a : Artifact) : a.contentOf json = a.content t := by
      rw [Artifact.contentOf, ht]
      rfl
    simp only [content] at single_exit writes
    refine ⟨?_, ?_⟩
    · simpa [single_exit] using exit.trans Artifact.forall_content_iff
    · rintro t ⟨⟩ ended
      obtain ⟨place, held⟩ := holds ended
      have read (a : Artifact) (ha : a.isMade t = true) :
          (single a).tree.read (outputs a) = .ok (a.bytes t) :=
        (((writes a).1 (writable a) _).mpr
          (Artifact.content_eq_ok_bytes (exit.mp ended a ha))).2
      refine ⟨fun below hbelow node => ?_, Artifact.file_injective t.name⟩
      -- What is held is what can be made, and that is what the single commands have written.
      rw [held.below?_eq_some_iff hbelow]
      constructor
      · rintro ⟨_, hfile, hname, rfl⟩
        obtain ⟨a, ha, rfl⟩ := Artifact.mem_files.mp hfile
        exact ⟨a, a.bytes t, ha, hname, rfl, read a ha⟩
      · rintro ⟨a, bytes, ha, hname, rfl, hread⟩
        rw [read a ha] at hread
        cases hread
        exact ⟨_, Artifact.mem_files.mpr ⟨a, ha, rfl⟩, hname, rfl⟩

end Runs

/-- A market with a task, whose texts are shown by references. -/
def market : Template :=
  .ofDraft
    { name := "market"
      localized := true
      screens :=
        [{ id := ⟨1⟩, name := "stall", text := "Fish!", key := some "@market:s_1"
           trigger := QuestTrigger.of? "activateTask" "fish" none (some "Buy fish.") }] }
    (by decide)

/-- A folder with the document of the market. -/
def square : FileTree :=
  (FileTree.empty ["srv"]).put ["srv", "market.json"] (.file market.toDocument.toJson.toUTF8)

theorem contentOf_market (a : Artifact) :
    ∃ bytes, a.contentOf market.toDocument.toJson = .ok bytes := by
  have content : a.contentOf market.toDocument.toJson = a.content market := by
    rw [Artifact.contentOf, Template.ofJson_toDocument]
    rfl
  rw [content]
  cases a with
  | definition => exact ⟨_, rfl⟩
  | handler => exact ⟨_, rfl⟩
  | table => exact ⟨_, rfl⟩
  | tasks => exact ⟨_, rfl⟩

/-- All four files of the market are made in a new folder. -/
theorem run_everything_market :
    let everything := run ["all", "market.json", "-o", "out/market"] square
    let table := run ["stf", "--output=fish.stf", "--", "market.json"] square
    everything.exitCode = 0 ∧
      (∃ content, everything.tree.below? "out/market" ["market.stf"] = some (.file content) ∧
        table.tree.read "fish.stf" = .ok content) ∧
      everything.tree.below? "out/market" ["fish.stf"] = none := by
  have stored : square.readText "market.json" = .ok market.toDocument.toJson :=
    FileTree.readText_put_slot (by decide) _
  have described := Template.ofJson_toDocument market
  have usable (t : Template) (h : Template.ofJson market.toDocument.toJson = .ok t) :
      Usable "out/market" t.name := by
    obtain rfl : market = t := Except.ok.inj (described.symm.trans h)
    exact ⟨by decide, by decide, by decide, by decide⟩
  have writable : square.IsWritable "fish.stf" :=
    FileTree.isWritable_iff.mpr ⟨["srv", "fish.stf"], by decide⟩
  have singles (a : Artifact) :
      AsksFor (a.command "market.json" "fish.stf").arguments (a.command "market.json" "fish.stf") :=
    asksFor_arguments (by cases a <;> decide)
  have exits (a : Artifact) :
      (run (a.command "market.json" "fish.stf").arguments square).exitCode = 0 :=
    ((writes_run stored (singles a)).exitCode_eq_zero_iff writable).mpr (contentOf_market a)
  have fresh : square.makeFolders "out/market" =
      .ok ((square.put ["srv", "out"] .folder).put ["srv", "out", "market"] .folder) := by
    rfl
  have empty (names : List String) (hne : names ≠ []) :
      ((square.put ["srv", "out"] .folder).put ["srv", "out", "market"] .folder).below?
        "out/market" names = none := by
    have base : ((square.put ["srv", "out"] .folder).put ["srv", "out", "market"] .folder).base
        "out/market" = .ok ["srv", "out", "market"] := by decide
    have nothing : square.node? ("srv" :: "out" :: "market" :: names) = none := by
      simp [square, FileTree.node?, FileTree.put, FileTree.empty]
    rw [FileTree.below?, base]
    simp [FileTree.node?_put, nothing, hne]
  have asked : AsksFor ["all", "market.json", "-o", "out/market"]
      (.everything "market.json" "out/market") := rfl
  obtain ⟨exit, files⟩ :=
    run_everything stored usable asked singles (fun _ => writable) fresh empty
  have ended := exit.mpr ⟨fun a _ => exits a, fun _ _ _ => exits .table⟩
  obtain ⟨holds, -⟩ := files market described ended
  refine ⟨ended, ?_, ?_⟩
  · obtain ⟨bytes, hbytes⟩ := contentOf_market .table
    have written := ((writes_run stored (singles .table)).1 writable bytes).mpr hbytes
    exact ⟨bytes, (holds ["market.stf"] (by decide) _).mpr
      ⟨.table, bytes, rfl, rfl, rfl, written.2⟩, written.2⟩
  · cases found : (run ["all", "market.json", "-o", "out/market"] square).tree.below? "out/market"
        ["fish.stf"] with
    | none => rfl
    | some node =>
      obtain ⟨a, -, -, same, -⟩ := (holds ["fish.stf"] (by decide) node).mp found
      exact absurd same (by cases a <;> decide)

end Dialogue
