import Dialogue.Proofs.EverythingCommand

/-!
# Runs that fail on their document

A run fails because of files that cannot be read or written, or because of what its document says.
In the second case a command for a single file has not done anything yet, as it starts to write when
all is made that can go wrong. The command for everything is different: it writes the scripts before
it makes the string tables.

* `Failure.isOfContent`: what the document says is the reason for a failure.
* `Plan.IsAtomic`: a plan has nothing to do if it ends with a failure.
* `ScriptsWritten`: the scripts of a template have been written into a folder and reported.

Results:
* `performAll_cases`: no step fails because of what the document says.
* `Plan.IsAtomic.perform_of_content`: with such a failure, an atomic plan leaves everything alone.
* `Command.isAtomic_plan`: plans are atomic, unless everything is made for a template.
* `perform_everythingPlan_of_content`: what is left when making everything fails.
* **`CommandLine.run_of_content`**: which failed runs leave nothing behind.
-/

namespace Dialogue

open CommandLine Storage

/-! ## Failures and steps -/

/-- What the document says is the reason, and not the files. -/
def Failure.isOfContent : Failure → Bool
  | .json _ | .fault _ | .localization _ => true
  | .encoding (.io _) | .reading _ _ | .writing _ => false
  | .encoding _ => true

/-- A step goes well and adds to what has been printed, or it fails because of files. -/
theorem Action.perform_goes_well_or_fails (o : Outcome) (action : Action) :
    (∃ tree more, action.perform o = { o with tree, printed := o.printed ++ more }) ∨
      ∃ cause : Failure, cause.isOfContent = false ∧
        action.perform o = { o with failure := some cause } := by
  rcases action.perform_cases o with ⟨cause, failure, files, failed⟩ | ⟨text, -, well⟩ |
    ⟨path, made, -, -, well⟩ | ⟨path, content, after, -, -, well⟩
  · exact .inr ⟨failure, by rcases files with rfl | rfl <;> rfl, failed⟩
  · exact .inl ⟨o.tree, text, well⟩
  · exact .inl ⟨made, "", by rw [well, String.append_empty]⟩
  · exact .inl ⟨after, "", by rw [well, String.append_empty]⟩

/-- **No step fails because of what the document says**, and what has been printed stays. -/
theorem performAll_cases {o : Outcome} (running : o.failure = none) (actions : List Action) :
    (∀ cause, (performAll o actions).failure = some cause → cause.isOfContent = false) ∧
      ∃ more, (performAll o actions).printed = o.printed ++ more := by
  induction actions generalizing o with
  | nil => exact ⟨by simp [performAll, running], "", by simp [performAll]⟩
  | cons action rest ih =>
    rcases action.perform_goes_well_or_fails o with
      ⟨tree, first, well⟩ | ⟨cause, files, failed⟩
    · have next : performAll o (action :: rest) =
          performAll { o with tree, printed := o.printed ++ first } rest := by
        simp [performAll, well, running]
      obtain ⟨causes, others, printed⟩ :=
        ih (o := { o with tree, printed := o.printed ++ first }) running
      rw [next]
      exact ⟨causes, first ++ others, by rw [printed, String.append_assoc]⟩
    · have stopped : performAll o (action :: rest) = { o with failure := some cause } := by
        simp [performAll, failed]
      rw [stopped]
      exact ⟨by simp [files], "", by simp⟩

/-- If steps go well that start with others, then those go well, and the rest follows on them. -/
theorem performAll_append_of_running {o : Outcome} {first second : List Action}
    (running : o.failure = none) (h : (performAll o (first ++ second)).failure = none) :
    (performAll o first).failure = none ∧
      performAll o (first ++ second) = performAll (performAll o first) second := by
  rw [performAll_append] at h ⊢
  cases hf : (performAll o first).failure with
  | none => simp
  | some cause =>
    have steps : first.isEmpty = false := by
      cases first with
      | nil => simp [performAll, running] at hf
      | cons _ _ => rfl
    simp [hf, steps] at h

/-! ## Plans -/

/-- The plan has nothing to do if it ends with a failure. -/
def Plan.IsAtomic (p : Plan) : Prop := p.failure = none ∨ p.actions = []

namespace Plan

variable {p q : Plan} {tree : FileTree} {cause : Failure}

/-- A run that fails because of what the document says carries out all steps. -/
theorem running_of_content (failed : (p.perform tree).failure = some cause)
    (content : cause.isOfContent = true) :
    (performAll { tree } p.actions).failure = none ∧ p.failure = some cause := by
  cases h : (performAll { tree } p.actions).failure with
  | none => exact ⟨rfl, by simpa [perform, h] using failed⟩
  | some other =>
    have same : other = cause := by simpa [perform, h] using failed
    have files : other.isOfContent = false := (performAll_cases rfl p.actions).1 other h
    simp [same, content] at files

/-- **With such a failure, an atomic plan leaves everything alone.** -/
theorem IsAtomic.perform_of_content (h : p.IsAtomic)
    (failed : (p.perform tree).failure = some cause) (content : cause.isOfContent = true) :
    p.perform tree = { tree, failure := some cause } := by
  obtain ⟨-, own⟩ := running_of_content failed content
  have nothing : p.actions = [] := h.resolve_left (by simp [own])
  simp [perform, nothing, own, performAll]

theorem isAtomic_of {ε α : Type} {wrap : ε → Failure} {result : Except ε α} {next : α → Plan}
    (h : ∀ value, result = .ok value → (next value).IsAtomic) :
    (Plan.of wrap result next).IsAtomic := by
  cases result with
  | error cause => exact .inr rfl
  | ok value => exact h value rfl

theorem IsAtomic.andThen (hp : p.IsAtomic) (hq : q.failure = none) : (p.andThen q).IsAtomic := by
  rcases hp with hp | hp
  · exact .inl (by rw [failure_andThen, hp, hq]; rfl)
  · cases hf : p.failure with
    | none => exact .inl (by rw [failure_andThen, hf, hq]; rfl)
    | some cause => exact .inr (by simp [Plan.andThen, hf, hp])

/-- Of two plans that fail together, the second does nothing if it is atomic. -/
theorem IsAtomic.actions_andThen (hq : q.IsAtomic) (h : (p.andThen q).failure = some cause) :
    (p.andThen q).actions = p.actions := by
  cases hf : p.failure with
  | some other => simp [Plan.andThen, hf]
  | none =>
    rw [failure_andThen, hf, Option.none_or] at h
    have nothing : q.actions = [] := hq.resolve_left (by simp [h])
    rw [Plan.actions_andThen hf, nothing, List.append_nil]

end Plan

/-! ## Commands for single files -/

theorem isAtomic_scriptPlan (output : Option String) (script : String) :
    (scriptPlan output script).IsAtomic := by
  cases output <;> exact .inl rfl

theorem isAtomic_tablePlan (path report : String) (table : StringTable) :
    (tablePlan path report table).IsAtomic :=
  (Plan.isAtomic_of fun _ _ => .inl rfl).andThen rfl

theorem isAtomic_conversationPlan (folder : String) (t : Template) :
    (conversationPlan folder t).IsAtomic := by
  unfold conversationPlan
  split
  · exact Plan.isAtomic_of fun _ _ => isAtomic_tablePlan _ _ _
  · exact .inl rfl

theorem isAtomic_journalPlan (folder : String) (t : Template) :
    (journalPlan folder t).IsAtomic := by
  unfold journalPlan
  split
  · exact .inl rfl
  · exact isAtomic_tablePlan _ _ _

namespace Command

/-- The folder for everything, if everything is to be made. -/
def folder? : Command → Option String
  | .definition _ _ | .handler _ _ _ | .table _ _ | .tasks _ _ => none
  | .everything _ folder => some folder

theorem isAtomic_planFor {c : Command} (h : c.folder? = none) (t : Template) :
    (c.planFor t).IsAtomic := by
  cases c with
  | definition document output => exact Plan.isAtomic_of fun _ _ => isAtomic_scriptPlan _ _
  | handler document output probePrefix =>
    exact Plan.isAtomic_of fun _ _ => isAtomic_scriptPlan _ _
  | table document output => exact Plan.isAtomic_of fun _ _ => isAtomic_tablePlan _ _ _
  | tasks document output => exact isAtomic_tablePlan _ _ _
  | everything document folder => cases h

/-- **Plans are atomic**, unless everything is made for a template. -/
theorem isAtomic_plan {c : Command} {json : String}
    (h : ¬ ∃ folder t, c.folder? = some folder ∧ Template.ofJson json = .ok t) :
    (c.plan json).IsAtomic := by
  rw [plan_eq]
  refine Plan.isAtomic_of fun t ht => isAtomic_planFor ?_ t
  cases hf : c.folder? with
  | none => rfl
  | some folder => exact absurd ⟨folder, t, hf, ht⟩ h

theorem plan_everything {c : Command} {json folder : String} {t : Template}
    (h : c.folder? = some folder) (described : Template.ofJson json = .ok t) :
    c.plan json = everythingPlan folder t := by
  rw [plan_eq, described]
  cases c with
  | everything document other =>
    obtain rfl : other = folder := Option.some.inj h
    rfl
  | _ => cases h

end Command

/-! ## The command for everything -/

/-- Both scripts have been written into a folder and then reported. -/
def ScriptsWritten (tree : FileTree) (folder : String) (s : Scripts) (o : Outcome) : Prop :=
  let definition := Path.join folder s.definitionFile
  let handler := Path.join folder s.handlerFile
  ∃ made first second, tree.makeFolders folder = .ok made ∧
    made.write definition s.definition.toUTF8 = .ok first ∧
    first.write handler s.handler.toUTF8 = .ok second ∧
    o = { tree := second, printed := wrote definition ++ wrote handler }

section Everything

variable {tree : FileTree} {folder : String} {s : Scripts} {t : Template} {o : Outcome}
  {cause : Failure}

theorem ScriptsWritten.perform_eq (h : ScriptsWritten tree folder s o) :
    performAll { tree } (scriptsPlan folder s).actions = o := by
  obtain ⟨made, first, second, hmade, hfirst, hsecond, rfl⟩ := h
  simp only [scriptsPlan, Scripts.saveActions, performAll, Action.perform, hmade, hfirst,
    hsecond, List.cons_append, List.nil_append, Option.isSome_none, Bool.false_eq_true, if_false,
    String.empty_append]

/-- The report of the scripts stays. -/
theorem ScriptsWritten.printed_ne_empty (h : ScriptsWritten tree folder s o)
    (actions : List Action) : (performAll o actions).printed ≠ "" := by
  obtain ⟨made, first, second, -, -, -, ended⟩ := h
  have running : o.failure = none := by rw [ended]
  obtain ⟨-, more, printed⟩ := performAll_cases running actions
  rw [printed, ended]
  simp [wrote]

theorem scriptsWritten_of_running
    (running : (performAll { tree } (scriptsPlan folder s).actions).failure = none) :
    ScriptsWritten tree folder s (performAll { tree } (scriptsPlan folder s).actions) := by
  have steps : (scriptsPlan folder s).actions = .makeFolders folder ::
      .writeScript (Path.join folder s.definitionFile) s.definition ::
      .writeScript (Path.join folder s.handlerFile) s.handler ::
      [.print (wrote (Path.join folder s.definitionFile)),
        .print (wrote (Path.join folder s.handlerFile))] := rfl
  cases hmade : tree.makeFolders folder with
  | error cause => simp [steps, performAll, Action.perform, hmade] at running
  | ok made =>
    cases hfirst : made.write (Path.join folder s.definitionFile) s.definition.toUTF8 with
    | error cause =>
      simp only [steps, performAll, Action.perform, hmade, hfirst] at running
      simp at running
    | ok first =>
      cases hsecond : first.write (Path.join folder s.handlerFile) s.handler.toUTF8 with
      | error cause =>
        simp only [steps, performAll, Action.perform, hmade, hfirst, hsecond] at running
        simp at running
      | ok second =>
        have written : ScriptsWritten tree folder s _ :=
          ⟨made, first, second, hmade, hfirst, hsecond, rfl⟩
        rwa [written.perform_eq]

/-- When making everything fails because of what the document says, the scripts are written, and so
is the string table of the texts if it can be made. -/
theorem perform_everythingPlan_of_content
    (failed : ((everythingPlan folder t).perform tree).failure = some cause)
    (content : cause.isOfContent = true) :
    ∃ o, ScriptsWritten tree folder (t.scripts {}) o ∧
      (everythingPlan folder t).perform tree =
        { performAll o (conversationPlan folder t).actions with failure := some cause } := by
  obtain ⟨running, own⟩ := Plan.running_of_content failed content
  have tables : ((conversationPlan folder t).andThen (journalPlan folder t)).failure =
      some cause := by
    rwa [everythingPlan_eq, Plan.failure_andThen] at own
  have actions : (everythingPlan folder t).actions =
      (scriptsPlan folder (t.scripts {})).actions ++ (conversationPlan folder t).actions := by
    rw [everythingPlan_eq, Plan.actions_andThen rfl,
      (isAtomic_journalPlan folder t).actions_andThen tables]
  rw [actions] at running
  obtain ⟨scripts, next⟩ := performAll_append_of_running rfl running
  refine ⟨_, scriptsWritten_of_running scripts, ?_⟩
  rw [next] at running
  rw [Plan.perform, own, actions, next, running, Option.none_or]

/-- Nothing is written for the texts if their string table cannot be made. -/
theorem actions_conversationPlan (h : ∀ bytes, Artifact.table.content t ≠ .ok bytes) :
    (conversationPlan folder t).actions = [] := by
  cases hl : t.localized with
  | false => simp [conversationPlan, hl]
  | true =>
    refine (isAtomic_conversationPlan folder t).resolve_left fun well => ?_
    obtain ⟨bytes, made⟩ := failure_conversationPlan.mp well hl
    exact h bytes made

end Everything

namespace Command

variable {c : Command} {json : String} {tree : FileTree} {cause : Failure}

/-- Nothing is left of a command for a single file, nor if no template is described. -/
theorem perform_plan_of_content (failed : ((c.plan json).perform tree).failure = some cause)
    (content : cause.isOfContent = true)
    (h : ¬ ∃ folder t, c.folder? = some folder ∧ Template.ofJson json = .ok t) :
    (c.plan json).perform tree = { tree, failure := some cause } :=
  (isAtomic_plan h).perform_of_content failed content

/-- The scripts are left if everything is made for a template. -/
theorem exists_scriptsWritten (failed : ((c.plan json).perform tree).failure = some cause)
    (content : cause.isOfContent = true) {folder : String} {t : Template}
    (h : c.folder? = some folder) (described : Template.ofJson json = .ok t) :
    ∃ o, ScriptsWritten tree folder (t.scripts {}) o ∧ (c.plan json).perform tree =
      { performAll o (conversationPlan folder t).actions with failure := some cause } := by
  rw [plan_everything h described] at failed ⊢
  exact perform_everythingPlan_of_content failed content

end Command

/-! ## Runs -/

namespace CommandLine

section Runs

variable {arguments : List String} {tree : FileTree} {cause : Failure}

/-- A run fails only if it is asked for a command. -/
theorem exists_asksFor (failed : (run arguments tree).failure = some cause) :
    ∃ c, AsksFor arguments c ∧ run arguments tree = reportOf (c.run tree) := by
  unfold AsksFor
  unfold run at failed ⊢
  split at failed
  · simp at failed
  · simp at failed
  · simp at failed
  · rename_i c asked
    exact ⟨c, asked, rfl⟩

/-- **Which failed runs leave nothing behind.** When a run fails because of what the document says,
it leaves all files alone and prints nothing, except if everything is to be made for a template that
the document describes. Then the scripts have been written and reported, and so has the string table
of the texts if it can be made. -/
theorem run_of_content (failed : (run arguments tree).failure = some cause)
    (content : cause.isOfContent = true) :
    ∃ c json, AsksFor arguments c ∧ tree.readText c.document = .ok json ∧
      let report := run arguments tree
      report.exitCode = 1 ∧
      (report.tree = tree ∧ report.printed = "" ↔
        ¬ ∃ folder t, c.folder? = some folder ∧ Template.ofJson json = .ok t) ∧
      ∀ folder t, c.folder? = some folder → Template.ofJson json = .ok t →
        ∃ o, ScriptsWritten tree folder (t.scripts {}) o ∧
          let left := performAll o (conversationPlan folder t).actions
          report.tree = left.tree ∧ report.printed = left.printed ∧
          ((∀ bytes, Artifact.table.content t ≠ .ok bytes) → left = o) := by
  obtain ⟨c, asked, shown⟩ := exists_asksFor failed
  cases stored : tree.readText c.document with
  | error unreadable =>
    rw [shown, Command.run_of_unreadable stored] at failed
    obtain rfl : Failure.reading c.document unreadable = cause := Option.some.inj failed
    cases content
  | ok json =>
    have outcome : c.run tree = (c.plan json).perform tree := by
      rw [Command.run, stored]
    rw [shown, outcome]
    rw [shown, outcome] at failed
    have ended : ((c.plan json).perform tree).failure = some cause := failed
    refine ⟨c, json, asked, stored, ?_, ⟨?_, fun h => ?_⟩, fun folder t hfolder described => ?_⟩
    · simp [reportOf, ended]
    · rintro ⟨-, nothing⟩ ⟨folder, t, hfolder, described⟩
      obtain ⟨o, written, left⟩ := Command.exists_scriptsWritten ended content hfolder described
      rw [left] at nothing
      exact written.printed_ne_empty _ nothing
    · rw [Command.perform_plan_of_content ended content h]
      exact ⟨rfl, rfl⟩
    · obtain ⟨o, written, left⟩ := Command.exists_scriptsWritten ended content hfolder described
      rw [left]
      refine ⟨o, written, rfl, rfl, fun unmade => ?_⟩
      rw [actions_conversationPlan unmade]
      rfl

end Runs

/-- A lighthouse whose texts are to be shown by references, but have none. -/
def lighthouse : Template :=
  .ofDraft
    { name := "lighthouse"
      localized := true
      screens := [{ id := ⟨1⟩, name := "lamp", text := "Mind the stairs." }] }
    (by decide)

/-- A folder with the document of the lighthouse. -/
def shore : FileTree :=
  (FileTree.empty ["srv"]).put ["srv", "lighthouse.json"]
    (.file lighthouse.toDocument.toJson.toUTF8)

theorem readText_shore : shore.readText "lighthouse.json" = .ok lighthouse.toDocument.toJson :=
  FileTree.readText_put_slot (by decide) _

/-- The folder in which the scripts of the lighthouse have been written. -/
def litShore (definition handler : ByteArray) : FileTree :=
  ((shore.put ["srv", "out"] .folder).put ["srv", "out", "lighthouse_conv.lua"]
    (.file definition)).put ["srv", "out", "lighthouse_conv_handler.lua"] (.file handler)

theorem scriptsWritten_shore :
    ScriptsWritten shore "out" (lighthouse.scripts {})
      ⟨litShore lighthouse.definitionScript.toUTF8 (lighthouse.handlerScript {}).toUTF8,
        wrote "out/lighthouse_conv.lua" ++ wrote "out/lighthouse_conv_handler.lua", none⟩ := by
  have first (content : ByteArray) :
      (shore.put ["srv", "out"] .folder).write "out/lighthouse_conv.lua" content =
        .ok ((shore.put ["srv", "out"] .folder).put ["srv", "out", "lighthouse_conv.lua"]
          (.file content)) := rfl
  have second (definition content : ByteArray) :
      ((shore.put ["srv", "out"] .folder).put ["srv", "out", "lighthouse_conv.lua"]
        (.file definition)).write "out/lighthouse_conv_handler.lua" content =
          .ok (litShore definition content) := rfl
  exact ⟨_, _, _, rfl, first _, second _ _, rfl⟩

theorem run_everything_shore :
    run ["all", "lighthouse.json", "-o", "out"] shore = reportOf
      ⟨litShore lighthouse.definitionScript.toUTF8 (lighthouse.handlerScript {}).toUTF8,
        wrote "out/lighthouse_conv.lua" ++ wrote "out/lighthouse_conv_handler.lua",
        some (.localization (.missingKey "Screen 'lamp'"))⟩ := by
  have asked : AsksFor ["all", "lighthouse.json", "-o", "out"]
      (.everything "lighthouse.json" "out") := rfl
  have table : conversationPlan "out" lighthouse =
      { failure := some (.localization (.missingKey "Screen 'lamp'")) } := rfl
  have plan : everythingPlan "out" lighthouse =
      { actions := (scriptsPlan "out" (lighthouse.scripts {})).actions
        failure := some (.localization (.missingKey "Screen 'lamp'")) } := by
    rw [everythingPlan_eq, table]
    rfl
  rw [run_of_asksFor asked,
    Command.run_of_readText (c := .everything "lighthouse.json" "out") readText_shore,
    Template.ofJson_toDocument]
  simp only [Command.planFor, plan, Plan.perform, scriptsWritten_shore.perform_eq, Option.none_or]

/-- Asked for the string table alone, the program fails and leaves nothing behind. Asked for
everything, it leaves the scripts. -/
theorem run_of_content_lighthouse :
    let table := run ["stf", "lighthouse.json"] shore
    let everything := run ["all", "lighthouse.json", "-o", "out"] shore
    (table.exitCode = 1 ∧ table.tree = shore ∧ table.printed = "") ∧
      everything.exitCode = 1 ∧ ¬ (everything.tree = shore ∧ everything.printed = "") ∧
      ∃ o, ScriptsWritten shore "out" (lighthouse.scripts {}) o ∧ everything.tree = o.tree := by
  have described := Template.ofJson_toDocument lighthouse
  constructor
  · have asked : AsksFor ["stf", "lighthouse.json"] (.table "lighthouse.json" none) := rfl
    have failed : (run ["stf", "lighthouse.json"] shore).failure =
        some (.localization (.missingKey "Screen 'lamp'")) := by
      rw [run_of_asksFor asked,
        Command.run_of_readText (c := .table "lighthouse.json" none) readText_shore, described]
      rfl
    obtain ⟨c, json, found, -, exit, kept, -⟩ := run_of_content failed rfl
    obtain rfl := Request.run.inj (Option.some.inj (found.symm.trans asked))
    refine ⟨exit, kept.mpr ?_⟩
    rintro ⟨folder, t, single, -⟩
    cases single
  · have asked : AsksFor ["all", "lighthouse.json", "-o", "out"]
        (.everything "lighthouse.json" "out") := rfl
    have failed : (run ["all", "lighthouse.json", "-o", "out"] shore).failure =
        some (.localization (.missingKey "Screen 'lamp'")) := by
      rw [run_everything_shore]
      rfl
    have unmade (bytes : ByteArray) : Artifact.table.content lighthouse ≠ .ok bytes := nofun
    obtain ⟨c, json, found, stored, exit, kept, scripts⟩ := run_of_content failed rfl
    obtain rfl := Request.run.inj (Option.some.inj (found.symm.trans asked))
    obtain rfl := Except.ok.inj (stored.symm.trans readText_shore)
    obtain ⟨o, written, tree, -, left⟩ := scripts "out" lighthouse rfl described
    rw [left unmade] at tree
    refine ⟨exit, fun nothing => ?_, o, written, tree⟩
    exact kept.mp nothing ⟨"out", lighthouse, rfl, described⟩

/-- Asked for everything, the program fails because of a screen of the lighthouse, but both scripts
have been written, where no files were, and reported. -/
theorem not_kept_lighthouse :
    let report := run ["all", "lighthouse.json", "-o", "out"] shore
    report.failure = some (.localization (.missingKey "Screen 'lamp'")) ∧ report.exitCode = 1 ∧
      (∀ file ∈ ["out/lighthouse_conv.lua", "out/lighthouse_conv_handler.lua"],
        shore.read file = .error .notFound) ∧
      report.tree.read "out/lighthouse_conv.lua" = .ok lighthouse.definitionScript.toUTF8 ∧
      report.tree.read "out/lighthouse_conv_handler.lua" =
        .ok (lighthouse.handlerScript {}).toUTF8 ∧
      report.printed =
        "Wrote 'out/lighthouse_conv.lua'\nWrote 'out/lighthouse_conv_handler.lua'\n" := by
  have files (definition handler : ByteArray) :
      (litShore definition handler).read "out/lighthouse_conv.lua" = .ok definition ∧
        (litShore definition handler).read "out/lighthouse_conv_handler.lua" = .ok handler :=
    ⟨rfl, rfl⟩
  rw [run_everything_shore]
  exact ⟨rfl, rfl, by decide, (files _ _).1, (files _ _).2, by decide⟩

end CommandLine

end Dialogue
