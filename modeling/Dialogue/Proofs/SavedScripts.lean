import Dialogue.Proofs.Plans
import Dialogue.Proofs.Storage.Frame

/-!
# Where scripts are saved

The scripts of a template are saved under names that begin with the template's name and are joined
to a folder. Saving them changes the files to which these two paths lead, and no other. The files
stand in the folder if the template's name has no slash. But a template may have any name that shows
something, so it may step to the folder above, and its scripts are then saved outside the folder.

* `Path.IsEntry`: a path is that of a single name in a folder.
* `Scripts.files`: the names of both files.

Results:
* `Path.isEntry_join_append_iff`: when a name with a suffix stays a single name in its folder.
* `exists_leads_of_performAll`, `exists_leads_of_mem`: the files that actions change are those to
  which they write.
* **`Template.saveActions_confined`**: which files saving the scripts changes, and when they
  stand in the folder.
-/

namespace Dialogue

open Storage

/-! ## Names in a folder -/

namespace Storage.Path

/-- The path is that of a single name in the folder. -/
def IsEntry (folder path : String) : Prop :=
  ∃ name, isPlain name = true ∧ name ≠ "." ∧ name ≠ ".." ∧ path = join folder name

section Entries

variable {folder stem suffix : String}

theorem isEntry_join_append (hsuffix : isSuffix suffix = true) (slash : '/' ∉ stem.toList) :
    IsEntry folder (join folder (stem ++ suffix)) :=
  ⟨stem ++ suffix, isPlain_append hsuffix slash, append_ne hsuffix (by decide),
    append_ne hsuffix (by decide), rfl⟩

/-- A relative name that stays a single name in its folder has no slash. -/
theorem not_mem_of_isEntry_join {name : String} (relative : isAbsolute name = false)
    (h : IsEntry folder (join folder name)) : '/' ∉ name.toList := by
  obtain ⟨single, plain, -, -, same⟩ := h
  rw [join_eq_append relative, join_eq_append (isAbsolute_of_isPlain plain)] at same
  obtain rfl : name = single := by simpa using same
  exact (isPlain_iff.mp plain).2

/-- If a path ends in a suffix and is that of a name in a folder, the name ends in the suffix. -/
theorem exists_eq_join_of_append_eq {name : String} (no_slash : '/' ∉ suffix.toList)
    (plain : isPlain name = true) (same : stem ++ suffix = join folder name) :
    ∃ rest, '/' ∉ rest.toList ∧ stem = join folder rest := by
  obtain ⟨-, name_no_slash⟩ := isPlain_iff.mp plain
  rw [join_eq_append (isAbsolute_of_isPlain plain)] at same
  have lists : stem.toList ++ suffix.toList = (join folder "").toList ++ name.toList := by
    rw [← String.toList_append, same, String.toList_append]
  rcases List.append_eq_append_iff.mp lists with ⟨mid, hfront, hsuffix⟩ | ⟨mid, hstem, hname⟩
  · -- What the name is put behind ends in a slash, and so not inside the suffix.
    have mid_no_slash : '/' ∉ mid := fun hm => no_slash (by simp [hsuffix, hm])
    have hmid : mid = [] := by
      rcases join_empty folder with none | ends
      · simp_all
      · cases hl : mid.getLast? with
        | none => simpa using hl
        | some c =>
          have : c = '/' := by simpa [endsInSlash, hfront, List.getLast?_append, hl] using ends
          exact absurd (this ▸ List.mem_of_getLast? hl) mid_no_slash
    refine ⟨"", by simp, String.toList_injective ?_⟩
    rw [hfront, hmid, List.append_nil]
  · have rest_no_slash : '/' ∉ mid := fun hm => name_no_slash (by simp [hname, hm])
    refine ⟨String.ofList mid, by simpa using rest_no_slash, String.toList_injective ?_⟩
    rw [join_eq_append (isAbsolute_of_not_mem (by simpa using rest_no_slash)), hstem]
    simp

/-- **A name with a suffix stays in its folder** if it has no slash, or spells out the path of the
folder from the root, and only then. -/
theorem isEntry_join_append_iff (hsuffix : isSuffix suffix = true) :
    IsEntry folder (join folder (stem ++ suffix)) ↔
      '/' ∉ stem.toList ∨ isAbsolute folder = true ∧
        ∃ rest, '/' ∉ rest.toList ∧ stem = join folder rest := by
  obtain ⟨-, no_slash, -⟩ := isSuffix_iff.mp hsuffix
  constructor
  · intro h
    cases absolute : isAbsolute (stem ++ suffix) with
    | false =>
      have := not_mem_of_isEntry_join absolute h
      exact .inl fun slash => this (by simp [slash])
    | true =>
      obtain ⟨name, plain, -, -, same⟩ := h
      rw [join_of_isAbsolute absolute] at same
      refine .inr ⟨?_, exists_eq_join_of_append_eq no_slash plain same⟩
      rw [← isAbsolute_join plain, ← same, absolute]
  · rintro (slash | ⟨absolute, rest, slash, rfl⟩)
    · exact isEntry_join_append hsuffix slash
    · have whole : '/' ∉ (rest ++ suffix).toList := by simp [slash, no_slash]
      have joined : join folder rest ++ suffix = join folder (rest ++ suffix) := by
        rw [join_eq_append (isAbsolute_of_not_mem whole),
          join_eq_append (isAbsolute_of_not_mem slash), String.append_assoc]
      have rooted : isAbsolute (join folder (rest ++ suffix)) = true := by
        rw [isAbsolute_join_of_relative (isAbsolute_of_not_mem whole), absolute]
      rw [joined, join_of_isAbsolute rooted]
      exact isEntry_join_append hsuffix slash

end Entries

end Storage.Path

/-! ## Files that actions change -/

namespace Action

variable {o : Outcome} {action : Action} {path : String} {place : Place}

/-- A path goes on leading to its file. -/
theorem leads_perform (h : o.tree.Leads path place) : (action.perform o).tree.Leads path place := by
  rcases perform_cases o action with ⟨cause, failure, -, failed⟩ | ⟨text, -, printed⟩ |
    ⟨other, made, -, hmade, done⟩ | ⟨other, content, after, -, written, done⟩
  · rwa [failed]
  · rwa [printed]
  · rw [done]
    exact h.makeFolders hmade
  · rw [done]
    exact h.write written

/-- The action changes no file but the one to which it writes. -/
theorem exists_leads_of_perform
    (changed : (action.perform o).tree.file? place ≠ o.tree.file? place) :
    ∃ path, action.target? = some path ∧ (action.perform o).tree.Leads path place := by
  rcases perform_cases o action with ⟨cause, failure, -, failed⟩ | ⟨text, -, printed⟩ |
    ⟨other, made, -, hmade, done⟩ | ⟨path, content, after, target, written, done⟩
  · exact absurd (by rw [failed]) changed
  · exact absurd (by rw [printed]) changed
  · rw [done] at changed
    exact absurd (FileTree.file?_makeFolders hmade place) changed
  · obtain ⟨stored, leads, others⟩ := FileTree.exists_leads_of_write written
    rw [done] at changed ⊢
    obtain rfl : place = stored := Decidable.not_not.mp fun hne => changed (others place hne)
    exact ⟨path, target, leads⟩

/-- An action that goes well has written to its path. -/
theorem exists_leads_of_target (running : (action.perform o).failure = none)
    (target : action.target? = some path) : ∃ place, (action.perform o).tree.Leads path place := by
  rcases perform_cases o action with ⟨cause, failure, -, failed⟩ | ⟨text, none, -⟩ |
    ⟨other, made, none, -⟩ | ⟨other, content, after, same, written, done⟩
  · rw [failed] at running
    cases running
  · rw [none] at target
    cases target
  · rw [none] at target
    cases target
  · obtain rfl : other = path := Option.some.inj (same.symm.trans target)
    obtain ⟨place, leads, -⟩ := FileTree.exists_leads_of_write written
    exact ⟨place, by rwa [done]⟩

end Action

section Runs

variable {o : Outcome} {actions : List Action} {path : String} {place : Place}

theorem leads_performAll (h : o.tree.Leads path place) :
    (performAll o actions).tree.Leads path place := by
  induction actions generalizing o with
  | nil => exact h
  | cons action actions ih =>
    rw [performAll]
    split
    · exact Action.leads_perform h
    · exact ih (Action.leads_perform h)

/-- **The files that actions change are those to which they write**, be it up to a failure. -/
theorem exists_leads_of_performAll
    (changed : (performAll o actions).tree.file? place ≠ o.tree.file? place) :
    ∃ path ∈ actions.filterMap Action.target?, (performAll o actions).tree.Leads path place := by
  -- A path to which an early step has written leads to that file after the later ones too.
  induction actions generalizing o with
  | nil => exact absurd rfl changed
  | cons action actions ih =>
    by_cases first : (action.perform o).tree.file? place = o.tree.file? place
    · rw [performAll] at changed ⊢
      split at changed
      · exact absurd first changed
      · rename_i going
        rw [← first] at changed
        obtain ⟨path, later, leads⟩ := ih changed
        obtain ⟨action', mem, target⟩ := List.mem_filterMap.mp later
        rw [if_neg going]
        exact ⟨path, List.mem_filterMap.mpr ⟨action', .tail _ mem, target⟩, leads⟩
    · obtain ⟨path, target, leads⟩ := Action.exists_leads_of_perform first
      refine ⟨path, List.mem_filterMap.mpr ⟨action, .head _, target⟩, ?_⟩
      rw [performAll]
      split
      · exact leads
      · exact leads_performAll leads

/-- Actions that go well have written to all their paths. -/
theorem exists_leads_of_mem (running : (performAll o actions).failure = none)
    (hpath : path ∈ actions.filterMap Action.target?) :
    ∃ place, (performAll o actions).tree.Leads path place := by
  obtain ⟨written, mem, target⟩ := List.mem_filterMap.mp hpath
  clear hpath
  induction actions generalizing o with
  | nil => cases mem
  | cons action actions ih =>
    rw [performAll] at running ⊢
    split at running
    · rename_i failed
      rw [running] at failed
      cases failed
    · rename_i going
      rw [if_neg going]
      rcases List.mem_cons.mp mem with rfl | later
      · obtain ⟨place, leads⟩ := Action.exists_leads_of_target (by simpa using going) target
        exact ⟨place, leads_performAll leads⟩
      · exact ih running later

end Runs

/-! ## Scripts -/

/-- The names of both files. -/
def Scripts.files (s : Scripts) : List String := [s.definitionFile, s.handlerFile]

section Scripts

variable {s : Scripts} {folder file : String}

/-- The paths to which the scripts are written are those of their files in the folder. -/
theorem Scripts.targets_saveActions (s : Scripts) (folder : String) :
    (s.saveActions folder).filterMap Action.target? = s.files.map (Path.join folder) := rfl

theorem Scripts.exists_suffix_of_mem_files (h : file ∈ s.files) :
    ∃ suffix, isSuffix suffix = true ∧ file = s.templateName ++ suffix := by
  have suffixes : isSuffix "_conv.lua" = true ∧ isSuffix "_conv_handler.lua" = true := by decide
  rcases (by simpa [Scripts.files] using h : file = s.definitionFile ∨ file = s.handlerFile) with
    rfl | rfl
  · exact ⟨_, suffixes.1, rfl⟩
  · exact ⟨_, suffixes.2, rfl⟩

/-- What is left when both files have been written. -/
theorem Scripts.performAll_saveActions {definition handler : String}
    (hdefinition : Path.join folder s.definitionFile = definition)
    (hhandler : Path.join folder s.handlerFile = handler) {tree made first second : FileTree}
    (hmade : tree.makeFolders folder = .ok made)
    (hfirst : made.write definition s.definition.toUTF8 = .ok first)
    (hsecond : first.write handler s.handler.toUTF8 = .ok second) :
    performAll { tree } (s.saveActions folder) = { tree := second } := by
  simp only [saveActions, hdefinition, hhandler, performAll, Action.perform, hmade, hfirst, hsecond,
    Option.isSome_none, Bool.false_eq_true, if_false]

end Scripts

namespace Template

/-- **Saving scripts changes no files but the two to whose paths it writes**, and writes both unless
it fails. These are names in the folder exactly if the template's name has no slash, or spells out
the path of the folder from the root. Otherwise the files are still below the folder if the name
neither starts at the root nor steps to the folder above. -/
theorem saveActions_confined (t : Template) (settings : Script.Settings) (folder : String) :
    let s := t.scripts settings
    (∀ path ∈ (s.saveActions folder).filterMap Action.target?, Path.IsEntry folder path ↔
      '/' ∉ t.name.toList ∨ Path.isAbsolute folder = true ∧
        ∃ rest, '/' ∉ rest.toList ∧ t.name = Path.join folder rest) ∧
    ∀ tree : FileTree, let left := performAll { tree } (s.saveActions folder)
      (left.failure = none → ∀ path ∈ (s.saveActions folder).filterMap Action.target?,
        ∃ place, left.tree.Leads path place) ∧
      ∀ place, left.tree.file? place ≠ tree.file? place →
        ∃ file ∈ s.files, left.tree.Leads (Path.join folder file) place ∧
          (Path.isAbsolute file = false → ".." ∉ Path.parts file →
            ∃ base, left.tree.base folder = .ok base ∧ base <+: place) ∧
          ('/' ∉ t.name.toList →
            ∃ base, left.tree.base folder = .ok base ∧ place = base ++ [file]) := by
  intro s
  refine ⟨fun path hpath => ?_, fun tree => ⟨fun running path hpath => ?_, fun place changed => ?_⟩⟩
  · rw [s.targets_saveActions folder] at hpath
    obtain ⟨file, hfile, rfl⟩ := List.mem_map.mp hpath
    obtain ⟨suffix, hsuffix, rfl⟩ := Scripts.exists_suffix_of_mem_files hfile
    exact Path.isEntry_join_append_iff hsuffix
  · exact exists_leads_of_mem running hpath
  · obtain ⟨path, hpath, leads⟩ := exists_leads_of_performAll changed
    rw [s.targets_saveActions folder] at hpath
    obtain ⟨file, hfile, rfl⟩ := List.mem_map.mp hpath
    obtain ⟨suffix, hsuffix, rfl⟩ := Scripts.exists_suffix_of_mem_files hfile
    refine ⟨_, hfile, leads, fun relative up => ?_, fun slash => ?_⟩
    · exact leads.exists_prefix relative (append_ne hsuffix (by decide)) up
    · exact leads.exists_eq (isPlain_append hsuffix slash)

/-- A template with a plain name. -/
def granary : Template :=
  .ofDraft
    { name := "granary"
      screens := [{ id := ⟨1⟩, name := "door", text := "Wipe your feet." }] }
    (by decide)

/-- A new folder, and possibly the first of two files at a place, possibly both. -/
def saved (place : Place) (stem : String) (contents : List ByteArray) : FileTree :=
  let names := [stem ++ "_conv.lua", stem ++ "_conv_handler.lua"]
  (names.zip contents).foldl (fun tree entry => tree.put (place ++ [entry.1]) (.file entry.2))
    ((FileTree.empty ["srv"]).put ["srv", "out"] .folder)

theorem performAll_granary (definition handler : String) :
    performAll { tree := .empty ["srv"] }
        (Scripts.saveActions ⟨"granary", definition, handler⟩ "out") =
      { tree := saved ["srv", "out"] "granary" [definition.toUTF8, handler.toUTF8] } := by
  have paths : Path.join "out" ("granary" ++ "_conv.lua") = "out/granary_conv.lua" ∧
      Path.join "out" ("granary" ++ "_conv_handler.lua") = "out/granary_conv_handler.lua" := by
    decide
  have made : (FileTree.empty ["srv"]).makeFolders "out" =
      .ok (saved ["srv", "out"] "granary" []) := rfl
  have first (definition : ByteArray) :
      (saved ["srv", "out"] "granary" []).write "out/granary_conv.lua" definition =
        .ok (saved ["srv", "out"] "granary" [definition]) := rfl
  have second (definition handler : ByteArray) :
      (saved ["srv", "out"] "granary" [definition]).write "out/granary_conv_handler.lua" handler =
        .ok (saved ["srv", "out"] "granary" [definition, handler]) := rfl
  have definitionPath :
      Path.join "out" (Scripts.definitionFile ⟨"granary", definition, handler⟩) = _ := paths.1
  have handlerPath :
      Path.join "out" (Scripts.handlerFile ⟨"granary", definition, handler⟩) = _ := paths.2
  exact Scripts.performAll_saveActions definitionPath handlerPath made (first _) (second _ _)

/-- The scripts of the granary are saved in the folder. -/
theorem saveActions_confined_granary :
    let actions := (granary.scripts {}).saveActions "out"
    let left := performAll { tree := .empty ["srv"] } actions
    let place := ["srv", "out", "granary_conv.lua"]
    (∀ path ∈ actions.filterMap Action.target?, Path.IsEntry "out" path) ∧
      (left.failure = none ∧ left.tree.file? place ≠ (FileTree.empty ["srv"]).file? place) ∧
      (∀ path ∈ actions.filterMap Action.target?, ∃ place, left.tree.Leads path place) ∧
      ∃ base file, left.tree.base "out" = .ok base ∧ place = base ++ [file] := by
  intro actions left place
  have ended : left = ⟨saved ["srv", "out"] "granary"
      [granary.definitionScript.toUTF8, (granary.handlerScript {}).toUTF8], "", none⟩ :=
    performAll_granary _ _
  have running : left.failure = none := by rw [ended]
  have content (definition handler : ByteArray) :
      (saved ["srv", "out"] "granary" [definition, handler]).file? place = some definition := rfl
  have changed : left.tree.file? place ≠ (FileTree.empty ["srv"]).file? place := by
    have before : (FileTree.empty ["srv"]).file? place = none := rfl
    rw [ended, content, before]
    nofun
  have slash : '/' ∉ granary.name.toList := by decide
  obtain ⟨entries, files⟩ := saveActions_confined granary {} "out"
  obtain ⟨written, confined⟩ := files (.empty ["srv"])
  obtain ⟨file, -, -, -, inside⟩ := confined place changed
  obtain ⟨base, hbase, hplace⟩ := inside slash
  exact ⟨fun path hpath => (entries path hpath).mpr (.inl slash), ⟨running, changed⟩,
    written running, base, file, hbase, hplace⟩

/-- A template whose name steps to the folder above. -/
def watchtower : Template :=
  .ofDraft
    { name := "../watchtower"
      screens := [{ id := ⟨1⟩, name := "gate", text := "Halt!" }] }
    (by decide)

theorem performAll_watchtower (definition handler : String) :
    performAll { tree := .empty ["srv"] }
        (Scripts.saveActions ⟨"../watchtower", definition, handler⟩ "out") =
      { tree := saved ["srv"] "watchtower" [definition.toUTF8, handler.toUTF8] } := by
  have paths :
      Path.join "out" ("../watchtower" ++ "_conv.lua") = "out/../watchtower_conv.lua" ∧
        Path.join "out" ("../watchtower" ++ "_conv_handler.lua") =
          "out/../watchtower_conv_handler.lua" := by
    decide
  have made : (FileTree.empty ["srv"]).makeFolders "out" =
      .ok (saved ["srv"] "watchtower" []) := rfl
  have first (definition : ByteArray) :
      (saved ["srv"] "watchtower" []).write "out/../watchtower_conv.lua" definition =
        .ok (saved ["srv"] "watchtower" [definition]) := rfl
  have second (definition handler : ByteArray) :
      (saved ["srv"] "watchtower" [definition]).write "out/../watchtower_conv_handler.lua" handler =
        .ok (saved ["srv"] "watchtower" [definition, handler]) := rfl
  have definitionPath :
      Path.join "out" (Scripts.definitionFile ⟨"../watchtower", definition, handler⟩) = _ := paths.1
  have handlerPath :
      Path.join "out" (Scripts.handlerFile ⟨"../watchtower", definition, handler⟩) = _ := paths.2
  exact Scripts.performAll_saveActions definitionPath handlerPath made (first _) (second _ _)

/-- The scripts of the watchtower are not saved under names in the folder, but outside, where no
file was. -/
theorem not_confined_watchtower :
    let actions := (watchtower.scripts {}).saveActions "out"
    let left := (performAll { tree := .empty ["srv"] } actions).tree
    (∀ path ∈ actions.filterMap Action.target?, ¬ Path.IsEntry "out" path) ∧
      left.base "out" = .ok ["srv", "out"] ∧ ¬ ["srv", "out"] <+: ["srv", "watchtower_conv.lua"] ∧
      (FileTree.empty ["srv"]).file? ["srv", "watchtower_conv.lua"] = none ∧
      left.file? ["srv", "watchtower_conv.lua"] = some watchtower.definitionScript.toUTF8 := by
  intro actions left
  have ended : left = saved ["srv"] "watchtower"
      [watchtower.definitionScript.toUTF8, (watchtower.handlerScript {}).toUTF8] :=
    congrArg Outcome.tree (performAll_watchtower _ _)
  have holds (definition handler : ByteArray) :
      (saved ["srv"] "watchtower" [definition, handler]).base "out" = .ok ["srv", "out"] ∧
        (saved ["srv"] "watchtower" [definition, handler]).file? ["srv", "watchtower_conv.lua"] =
          some definition := ⟨rfl, rfl⟩
  rw [ended]
  refine ⟨fun path hpath => ?_, (holds _ _).1, by decide, rfl, (holds _ _).2⟩
  rw [(watchtower.scripts {}).targets_saveActions "out"] at hpath
  obtain ⟨file, hfile, rfl⟩ := List.mem_map.mp hpath
  obtain ⟨suffix, hsuffix, rfl⟩ := Scripts.exists_suffix_of_mem_files hfile
  have slash : '/' ∈ watchtower.name.toList := by decide
  have relative : Path.isAbsolute "out" = false := by decide
  rw [Path.isEntry_join_append_iff hsuffix, relative]
  rintro (plain | ⟨absolute, -⟩)
  · exact plain slash
  · cases absolute

end Template

end Dialogue
