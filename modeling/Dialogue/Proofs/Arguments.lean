import Dialogue.CommandLine.Run

/-!
# Asking for commands

A command has many spellings on the command line. Each has one at least, whatever its paths and its
prefix of probes look like, as values can be joined to the names of their options and two dashes can
stand in front of the document.

* `CommandLine.AsksFor`: arguments ask for a command.

Results:
* `CommandLine.run_of_asksFor`: what the program then shows.
* **`CommandLine.asksFor_arguments`**: every command can be asked for, if its paths are not empty.
-/

namespace Dialogue

open Storage

namespace CommandLine

/-- The arguments ask for the command. -/
def AsksFor (arguments : List String) (c : Command) : Prop :=
  Request.ofArguments arguments = some (.run c)

theorem run_of_asksFor {arguments : List String} {c : Command} (h : AsksFor arguments c)
    (tree : FileTree) : run arguments tree = reportOf (c.run tree) := by
  rw [run, show Request.ofArguments arguments = some (.run c) from h]

/-- An option and its value in one argument. -/
def spelled (name value : String) : String := "--" ++ name ++ "=" ++ value

theorem itemOf_spelled {vocabulary : Vocabulary} {name : String} {o : Opt}
    (known : vocabulary.long.lookup name = some (.option o)) (equals : '=' ∉ name.toList)
    (value : String) : itemOf vocabulary (spelled name value) = .value o value := by
  have chars : (spelled name value).toList =
      '-' :: '-' :: (name.toList ++ '=' :: value.toList) := by
    simp [spelled]
  have own : ∀ c ∈ name.toList, (c != '=') = true := fun c hc => by
    have : c ≠ '=' := fun he => equals (he ▸ hc)
    simpa using this
  have item : longItem vocabulary (name.toList ++ '=' :: value.toList) = .value o value := by
    simp [longItem, List.takeWhile_append_of_pos own, List.dropWhile_append_of_pos own, known]
  -- Behind the two dashes stands something, so they do not end the options.
  obtain ⟨c, rest, body⟩ : ∃ c rest, name.toList ++ '=' :: value.toList = c :: rest := by
    cases name.toList <;> simp
  rw [body] at chars item
  simp [itemOf, chars, item]

/-- The arguments for a file to write. -/
def outputArguments (output : Option String) : List String := output.toList.map (spelled "output")

end CommandLine

/-- Arguments that ask for a command. The document comes last, behind two dashes. -/
def Command.arguments : Command → List String
  | .definition document output =>
    "lua" :: (CommandLine.outputArguments output ++ ["--", document])
  | .handler document output probePrefix =>
    "handler" :: CommandLine.spelled "probe-prefix" probePrefix ::
      (CommandLine.outputArguments output ++ ["--", document])
  | .table document output => "stf" :: (CommandLine.outputArguments output ++ ["--", document])
  | .tasks document output => "task-stf" :: (CommandLine.outputArguments output ++ ["--", document])
  | .everything document folder => ["all", CommandLine.spelled "out-dir" folder, "--", document]

/-- The paths that a command is told. -/
def Command.paths : Command → List String
  | .definition document output | .handler document output _ | .table document output
  | .tasks document output => document :: output.toList
  | .everything document folder => [document, folder]

namespace CommandLine

theorem readArguments_document {v : Verb} {g : Given} {path : String} (fresh : g.document = none)
    (hne : path ≠ "") :
    readArguments v g none false ["--", path] =
      ({ g with document := some path } : Given).request v := by
  simp [readArguments, itemOf, Given.addDocument, fresh, hne]

theorem readArguments_spelled {v : Verb} {g : Given} {name value : String} {o : Opt}
    (known : v.vocabulary.long.lookup name = some (.option o)) (equals : '=' ∉ name.toList)
    (fresh : g.values.lookup o = none) (accepted : o.accepts value = true) (rest : List String) :
    readArguments v g none false (spelled name value :: rest) =
      readArguments v { g with values := (o, value) :: g.values } none false rest := by
  simp [readArguments, itemOf_spelled known equals, Given.addValue, fresh, accepted]

theorem readArguments_output {v : Verb} {g : Given} {output : Option String} {document : String}
    (known : v.vocabulary.long.lookup "output" = some (.option .output))
    (fresh : g.document = none) (unset : g.values.lookup .output = none)
    (h : "" ∉ document :: output.toList) :
    readArguments v g none false (outputArguments output ++ ["--", document]) =
      ({ document := some document
         values := output.toList.map (Opt.output, ·) ++ g.values } : Given).request v := by
  obtain ⟨hdocument, houtput⟩ := not_or.mp (mt List.mem_cons.mpr h)
  cases output with
  | none => exact readArguments_document fresh (Ne.symm hdocument)
  | some path =>
    have accepted : Opt.output.accepts path = true := by
      have : path ≠ "" := by simpa [eq_comm] using houtput
      simpa [Opt.accepts] using this
    rw [outputArguments, Option.toList_some, List.map_singleton, List.singleton_append,
      readArguments_spelled known (by decide) unset accepted]
    exact readArguments_document fresh (Ne.symm hdocument)

/-- **Every command can be asked for** whose paths are not empty. -/
theorem asksFor_arguments {c : Command} (h : "" ∉ c.paths) : AsksFor c.arguments c := by
  cases c with
  | definition document output =>
    refine (readArguments_output rfl rfl rfl h).trans ?_
    cases output <;> rfl
  | handler document output probePrefix =>
    refine (readArguments_spelled rfl (by decide) rfl rfl _).trans ?_
    refine (readArguments_output rfl rfl rfl h).trans ?_
    cases output <;> rfl
  | table document output =>
    refine (readArguments_output rfl rfl rfl h).trans ?_
    cases output <;> rfl
  | tasks document output =>
    refine (readArguments_output rfl rfl rfl h).trans ?_
    cases output <;> rfl
  | everything document folder =>
    obtain ⟨hdocument, hfolder⟩ := not_or.mp (mt List.mem_cons.mpr h)
    have accepted : Opt.folder.accepts folder = true := by
      have : folder ≠ "" := by simpa [eq_comm] using hfolder
      simpa [Opt.accepts] using this
    refine (readArguments_spelled rfl (by decide) rfl accepted _).trans ?_
    exact readArguments_document rfl (Ne.symm hdocument)

end CommandLine

end Dialogue
