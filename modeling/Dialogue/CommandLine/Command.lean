import Dialogue.Plan

/-!
# Commands

What the program can be asked to do with a document. A command reads the document's file; the text
determines the plan for the rest.

Results:
* `Command.run_of_unreadable`: a document that cannot be read leaves the files alone.
-/

namespace Dialogue

open Decimal Storage

/-! ## Commands -/

/-- What the program is asked to do with the document at a path. -/
inductive Command where
  /-- Makes the definition script. -/
  | definition (document : String) (output : Option String)
  /-- Makes the handler script. -/
  | handler (document : String) (output : Option String) (probePrefix : String)
  /-- Makes the string table of the texts. -/
  | table (document : String) (output : Option String)
  /-- Makes the string table of the journal. -/
  | tasks (document : String) (output : Option String)
  /-- Makes everything, in a folder. -/
  | everything (document : String) (folder : String)
  deriving DecidableEq, Repr

/-- The path of the document. -/
def Command.document : Command → String
  | .definition document _ | .handler document _ _ | .table document _ | .tasks document _
  | .everything document _ => document

/-- The line that reports a file. -/
def wrote (path : String) : String := "Wrote '" ++ path ++ "'\n"

/-- The line that reports the file of a string table. -/
def wroteStrings (count : Nat) (path : String) : String :=
  "Wrote " ++ numeral count ++ " strings to '" ++ path ++ "'\n"

/-- The line that reports the file of a string table among other files. -/
def wroteWithStrings (count : Nat) (path : String) : String :=
  "Wrote '" ++ path ++ "' (" ++ numeral count ++ " strings)\n"

/-- Writes a script to a file and reports it, or prints it. -/
def scriptPlan (output : Option String) (script : String) : Plan :=
  match output with
  | some path => { actions := [.writeScript path script, .print (wrote path)] }
  | none => { actions := [.print script] }

/-- Prints a text. -/
def printPlan (text : String) : Plan := { actions := [.print text] }

/-- Writes a string table to a file and reports it. -/
def tablePlan (path report : String) (table : StringTable) : Plan :=
  (table.savePlan path).andThen (printPlan report)

/-- Writes a string table to a file of a folder and reports it. -/
def tableInFolder (folder file : String) (table : StringTable) : Plan :=
  let path := Path.join folder file
  tablePlan path (wroteWithStrings table.size path) table

/-- Writes the scripts of a template into a folder and reports them. -/
def scriptsPlan (folder : String) (s : Scripts) : Plan :=
  { actions := s.saveActions folder ++
      [.print (wrote (Path.join folder s.definitionFile)),
        .print (wrote (Path.join folder s.handlerFile))] }

/-- Writes the texts of a localized template into a folder. -/
def conversationPlan (folder : String) (t : Template) : Plan :=
  if t.localized then
    .of .localization t.conversationTable (tableInFolder folder (t.name ++ ".stf"))
  else {}

/-- Writes the journal of a template into a folder, if it has one. -/
def journalPlan (folder : String) (t : Template) : Plan :=
  if t.taskTable.isEmpty then {} else tableInFolder folder (t.name ++ "_tasks.stf") t.taskTable

/-- Writes everything that a template makes into a folder. -/
def everythingPlan (folder : String) (t : Template) : Plan :=
  .of .fault (t.compile {}) fun scripts =>
    (scriptsPlan folder scripts).andThen
      ((conversationPlan folder t).andThen (journalPlan folder t))

/-- What a command does with a template. -/
def Command.planFor (t : Template) : Command → Plan
  | .definition _ output => .of .fault t.compileDefinition (scriptPlan output)
  | .handler _ output probePrefix =>
    .of .fault (t.compileHandler { probePrefix }) (scriptPlan output)
  | .table _ output =>
    .of .localization t.conversationTable fun table =>
      let path := output.getD (t.name ++ ".stf")
      tablePlan path (wroteStrings table.size path) table
  | .tasks _ output =>
    let path := output.getD (t.name ++ "_tasks.stf")
    tablePlan path (wroteStrings t.taskTable.size path) t.taskTable
  | .everything _ folder => everythingPlan folder t

/-- What a command does with the text of its document. -/
def Command.plan (c : Command) (json : String) : Plan :=
  .of .json (Document.ofJson json) fun document =>
    .of .fault document.toTemplate fun t => c.planFor t

/-- Runs a command. -/
def Command.run (tree : FileTree) (c : Command) : Outcome :=
  match tree.readText c.document with
  | .error cause => { tree, failure := some (.reading c.document cause) }
  | .ok json => (c.plan json).perform tree

theorem Command.run_of_unreadable {tree : FileTree} {c : Command} {cause : OsError}
    (h : tree.readText c.document = .error cause) :
    c.run tree = { tree, failure := some (.reading c.document cause) } := by
  simp [Command.run, h]

end Dialogue
