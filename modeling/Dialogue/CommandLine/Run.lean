import Dialogue.CommandLine.Arguments

/-!
# Runs of the program

From the arguments and the files to the exit code, the output and the files afterwards.

Results:
* `exitCode_reportOf`: the exit code is zero exactly if nothing ended the run early.
* `run_of_misuse`: a command line that is not understood changes nothing and exits with code 2.
-/

namespace Dialogue.CommandLine

open Storage

/-- What a run shows to the outside. -/
structure Report where
  /-- The exit code. -/
  exitCode : Nat
  /-- What has been printed. -/
  printed : String := ""
  /-- Why the run ended early. -/
  failure : Option Failure := none
  /-- The files afterwards. -/
  tree : FileTree

/-- What the program prints when it is asked for its version. -/
def versionText : String := "convoforge 0.1.0\n"

/-- What the program prints when it is asked for help. -/
def helpText : String :=
  Text.unlines
    ["Compiles conversation templates into Lua scripts and string tables.",
      "",
      "  lua TEMPLATE [-o FILE]",
      "  handler TEMPLATE [-o FILE] [--probe-prefix TEXT]",
      "  stf TEMPLATE [-o FILE]",
      "  task-stf TEMPLATE [-o FILE]",
      "  all TEMPLATE [-o FOLDER]"]

/-- What a command leaves behind, with the exit code that goes with it. -/
def reportOf (o : Outcome) : Report where
  exitCode := if o.failure.isSome then 1 else 0
  printed := o.printed
  failure := o.failure
  tree := o.tree

theorem exitCode_reportOf {o : Outcome} : (reportOf o).exitCode = 0 ↔ o.failure = none := by
  cases h : o.failure <;> simp [reportOf, h]

/-- Runs the program. -/
def run (arguments : List String) (tree : FileTree) : Report :=
  match Request.ofArguments arguments with
  | none => { exitCode := 2, tree }
  | some .help => { exitCode := 0, printed := helpText, tree }
  | some .version => { exitCode := 0, printed := versionText, tree }
  | some (.run command) => reportOf (command.run tree)

theorem run_of_misuse {arguments : List String} (h : Request.ofArguments arguments = none)
    (tree : FileTree) : run arguments tree = { exitCode := 2, tree } := by
  simp [run, h]

end Dialogue.CommandLine
