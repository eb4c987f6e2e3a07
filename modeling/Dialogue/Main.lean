import Dialogue.CommandLine.Run

/-!
# The program

Carries plans out on the files of the operating system. What a command does, in which order and with
which messages, is decided by `Command.plan`; here each action becomes the system call of its name.
-/

namespace Dialogue

open Storage

/-- The cause behind an error of the operating system. Some calls report a code by its negative. -/
def Storage.OsError.ofSystem : IO.Error → OsError
  | .noFileOrDirectory .. => .notFound
  | .alreadyExists .. => .alreadyExists
  | .inappropriateType _ code _ => if code = 20 ∨ code = -20 then .notAFolder else .isAFolder
  | .permissionDenied .. => .other "Permission denied (os error 13)"
  | .invalidArgument _ code details =>
    if code = 36 ∨ code = -36 then .nameTooLong else .other details
  | cause => .other (toString cause)

/-- The result of a system call, or the cause of its failure. -/
def attempt {α : Type} (call : IO α) : IO (Except OsError α) :=
  tryCatch (Except.ok <$> call) fun cause => pure (.error (.ofSystem cause))

/-! ## Files of the system -/

/-- Makes a folder and those around it. A failure of the folder itself counts before one of the
folders around it. -/
def makeSystemFolders (path : String) : IO (Except OsError Unit) := do
  match ← attempt (IO.FS.createDirAll path) with
  | .ok () => pure (.ok ())
  | .error cause =>
    match ← attempt (IO.FS.createDir path) with
    | .error .notFound => pure (.error cause)
    | result => pure result

/-- Reads the text in a file. -/
def readSystemText (path : String) : IO (Except OsError String) := do
  match ← attempt (IO.FS.readBinFile path) with
  | .error cause => pure (.error cause)
  | .ok content =>
    match String.fromUTF8? content with
    | some text => pure (.ok text)
    | none => pure (.error .invalidText)

/-! ## Carrying plans out -/

/-- Carries out one step, and answers with its failure if it fails. -/
def Action.execute (action : Action) : IO (Option Failure) := do
  let (result, wrap) : Except OsError Unit × (OsError → Failure) ←
    match action with
    | .makeFolders path => do pure (← makeSystemFolders path, .writing)
    | .writeScript path script => do pure (← attempt (IO.FS.writeFile path script), .writing)
    | .writeTable path bytes => do
      let result ← attempt (IO.FS.writeBinFile path bytes.toByteArray)
      pure (result, fun cause => .encoding (.io cause))
    | .print text => do pure (← attempt (IO.print text), .writing)
  match result with
  | .ok () => pure none
  | .error cause => pure (some (wrap cause))

/-- Carries out the steps of a plan up to the first that fails, and answers with the failure that
ends the run. -/
def Plan.execute (p : Plan) : IO (Option Failure) := do
  for action in p.actions do
    if let some failure ← action.execute then return some failure
  return p.failure

/-- Runs a command, and answers with the failure that ends it. -/
def Command.execute (c : Command) : IO (Option Failure) := do
  match ← readSystemText c.document with
  | .error cause => pure (some (.reading c.document cause))
  | .ok json => (c.plan json).execute

/-- Runs the program on the files of the system, and answers with its exit code. -/
def CommandLine.execute (arguments : List String) : IO UInt32 := do
  match Request.ofArguments arguments with
  | none =>
    IO.eprint helpText
    return 2
  | some .help =>
    IO.print helpText
    return 0
  | some .version =>
    IO.print versionText
    return 0
  | some (.run command) =>
    match ← command.execute with
    | none => return 0
    | some failure =>
      IO.eprintln ("\nError: " ++ failure.message)
      return 1

end Dialogue

/-- Runs the program. -/
def main (arguments : List String) : IO UInt32 := Dialogue.CommandLine.execute arguments
