import Dialogue.Source
import Dialogue.Workbench

/-!
# Plans

What a run does to files, as data: a list of actions, and possibly the failure with which the run
ends after them. `Plan.perform` carries a plan out on a file tree, up to the first action that
fails; what was done before stays.

* `Scripts.saveActions` and `StringTable.savePlan` are the plans that store the results of
  compilation.

Results:
* `Plan.perform_failed`: a plan without actions leaves the files alone and prints nothing.
* `performAll_append`: actions are carried out one after the other.
-/

namespace Dialogue

open Decimal Storage

/-! ## Failures -/

/-- Why a run ends with an error. -/
inductive Failure where
  /-- The file of the document cannot be read. -/
  | reading (path : String) (cause : OsError)
  /-- The file does not hold a document. -/
  | json (problem : Json.Problem)
  /-- The document has a fault. -/
  | fault (cause : Fault)
  /-- The template does not yield the rows of a string table. -/
  | localization (cause : LocalizationError)
  /-- A string table has no binary form or cannot be written. -/
  | encoding (cause : EncodingError)
  /-- A script cannot be written. -/
  | writing (cause : OsError)
  deriving DecidableEq, Repr

/-- The message for a failure. -/
def Failure.message : Failure → String
  | .reading path cause => "Failed to read template file '" ++ path ++ "': " ++ cause.message
  | .json problem => documentMessage problem
  | .fault cause => cause.message
  | .localization cause => cause.message
  | .encoding cause => cause.message
  | .writing cause => cause.message

/-! ## Plans -/

/-- A step of a run. -/
inductive Action where
  /-- Makes a folder and those around it. -/
  | makeFolders (path : String)
  /-- Writes a script. -/
  | writeScript (path : String) (script : String)
  /-- Writes the binary form of a string table. -/
  | writeTable (path : String) (bytes : List UInt8)
  /-- Prints a text. -/
  | print (text : String)
  deriving DecidableEq, Repr

/-- The steps of a run, and the failure that ends it when all of them have succeeded. -/
structure Plan where
  /-- The steps in order. -/
  actions : List Action := []
  /-- What goes wrong after the steps. -/
  failure : Option Failure := none
  deriving DecidableEq, Repr

/-- The plan that carries out one plan and then, if it ends well, another. -/
def Plan.andThen (p q : Plan) : Plan :=
  match p.failure with
  | some _ => p
  | none => ⟨p.actions ++ q.actions, q.failure⟩

/-- The plan that goes on with a result, or ends with its failure. -/
def Plan.of {ε α : Type} (wrap : ε → Failure) (result : Except ε α) (next : α → Plan) : Plan :=
  match result with
  | .ok value => next value
  | .error cause => { failure := some (wrap cause) }

/-- Stores both scripts in a folder, which is made first. -/
def Scripts.saveActions (s : Scripts) (folder : String) : List Action :=
  [.makeFolders folder,
    .writeScript (Path.join folder s.definitionFile) s.definition,
    .writeScript (Path.join folder s.handlerFile) s.handler]

/-- Stores the binary form of a string table. -/
def StringTable.savePlan (t : StringTable) (path : String) : Plan :=
  .of .encoding t.encode fun bytes => { actions := [.writeTable path bytes] }

/-! ## Carrying plans out -/

/-- What a run leaves behind. -/
structure Outcome where
  /-- The files afterwards. -/
  tree : FileTree
  /-- What has been printed. -/
  printed : String := ""
  /-- Why the run ended early. -/
  failure : Option Failure := none

/-- Carries out one step. -/
def Action.perform (o : Outcome) : Action → Outcome
  | .makeFolders path =>
    match o.tree.makeFolders path with
    | .ok tree => { o with tree }
    | .error cause => { o with failure := some (.writing cause) }
  | .writeScript path script =>
    match o.tree.write path script.toUTF8 with
    | .ok tree => { o with tree }
    | .error cause => { o with failure := some (.writing cause) }
  | .writeTable path bytes =>
    match o.tree.write path bytes.toByteArray with
    | .ok tree => { o with tree }
    | .error cause => { o with failure := some (.encoding (.io cause)) }
  | .print text => { o with printed := o.printed ++ text }

/-- Carries out steps up to the first that fails. -/
def performAll (o : Outcome) : List Action → Outcome
  | [] => o
  | action :: rest =>
    let o := action.perform o
    if o.failure.isSome then o else performAll o rest

/-- Carries out a plan. -/
def Plan.perform (tree : FileTree) (p : Plan) : Outcome :=
  let o := performAll { tree } p.actions
  { o with failure := o.failure.or p.failure }

theorem Plan.perform_failed (tree : FileTree) (cause : Failure) :
    Plan.perform tree { failure := some cause } = { tree, failure := some cause } := rfl

theorem performAll_append (o : Outcome) (first second : List Action) :
    performAll o (first ++ second) =
      if (performAll o first).failure.isSome && ! first.isEmpty then performAll o first
      else performAll (performAll o first) second := by
  induction first generalizing o with
  | nil => simp [performAll]
  | cons action first ih =>
    simp only [List.cons_append, performAll]
    by_cases h : (action.perform o).failure.isSome = true
    · simp [h]
    · simp only [h, Bool.false_eq_true, if_false, ih, List.isEmpty_cons, Bool.not_false,
        Bool.and_true]
      cases first with
      | nil => simp [performAll, h]
      | cons _ _ => simp

end Dialogue
