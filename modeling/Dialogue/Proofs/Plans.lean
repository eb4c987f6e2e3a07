import Dialogue.Plan
import Dialogue.Proofs.Storage.Contents

/-!
# Plans that write files

Steps that write files with new names into a folder succeed one after the other, and the folder
holds those files afterwards. A plan that is put together from parts writes what its parts write.

* `Action.target?`: the path to which an action writes.
* `Action.Stores`: a step writes a content to a path.
* `Fills`, `Plan.Makes`: steps, or a whole plan, write the given files into a folder.

Results:
* **`Action.perform_cases`**: what a step can do.
* `performAll_of_stores`: a step that writes a file goes well or ends the run.
* **`Fills.run`**: steps that write files with new names succeed.
* `Plan.Makes.andThen`: one plan writes its files after the other.
-/

namespace Dialogue

open Storage

/-! ## Steps -/

namespace Action

/-- The path to which the action writes. -/
def target? : Action → Option String
  | writeScript path _ | writeTable path _ => some path
  | makeFolders _ | print _ => none

/-- **What a step can do**: it fails because of files, prints, makes folders, or writes to its
path. -/
theorem perform_cases (o : Outcome) (action : Action) :
    (∃ cause failure, (failure = .writing cause ∨ failure = .encoding (.io cause)) ∧
        action.perform o = { o with failure := some failure }) ∨
      (∃ text, action.target? = none ∧
        action.perform o = { o with printed := o.printed ++ text }) ∨
      (∃ path made, action.target? = none ∧ o.tree.makeFolders path = .ok made ∧
        action.perform o = { o with tree := made }) ∨
      ∃ path content after, action.target? = some path ∧ o.tree.write path content = .ok after ∧
        action.perform o = { o with tree := after } := by
  cases action with
  | makeFolders path =>
    cases h : o.tree.makeFolders path with
    | error cause => exact .inl ⟨cause, _, .inl rfl, by simp only [perform, h]⟩
    | ok made => exact .inr (.inr (.inl ⟨path, made, rfl, h, by simp only [perform, h]⟩))
  | writeScript path script =>
    cases h : o.tree.write path script.toUTF8 with
    | error cause => exact .inl ⟨cause, _, .inl rfl, by simp only [perform, h]⟩
    | ok after => exact .inr (.inr (.inr ⟨path, _, after, rfl, h, by simp only [perform, h]⟩))
  | writeTable path bytes =>
    cases h : o.tree.write path bytes.toByteArray with
    | error cause => exact .inl ⟨cause, _, .inr rfl, by simp only [perform, h]⟩
    | ok after => exact .inr (.inr (.inr ⟨path, _, after, rfl, h, by simp only [perform, h]⟩))
  | print text => exact .inr (.inl ⟨text, rfl, rfl⟩)

/-- Carrying out the action writes a content to a path. -/
def Stores (action : Action) (path : String) (content : ByteArray) (wrap : OsError → Failure) :
    Prop :=
  ∀ o : Outcome, action.perform o =
    match o.tree.write path content with
    | .ok tree => { o with tree }
    | .error cause => { o with failure := some (wrap cause) }

theorem stores_writeScript (path script : String) :
    (writeScript path script).Stores path script.toUTF8 .writing := fun _ => rfl

theorem stores_writeTable (path : String) (bytes : List UInt8) :
    (writeTable path bytes).Stores path bytes.toByteArray (.encoding <| .io ·) := fun _ => rfl

end Action

theorem performAll_of_stores {action : Action} {path : String} {content : ByteArray}
    {wrap : OsError → Failure} (h : action.Stores path content wrap) {o : Outcome}
    (running : o.failure = none) (rest : List Action) :
    performAll o (action :: rest) =
      match o.tree.write path content with
      | .ok tree => performAll { o with tree } rest
      | .error cause => { o with failure := some (wrap cause) } := by
  simp only [performAll, h o]
  cases o.tree.write path content with
  | error cause => rfl
  | ok tree => simp [running]

/-! ## Steps that fill a folder -/

/-- Steps that write the given files into a folder in order, and print. -/
inductive Fills (folder : String) : List Action → List (String × ByteArray) → Prop
  /-- No steps write no files. -/
  | nil : Fills folder [] []
  /-- What is printed is no file. -/
  | print (text : String) {actions : List Action} {files : List (String × ByteArray)}
      (rest : Fills folder actions files) : Fills folder (.print text :: actions) files
  /-- A step writes the next file. -/
  | store {action : Action} {name : String} {content : ByteArray} {wrap : OsError → Failure}
      {actions : List Action} {files : List (String × ByteArray)}
      (stores : action.Stores (Path.join folder name) content wrap) (names : Names folder name)
      (rest : Fills folder actions files) :
      Fills folder (action :: actions) ((name, content) :: files)

namespace Fills

variable {folder : String} {actions : List Action} {files : List (String × ByteArray)}

theorem append {others : List Action} {further : List (String × ByteArray)}
    (h : Fills folder actions files) (h' : Fills folder others further) :
    Fills folder (actions ++ others) (files ++ further) := by
  induction h with
  | nil => exact h'
  | print text _ ih => exact .print text ih
  | store stores names _ ih => exact .store stores names ih

/-- **Steps that write files with new names succeed**, and the folder holds those files then. -/
theorem run (h : Fills folder actions files) {o : Outcome} (running : o.failure = none)
    {place : Place} {held : List (String × ByteArray)} (holds : o.tree.Holds folder place held)
    (new : ((held ++ files).map (·.1)).Nodup) :
    (performAll o actions).failure = none ∧
      (performAll o actions).tree.Holds folder place (held ++ files) := by
  -- Each step that writes moves one file from those to come to those that are held.
  induction h generalizing o held with
  | nil =>
    rw [List.append_nil]
    exact ⟨running, holds⟩
  | @print text actions files _ ih =>
    have printed : performAll o (.print text :: actions) =
        performAll { o with printed := o.printed ++ text } actions := by
      simp [performAll, Action.perform, running]
    rw [printed]
    exact ih (o := { o with printed := o.printed ++ text }) running holds new
  | @store action name content wrap actions files stores names _ ih =>
    have fresh : name ∉ held.map (·.1) := fun old => by
      rw [List.map_append, List.nodup_append] at new
      exact new.2.2 name old name (by simp) rfl
    obtain ⟨after, written, holds⟩ := holds.write names fresh content
    rw [performAll_of_stores stores running, written]
    rw [List.append_cons] at new ⊢
    exact ih (o := { o with tree := after }) running holds new

end Fills

/-! ## Plans -/

namespace Plan

theorem failure_andThen (p q : Plan) : (p.andThen q).failure = p.failure.or q.failure := by
  unfold andThen
  cases h : p.failure <;> simp [h]

theorem actions_andThen {p : Plan} (h : p.failure = none) (q : Plan) :
    (p.andThen q).actions = p.actions ++ q.actions := by
  simp [andThen, h]

theorem failure_of_perform {tree : FileTree} {p : Plan} (h : (p.perform tree).failure = none) :
    p.failure = none :=
  (Option.or_eq_none_iff.mp h).2

end Plan

/-- The plan ends well and writes the given files into a folder. -/
structure Plan.Makes (p : Plan) (folder : String) (files : List (String × ByteArray)) : Prop where
  /-- Nothing goes wrong after the steps. -/
  failure : p.failure = none
  /-- The steps write the files. -/
  fills : Fills folder p.actions files

namespace Plan

variable {folder : String} {files : List (String × ByteArray)}

theorem Makes.andThen {p q : Plan} {others : List (String × ByteArray)} (hp : p.Makes folder files)
    (hq : q.Makes folder others) : (p.andThen q).Makes folder (files ++ others) where
  failure := by simp [failure_andThen, hp.failure, hq.failure]
  fills := by
    rw [actions_andThen hp.failure]
    exact hp.fills.append hq.fills

theorem makes_empty : Makes {} folder [] := ⟨rfl, .nil⟩

end Plan

end Dialogue
