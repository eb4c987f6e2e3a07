import Dialogue.Localization.KeyReference
import Dialogue.StringTable.Basic
import Dialogue.Template.Traversal

/-!
# The rows that a template contributes to string tables

A localized template yields a row for each of its lines, provided that each has a reference that can
be read. Screens that activate a task yield the title and the description of its journal entry.

Results:
* `Template.map_snd_ownedLines`: the lines that are asked for rows are the template's lines in
  order.
* **`Template.conversationRows_eq`**: a localized template's rows are those of its lines, up to the
  first line that has none.
-/

namespace Dialogue

open Decimal

/-- Why a template yields no rows. -/
inductive LocalizationError where
  /-- The template shows its texts literally. -/
  | notLocalized (template : String)
  /-- A text has no reference. -/
  | missingKey (owner : String)
  /-- A reference cannot be read. -/
  | malformedKey (reference : String)
  /-- The template itself is at fault. -/
  | fault (cause : Fault)
  deriving DecidableEq, Repr

/-- The message for a localization error. -/
def LocalizationError.message : LocalizationError → String
  | .notLocalized template => "Template '" ++ template ++ "' is not in localization mode"
  | .missingKey owner => owner ++ " has no localization key"
  | .malformedKey reference =>
    "'" ++ reference ++ "' is not a valid localization reference (expected <file>:<key>)"
  | .fault f => f.message

/-! ## Conversation texts -/

/-- How messages name a screen. -/
def screenOwner (screen : String) : String := "Screen '" ++ screen ++ "'"

/-- How messages name the choice at a position, counted from 1. -/
def choiceOwner (position : Nat) (screen : String) : String :=
  "Option " ++ numeral position ++ " of screen '" ++ screen ++ "'"

/-- The lines of a screen, each with the name of its owner. -/
def Screen.ownedLines (s : Screen) : List (String × Line) :=
  (screenOwner s.name, s.toLine) ::
    (s.choices.zipIdx 1).map fun (c, position) => (choiceOwner position s.name, c.toLine)

/-- The row for a line with the given owner. -/
def Line.row (owner : String) (l : Line) : Except LocalizationError Row :=
  match l.key with
  | none => .error (.missingKey owner)
  | some reference =>
    match KeyReference.parse? reference with
    | none => .error (.malformedKey reference)
    | some r => .ok ⟨r.key, l.text⟩

namespace Template

/-- The lines of a template, each with the name of its owner. -/
def ownedLines (t : Template) : List (String × Line) := t.screens.flatMap (·.ownedLines)

/-- The rows for the texts of a localized template, in the order of its lines. -/
def conversationRows (t : Template) : Except LocalizationError (List Row) :=
  if t.localized then t.ownedLines.mapM fun (owner, line) => line.row owner
  else .error (.notLocalized t.name)

theorem map_snd_ownedLines (t : Template) : t.ownedLines.map (·.2) = t.lines := by
  simp only [ownedLines, Draft.lines, List.map_flatMap]
  congr 1
  funext s
  have h : ∀ n, (s.choices.zipIdx n).map (fun p => p.1.toLine) =
      s.choices.map (·.toLine) := fun n => by
    have := congrArg (List.map fun c : Choice => c.toLine) (List.zipIdx_map_fst n s.choices)
    rwa [List.map_map] at this
  simpa [Screen.ownedLines, Screen.lines, Function.comp_def] using h 1

/-- **A localized template's rows are those of its lines.** -/
theorem conversationRows_eq {t : Template} (h : t.localized = true) :
    t.conversationRows = t.ownedLines.mapM fun p => p.2.row p.1 := by
  simp [conversationRows, h]

/-! ## Journal texts -/

/-- The action of triggers that put a task into the journal. -/
def taskAction : String := "activateTask"

/-- The two journal rows of the task with the given number. -/
def journalRows (trigger : QuestTrigger) (number : Nat) : List Row :=
  let task := "task" ++ paddedNumeral 2 number
  [⟨task ++ "_journal_entry_title", trigger.title.getD ""⟩,
    ⟨task ++ "_journal_entry_description", trigger.description.getD ""⟩]

/-- The triggers that put a task into the journal, in the order of their screens. -/
def taskTriggers (t : Template) : List QuestTrigger :=
  (t.screens.filterMap (·.trigger)).filter (·.action == taskAction)

/-- The journal rows of all tasks, which are numbered from 0. -/
def taskRows (t : Template) : List Row :=
  t.taskTriggers.zipIdx.flatMap fun (trigger, number) => journalRows trigger number

end Template

end Dialogue
