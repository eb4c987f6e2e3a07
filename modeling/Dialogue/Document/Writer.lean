import Dialogue.Document.Basic
import Dialogue.Json.Layout

/-!
# Writing documents

The JSON form of a document as `Document.toJson` writes it: every field in its declared order,
except that the number of a response is left out when there is none.
-/

namespace Dialogue

open Json

/-- The JSON form of a response. -/
def ChoiceEntry.layout (e : ChoiceEntry) : Layout :=
  .object <|
    (match e.id with
      | some id => [("id", .natural id)]
      | none => []) ++
    [("text", .text e.text),
      ("stfReference", .optional .text e.key),
      ("next_screen", .optional (fun id => .natural id.number) e.target)]

/-- The JSON form of a screen. -/
def ScreenEntry.layout (e : ScreenEntry) : Layout :=
  .object
    [("id", .natural e.id.number),
      ("id_name", .text e.name),
      ("custom_dialog_text", .text e.text),
      ("leftDialog", .optional .text e.key),
      ("stop_conversation", .boolean e.terminal),
      ("task_action", .optional .text e.action),
      ("task_reaction", .optional .text e.reaction),
      ("task_title", .optional .text e.title),
      ("task_description", .optional .text e.description),
      ("options", .list (e.choices.map (·.layout)))]

/-- The JSON form of a template. -/
def Document.layout (d : Document) : Layout :=
  .object
    [("id", .optional (fun id => .natural id.number) d.id),
      ("name", .text d.name),
      ("stf_mode", .boolean d.localized),
      ("stf_path_prefix", .text d.keyPrefix),
      ("initial_screen", .optional (fun id => .natural id.number) d.initialScreen),
      ("screens", .list (d.screens.map (·.layout)))]

/-- The JSON text of a document. -/
def Document.toJson (d : Document) : String := d.layout.render

end Dialogue
