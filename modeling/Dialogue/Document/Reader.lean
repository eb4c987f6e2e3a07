import Dialogue.Document.Basic
import Dialogue.Json.Reader

/-!
# Reading documents

The JSON form of a document, which is read by `Document.ofJson`. Of a template nothing must be
given; of a screen the identifier and the name.
-/

namespace Dialogue

open Json

/-- Reads the identifier of a screen. -/
def ScreenId.reader : Reader ScreenId := fun cs =>
  (Reader.natural cs).map fun (n, rest) => (⟨n⟩, rest)

/-- Reads the identifier of a template. -/
def TemplateId.reader : Reader TemplateId := fun cs =>
  (Reader.natural cs).map fun (n, rest) => (⟨n⟩, rest)

/-- The JSON form of a response. -/
def ChoiceEntry.record : Record ChoiceEntry where
  title := "struct OptionSchema"
  blank := {}
  fields :=
    [field "id" (Reader.optional Reader.natural) fun id e => { e with id },
      field "text" Reader.text fun text e => { e with text },
      field "stfReference" (Reader.optional Reader.text) fun key e => { e with key },
      field "next_screen" (Reader.optional ScreenId.reader) fun target e => { e with target }]

/-- The JSON form of a screen. -/
def ScreenEntry.record : Record ScreenEntry where
  title := "struct ScreenSchema"
  blank := { id := ⟨0⟩, name := "" }
  fields :=
    [field "id" ScreenId.reader (fun id e => { e with id }) true,
      field "id_name" Reader.text (fun name e => { e with name }) true,
      field "custom_dialog_text" Reader.text fun text e => { e with text },
      field "leftDialog" (Reader.optional Reader.text) fun key e => { e with key },
      field "stop_conversation" Reader.boolean fun terminal e => { e with terminal },
      field "task_action" (Reader.optional Reader.text) fun action e => { e with action },
      field "task_reaction" (Reader.optional Reader.text) fun reaction e => { e with reaction },
      field "task_title" (Reader.optional Reader.text) fun title e => { e with title },
      field "task_description" (Reader.optional Reader.text) fun description e =>
        { e with description },
      field "options" (Reader.list ChoiceEntry.record.read) fun choices e => { e with choices }]

/-- The JSON form of a template. -/
def Document.record : Record Document where
  title := "struct TemplateSchema"
  blank := {}
  fields :=
    [field "id" (Reader.optional TemplateId.reader) fun id d => { d with id },
      field "name" Reader.text fun name d => { d with name },
      field "stf_mode" Reader.boolean fun localized d => { d with localized },
      field "stf_path_prefix" Reader.text fun keyPrefix d => { d with keyPrefix },
      field "initial_screen" (Reader.optional ScreenId.reader) fun initialScreen d =>
        { d with initialScreen },
      field "screens" (Reader.list ScreenEntry.record.read) fun screens d => { d with screens }]

/-- The document in a JSON text. -/
def Document.ofJson (json : String) : Except Problem Document := parse Document.record.read json

end Dialogue
