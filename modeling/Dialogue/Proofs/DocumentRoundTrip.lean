import Dialogue.Document.Reader
import Dialogue.Document.Writer
import Dialogue.Proofs.Json.Writing

/-!
# Documents are read as they were written

A document is written member by member, each on a line of its own, and every field is read back from
the text under its name. The number of a response is left out if there is none, and is absent again
when the response is read.

Results:
* `ChoiceEntry.writes_layout`, `ScreenEntry.writes_layout`, `Document.writes_layout`: the parts of
  documents are read as they were written, at any depth.
* **`Document.ofJson_toJson`**: so is the text of a document.
-/

namespace Dialogue

open Json Layout

theorem ScreenId.writes_natural (id : ScreenId) : Writes ScreenId.reader (.natural id.number) id :=
  fun depth => takes_map ScreenId.mk (fun _ => rfl) (Layout.writes_natural id.number depth)

theorem TemplateId.writes_natural (id : TemplateId) :
    Writes TemplateId.reader (.natural id.number) id :=
  fun depth => takes_map TemplateId.mk (fun _ => rfl) (Layout.writes_natural id.number depth)

/-- A response is read as it was written, be its number left out or not. -/
theorem ChoiceEntry.writes_layout (e : ChoiceEntry) : Writes ChoiceEntry.record.read e.layout e := by
  obtain ⟨id, text, key, target⟩ := e
  have target' := writes_optional (o := target) ScreenId.writes_natural fun id =>
    head?_natural id.number
  have keeps : List.Forall₂ (Keeps ChoiceEntry.record) _ _ :=
    .cons (keeps_field "text" rfl (writes_text text)) <|
    .cons (keeps_field "stfReference" rfl (writes_optional_text key)) <|
    .cons (keeps_field "next_screen" rfl target') .nil
  cases id with
  | none =>
    exact writes_object ["text", "stfReference", "next_screen"] keeps rfl (by decide) (by decide)
  | some id =>
    have number : Keeps ChoiceEntry.record ("id", .natural id) _ :=
      keeps_field "id" rfl fun depth => takes_some (takes_natural id) (head?_natural id depth)
    exact writes_object ["id", "text", "stfReference", "next_screen"] (.cons number keeps) rfl
      (by decide) (by decide)

/-- A screen is read as it was written. -/
theorem ScreenEntry.writes_layout (e : ScreenEntry) : Writes ScreenEntry.record.read e.layout e := by
  have choices : Writes (Reader.list ChoiceEntry.record.read) (.list (e.choices.map (·.layout)))
      e.choices := writes_list fun c _ => c.writes_layout
  have keeps : List.Forall₂ (Keeps ScreenEntry.record) _ _ :=
    .cons (keeps_field "id" rfl e.id.writes_natural) <|
    .cons (keeps_field "id_name" rfl (writes_text e.name)) <|
    .cons (keeps_field "custom_dialog_text" rfl (writes_text e.text)) <|
    .cons (keeps_field "leftDialog" rfl (writes_optional_text e.key)) <|
    .cons (keeps_field "stop_conversation" rfl (writes_boolean e.terminal)) <|
    .cons (keeps_field "task_action" rfl (writes_optional_text e.action)) <|
    .cons (keeps_field "task_reaction" rfl (writes_optional_text e.reaction)) <|
    .cons (keeps_field "task_title" rfl (writes_optional_text e.title)) <|
    .cons (keeps_field "task_description" rfl (writes_optional_text e.description)) <|
    .cons (keeps_field "options" rfl choices) .nil
  exact writes_object ["id", "id_name", "custom_dialog_text", "leftDialog", "stop_conversation",
    "task_action", "task_reaction", "task_title", "task_description", "options"] keeps rfl
    (by decide) (by decide)

/-- The members of a document are read as they were written. -/
theorem Document.writes_layout (d : Document) : Writes Document.record.read d.layout d := by
  have id := writes_optional (o := d.id) TemplateId.writes_natural fun id => head?_natural id.number
  have initialScreen := writes_optional (o := d.initialScreen) ScreenId.writes_natural fun id =>
    head?_natural id.number
  have screens : Writes (Reader.list ScreenEntry.record.read) (.list (d.screens.map (·.layout)))
      d.screens := writes_list fun s _ => s.writes_layout
  have keeps : List.Forall₂ (Keeps Document.record) _ _ :=
    .cons (keeps_field "id" rfl id) <|
    .cons (keeps_field "name" rfl (writes_text d.name)) <|
    .cons (keeps_field "stf_mode" rfl (writes_boolean d.localized)) <|
    .cons (keeps_field "stf_path_prefix" rfl (writes_text d.keyPrefix)) <|
    .cons (keeps_field "initial_screen" rfl initialScreen) <|
    .cons (keeps_field "screens" rfl screens) .nil
  exact writes_object ["id", "name", "stf_mode", "stf_path_prefix", "initial_screen", "screens"]
    keeps rfl (by decide) (by decide)

/-- **A document is read as it was written**, whatever it holds. -/
theorem Document.ofJson_toJson (d : Document) : Document.ofJson d.toJson = .ok d := by
  have read : Document.record.read (d.layout 0 ++ []) = .ok (d, []) :=
    (d.writes_layout 0).eq_of_endsValue rfl
  rw [List.append_nil] at read
  unfold Document.ofJson Document.toJson parse Layout.render
  rw [String.toList_ofList, read]
  rfl

end Dialogue
