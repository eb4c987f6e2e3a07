import Dialogue.Document.Reader
import Dialogue.Proofs.Json.Forms

/-!
# The forms of documents

Editors write the objects of a document in their own way: with fields in any order, without those
that hold their default, and with fields of their own. None of this makes a difference.

* `Document.parts`: the fields of the object for a document, with what they hold and what stands for
  them when they are missing. Only the identifier and the name of a screen have to be there.
* `Document.Spells`: a text is a way to write a document.

Results:
* `ChoiceEntry.fits_record`, `ScreenEntry.fits_record`, `Document.fits_record`: what is read are
  these fields.
* `Document.eq_of_spells`: no text is a way to write two documents.
* **`Document.ofJson_of_spells`**: a document is read from each text that is a way to write it.
-/

namespace Dialogue

open Json

/-! ## Fields -/

/-- The identifier of a screen is written as a number. -/
def ScreenId.form : Form ScreenId := fun id => Form.natural id.number

/-- The identifier of a template is written as a number. -/
def TemplateId.form : Form TemplateId := fun id => Form.natural id.number

/-- The fields of a response. -/
def ChoiceEntry.parts : List (NamedPart ChoiceEntry) :=
  [.optional "id" (·.id) .natural,
    .defaulted "text" (·.text) .text "",
    .optional "stfReference" (·.key) .text,
    .optional "next_screen" (·.target) ScreenId.form]

/-- The ways to write a response. -/
def ChoiceEntry.form : Form ChoiceEntry := .object ChoiceEntry.parts

/-- The fields of a screen. -/
def ScreenEntry.parts : List (NamedPart ScreenEntry) :=
  [.required "id" (·.id) ScreenId.form,
    .required "id_name" (·.name) .text,
    .defaulted "custom_dialog_text" (·.text) .text "",
    .optional "leftDialog" (·.key) .text,
    .defaulted "stop_conversation" (·.terminal) .boolean false,
    .optional "task_action" (·.action) .text,
    .optional "task_reaction" (·.reaction) .text,
    .optional "task_title" (·.title) .text,
    .optional "task_description" (·.description) .text,
    .defaulted "options" (·.choices) ChoiceEntry.form.list []]

/-- The ways to write a screen. -/
def ScreenEntry.form : Form ScreenEntry := .object ScreenEntry.parts

/-- The fields of a document. -/
def Document.parts : List (NamedPart Document) :=
  [.optional "id" (·.id) TemplateId.form,
    .defaulted "name" (·.name) .text "",
    .defaulted "stf_mode" (·.localized) .boolean false,
    .defaulted "stf_path_prefix" (·.keyPrefix) .text "@conversation/",
    .optional "initial_screen" (·.initialScreen) ScreenId.form,
    .defaulted "screens" (·.screens) ScreenEntry.form.list []]

/-- The ways to write a document. -/
def Document.form : Form Document := .object Document.parts

/-- The text is a way to write the document, with nothing but blanks around it. -/
def Document.Spells (d : Document) (json : String) : Prop := Document.form.Whole d json

/-! ## Reading -/

theorem ScreenId.reads_form : Reads ScreenId.reader ScreenId.form := fun id cs h =>
  takes_map ScreenId.mk (fun _ => rfl) (reads_natural id.number cs h)

theorem TemplateId.reads_form : Reads TemplateId.reader TemplateId.form := fun id cs h =>
  takes_map TemplateId.mk (fun _ => rfl) (reads_natural id.number cs h)

theorem reads_optional_text : Reads (Reader.optional Reader.text) (Form.optional Form.text) :=
  reads_optional reads_text fun _ _ => head?_of_text

theorem reads_optional_screenId :
    Reads (Reader.optional ScreenId.reader) (Form.optional ScreenId.form) :=
  reads_optional ScreenId.reads_form fun _ _ => head?_of_natural

theorem ChoiceEntry.fits_record : ChoiceEntry.record.Fits ChoiceEntry.parts where
  fields := by
    have number := reads_optional reads_natural fun _ _ => head?_of_natural
    refine .cons (.stores number ?_ ?_ ?_) (.cons (.stores reads_text ?_ ?_ ?_)
      (.cons (.stores reads_optional_text ?_ ?_ ?_)
        (.cons (.stores reads_optional_screenId ?_ ?_ ?_) .nil)))
    all_goals simp [parts]
  nodup := by decide
  blank := by simp [parts, record]
  ext v w h := by
    simp only [parts, List.forall_mem_cons] at h
    cases v
    cases w
    simp_all

theorem ChoiceEntry.reads_form : Reads ChoiceEntry.record.read ChoiceEntry.form :=
  Record.reads_object ChoiceEntry.fits_record

theorem ScreenEntry.fits_record : ScreenEntry.record.Fits ScreenEntry.parts where
  fields := by
    have choices := reads_list ChoiceEntry.reads_form
    refine .cons (.stores ScreenId.reads_form ?_ ?_ ?_) (.cons (.stores reads_text ?_ ?_ ?_)
      (.cons (.stores reads_text ?_ ?_ ?_) (.cons (.stores reads_optional_text ?_ ?_ ?_)
      (.cons (.stores reads_boolean ?_ ?_ ?_) (.cons (.stores reads_optional_text ?_ ?_ ?_)
      (.cons (.stores reads_optional_text ?_ ?_ ?_) (.cons (.stores reads_optional_text ?_ ?_ ?_)
      (.cons (.stores reads_optional_text ?_ ?_ ?_) (.cons (.stores choices ?_ ?_ ?_) .nil)))))))))
    all_goals simp [parts]
  nodup := by decide
  blank := by simp [parts, record]
  ext v w h := by
    simp only [parts, List.forall_mem_cons] at h
    cases v
    cases w
    simp_all

theorem ScreenEntry.reads_form : Reads ScreenEntry.record.read ScreenEntry.form :=
  Record.reads_object ScreenEntry.fits_record

theorem Document.fits_record : Document.record.Fits Document.parts where
  fields := by
    have number := reads_optional TemplateId.reads_form fun _ _ => head?_of_natural
    have screens := reads_list ScreenEntry.reads_form
    refine .cons (.stores number ?_ ?_ ?_) (.cons (.stores reads_text ?_ ?_ ?_)
      (.cons (.stores reads_boolean ?_ ?_ ?_) (.cons (.stores reads_text ?_ ?_ ?_)
      (.cons (.stores reads_optional_screenId ?_ ?_ ?_) (.cons (.stores screens ?_ ?_ ?_) .nil)))))
    all_goals simp [parts]
  nodup := by decide
  blank := by simp [parts, record, defaultKeyPrefix]
  ext v w h := by
    simp only [parts, List.forall_mem_cons] at h
    cases v
    cases w
    simp_all

theorem Document.reads_form : Reads Document.record.read Document.form :=
  Record.reads_object Document.fits_record

/-- No text is a way to write two documents. -/
theorem Document.eq_of_spells {d e : Document} {json : String} (hd : d.Spells json)
    (he : e.Spells json) : d = e := by
  have read : parse Document.record.read json = .ok d := parse_of_whole Document.reads_form hd
  rw [parse_of_whole Document.reads_form he] at read
  exact (Except.ok.inj read).symm

/-- **A document is read from each text that is a way to write it.** -/
theorem Document.ofJson_of_spells {d : Document} {json : String} (h : d.Spells json) :
    Document.ofJson json = .ok d :=
  parse_of_whole Document.reads_form h

/-- A screen of a camp. -/
def ScreenEntry.fire : ScreenEntry where
  id := ⟨7⟩
  name := "fire"

/-- A way to write it. -/
def ScreenEntry.fireText : String := "\x7b\"id_name\": \"fire\", \"id\":7, \"task_title\": null\x7d"

theorem ScreenEntry.form_fire : ScreenEntry.form .fire fireText.toList := by
  let name : Member := ⟨Layout.quotedText "id_name", [], [' '], Layout.quotedText "fire"⟩
  let id : Member := ⟨Layout.quotedText "id", [], [], ['7']⟩
  let title : Member := ⟨Layout.quotedText "task_title", [], [' '], ['n', 'u', 'l', 'l']⟩
  have inside := @Enclosed.first .object [] name.chars _ _ rfl rfl <|
    @Enclosed.next _ [] [' '] id.chars _ _ rfl rfl rfl <|
    @Enclosed.next _ [] [' '] title.chars _ _ rfl rfl rfl <| @Enclosed.finished _ _ [] rfl
  refine ⟨[name, id, title], ["id_name", "id", "task_title"], _, by rfl, inside,
    .cons ⟨text_quotedText "id_name", ⟨rfl, rfl⟩, ?_, by simp [parts]⟩ <|
      .cons ⟨text_quotedText "id", ⟨rfl, rfl⟩, ?_, by simp [parts]⟩ <|
      .cons ⟨text_quotedText "task_title", ⟨rfl, rfl⟩, ?_, by simp [parts]⟩ .nil,
    by simp [parts, fire]⟩
  · simpa [parts, fire, name] using text_quotedText "fire"
  · have seven : ScreenId.form ⟨7⟩ ['7'] := rfl
    simpa [parts, fire, id] using seven
  · have absent : Form.optional Form.text none ['n', 'u', 'l', 'l'] := rfl
    simpa [parts, fire, title] using absent

/-- A camp with a fire. -/
def Document.camp : Document where
  name := "camp"
  screens := [.fire]

/-- A way to write the camp. The fields come in another order, most of them are left out, and a
field of an unknown name comes twice. -/
def Document.campText : String :=
  "\n\x7b\"screens\": [" ++ ScreenEntry.fireText ++
    "], \"x\": [1e999 , \x7b\x7d] , \"name\":\t\"camp\", \"x\": true\x7d "

/-- The camp is read from that text. -/
theorem Document.ofJson_of_spells_camp :
    Document.camp.Spells Document.campText ∧
      Document.ofJson Document.campText = .ok Document.camp := by
  have unknown : IsValue "[1e999 , \x7b\x7d]".toList := by
    have digits {d : Char} {ds : List Char} (h : (d :: ds).all Char.isDigit = true) :
        IsDigits (d :: ds) := ⟨List.cons_ne_nil d ds, List.all_eq_true.mp h⟩
    have exponent : IsExponent ['e', '9', '9', '9'] :=
      @IsExponent.power 'e' [] ['9', '9', '9'] (.inl rfl) (.inl rfl) (digits rfl)
    have number : IsValue ['1', 'e', '9', '9', '9'] :=
      .scalar <| .number <| .parts (.inl rfl)
        (@IsInteger.positive '1' [] (by decide) (digits rfl)) .none exponent
    have object : IsValue ['\x7b', '\x7d'] :=
      @IsValue.object [] _ (@Enclosed.finished _ _ [] rfl) (by simp) (by simp) (by simp)
    have inside := @Enclosed.first .list [] ['1', 'e', '9', '9', '9'] _ _ rfl rfl <|
      @Enclosed.next _ [' '] [' '] ['\x7b', '\x7d'] _ _ rfl rfl rfl <|
      @Enclosed.finished _ _ [] rfl
    exact .list inside (by simpa using ⟨number, object⟩)
  have spells : camp.Spells campText := by
    let screens : Member :=
      ⟨Layout.quotedText "screens", [], [' '], '[' :: (ScreenEntry.fireText.toList ++ [']'])⟩
    let first : Member := ⟨Layout.quotedText "x", [], [' '], "[1e999 , \x7b\x7d]".toList⟩
    let name : Member := ⟨Layout.quotedText "name", [], ['\t'], Layout.quotedText "camp"⟩
    let second : Member := ⟨Layout.quotedText "x", [], [' '], ['t', 'r', 'u', 'e']⟩
    have inside := @Enclosed.first .object [] screens.chars _ _ rfl rfl <|
      @Enclosed.next _ [] [' '] first.chars _ _ rfl rfl rfl <|
      @Enclosed.next _ [' '] [' '] name.chars _ _ rfl rfl rfl <|
      @Enclosed.next _ [] [' '] second.chars _ _ rfl rfl rfl <| @Enclosed.finished _ _ [] rfl
    refine ⟨['\n'], _, [' '], ?_, rfl, rfl, [screens, first, name, second],
      ["screens", "x", "name", "x"], _, rfl, inside,
      .cons ⟨text_quotedText "screens", ⟨rfl, rfl⟩, ?_, by simp [parts]⟩ <|
        .cons ⟨text_quotedText "x", ⟨rfl, rfl⟩, by simp [parts], fun _ => unknown⟩ <|
        .cons ⟨text_quotedText "name", ⟨rfl, rfl⟩, ?_, by simp [parts]⟩ <|
        .cons ⟨text_quotedText "x", ⟨rfl, rfl⟩, by simp [parts], fun _ => .scalar .yes⟩ .nil,
      by simp [parts, camp, defaultKeyPrefix]⟩
    · simp only [campText, String.toList_append, Member.chars, screens, List.append_assoc,
        List.cons_append]
      rfl
    · have list : Form.list ScreenEntry.form camp.screens screens.value :=
        ⟨_, _, rfl, @Enclosed.first _ [] _ _ _ rfl rfl <| @Enclosed.finished _ _ [] rfl,
          .cons ScreenEntry.form_fire .nil⟩
      simpa [parts] using list
    · simpa [parts, camp, name] using text_quotedText "camp"
  exact ⟨spells, ofJson_of_spells spells⟩

end Dialogue
