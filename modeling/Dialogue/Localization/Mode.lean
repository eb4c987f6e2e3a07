import Dialogue.Localization.KeyReference
import Dialogue.Localization.Keys
import Dialogue.StringTable.Basic
import Dialogue.Template.Traversal

/-!
# Switching between literal and localized texts

A localized template shows its texts by reference, and a string table holds them under the keys of
these references.

* `Template.localize` gives every text a reference and collects the texts in a table.
* `Template.toLiteral` takes the texts back from a table; the references stay.
* `Template.rebase` points the references at another file and leaves their keys.

Results:
* `Line.toLiteral_eq`: a text is found in the table under its key.
* `Template.lines_toLiteral`, `Template.lines_rebase`: both work line by line.
-/

namespace Dialogue

/-- The key of the text, if its reference can be read. -/
def Line.keyId? (l : Line) : Option String := (l.key.bind KeyReference.parse?).map (·.key)

/-- The key that the line has, or else a fresh one. -/
def Line.keyIdOr {σ : Type} [KeyGenerator σ] (keys : σ) (l : Line) : String × σ :=
  match l.keyId? with
  | some id => (id, keys)
  | none => KeyGenerator.next keys

/-- The line with a reference below `keyPrefix` and `template`, and the row for its text. -/
def Line.localize {σ : Type} [KeyGenerator σ] (keyPrefix template : String) (keys : σ) (l : Line) :
    (Line × Row) × σ :=
  let (id, keys) := l.keyIdOr keys
  (({ l with key := some (KeyReference.format keyPrefix template id) }, ⟨id, l.text⟩), keys)

/-- The line with the text that is found for its key; an empty text counts as none. -/
def Line.translate (textOf? : String → Option String) (l : Line) : Line :=
  match (l.keyId?.bind textOf?).filter (! ·.isEmpty) with
  | some text => { l with text }
  | none => l

/-- The line with the text that the table has for it. -/
def Line.toLiteral (table : StringTable) (l : Line) : Line :=
  l.translate (StringTable.lookup · table.sorted)

/-- Looking a text up in the sorted rows is looking it up in the table. -/
theorem Line.toLiteral_eq (table : StringTable) (l : Line) :
    l.toLiteral table = l.translate table.get? := by
  unfold toLiteral
  congr 1
  funext key
  exact table.lookup_sorted key

/-- The line with its reference, if it can be read, below `keyPrefix` and `template`. -/
def Line.rebase (keyPrefix template : String) (l : Line) : Line :=
  match l.keyId? with
  | some id => { l with key := some (KeyReference.format keyPrefix template id) }
  | none => l

section

variable {textOf? : String → Option String} {l : Line}

/-- Only the text of the line changes, and it stays unless another one is found. -/
theorem Line.translate_eq (textOf? : String → Option String) (l : Line) :
    l.translate textOf? =
      { l with text := ((l.keyId?.bind textOf?).filter (! ·.isEmpty)).getD l.text } := by
  unfold translate
  cases (l.keyId?.bind textOf?).filter (! ·.isEmpty) <;> rfl

@[simp] theorem Line.keyId?_translate : (l.translate textOf?).keyId? = l.keyId? := by
  rw [translate_eq]
  rfl

/-- A text that is found, and is not empty, takes the place of the line's own. -/
theorem Line.translate_of_some {id text : String} (hid : l.keyId? = some id)
    (found : textOf? id = some text) (ne_empty : text ≠ "") :
    l.translate textOf? = { l with text } := by
  simp [translate_eq, hid, found, Option.filter, ne_empty]

/-- Where no text is found, or an empty one, the line stays as it is. -/
theorem Line.translate_of_forall
    (h : ∀ id, l.keyId? = some id → ∀ text, textOf? id = some text → text = "") :
    l.translate textOf? = l := by
  have none : (l.keyId?.bind textOf?).filter (! ·.isEmpty) = none := by
    rw [Option.filter_eq_none_iff]
    intro text found
    obtain ⟨id, hid, found⟩ := Option.bind_eq_some_iff.mp found
    simp [h id hid text found]
  rw [translate_eq, none]
  rfl

end

/-! ## Arenas -/

namespace Arena

/-- The arena in localized mode, with the table of its texts in the order of the lines. -/
def localize {σ : Type} [KeyGenerator σ] (a : Arena) (keys : σ) : (Arena × StringTable) × σ :=
  let ((converted, rows), keys) := a.mapAccumLines (Line.localize a.keyPrefix a.name) keys
  ((converted.withLocalized true, ⟨rows⟩), keys)

/-- The arena in literal mode, with the texts that the table has for it. The rows are sorted once,
for all lines. -/
def toLiteral (a : Arena) (table : StringTable) : Arena :=
  let texts := table.sorted
  (a.mapLines (·.translate (StringTable.lookup · texts))).withLocalized false

/-- The arena with its references below another prefix. -/
def rebase (a : Arena) (keyPrefix : String) : Arena :=
  (a.mapLines (·.rebase keyPrefix a.name)).withKeyPrefix keyPrefix

namespace Sound

variable {a : Arena}

theorem localize {σ : Type} [KeyGenerator σ] (h : a.Sound) (keys : σ) :
    (a.localize keys).1.1.Sound :=
  (h.mapAccumLines (Line.localize a.keyPrefix a.name) keys).withLocalized true

theorem toLiteral (h : a.Sound) (table : StringTable) : (a.toLiteral table).Sound :=
  (h.mapLines (·.toLiteral table)).withLocalized false

theorem rebase (h : a.Sound) (keyPrefix : String) : (a.rebase keyPrefix).Sound :=
  (h.mapLines (·.rebase keyPrefix a.name)).withKeyPrefix keyPrefix

end Sound

end Arena

/-! ## Templates -/

namespace Template

/-- The template in localized mode, with the table of its texts in the order of the lines. -/
def localize {σ : Type} [KeyGenerator σ] (t : Template) (keys : σ) :
    (Template × StringTable) × σ :=
  let converted := t.toArena.localize keys
  ((⟨converted.1.1, t.sound.localize keys⟩, converted.1.2), converted.2)

/-- The template in literal mode, with the texts that the table has for it. -/
def toLiteral (t : Template) (table : StringTable) : Template :=
  ⟨t.toArena.toLiteral table, t.sound.toLiteral table⟩

/-- The template with its references below another prefix. -/
def rebase (t : Template) (keyPrefix : String) : Template :=
  ⟨t.toArena.rebase keyPrefix, t.sound.rebase keyPrefix⟩

theorem lines_toLiteral (t : Template) (table : StringTable) :
    (t.toLiteral table).lines = t.lines.map (·.toLiteral table) :=
  Arena.lines_mapLines (·.toLiteral table) t.toArena

theorem lines_rebase (t : Template) (keyPrefix : String) :
    (t.rebase keyPrefix).lines = t.lines.map (·.rebase keyPrefix t.name) :=
  Arena.lines_mapLines (·.rebase keyPrefix t.name) t.toArena

end Template

end Dialogue
