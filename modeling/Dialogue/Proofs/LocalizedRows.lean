import Dialogue.Localization.Mode
import Dialogue.Localization.Rows
import Dialogue.Proofs.FirstFailure

/-!
# The rows of a localized template

Localizing a template hands out a table with its texts under their keys. The rows can also be read
off the localized template itself, through its references. Both agree if the file that the
references name has no colon. If it has one, every reference is read as that file alone, and hence
with one and the same key.

* `Template.localizedLines`: the lines after localization, each with its row in the table.

Results:
* `Template.conversationRows_eq_ok_iff`: a template yields rows if each of its lines does.
* `Template.lines_localize`, `Template.rows_localize`: the localized template and its table, line by
  line.
* `Template.row?_of_mem_localizedLines`: when the row that is read off a localized line is the one
  in the table.
* `Template.row?_eq_of_mem_localizedLines`: it is, if the file has no colon and the keys to come can
  stand in references.
* **`Template.conversationRows_localize_iff`**: exactly when the rows of a localized template are
  those of its table.
-/

namespace Dialogue

/-! ## Rows of lines -/

/-- The row for a line, if its reference can be read. -/
def Line.row? (l : Line) : Option Row := l.keyId?.map fun id => ⟨id, l.text⟩

theorem Line.row_eq_ok_iff {owner : String} {l : Line} {r : Row} :
    l.row owner = .ok r ↔ l.row? = some r := by
  unfold Line.row Line.row? Line.keyId?
  cases l.key with
  | none => simp
  | some reference => cases h : KeyReference.parse? reference <;> simp [h]

namespace Template

theorem conversationRows_eq_ok_iff {t : Template} {rows : List Row} (h : t.localized = true) :
    t.conversationRows = .ok rows ↔ t.lines.map Line.row? = rows.map some := by
  rw [conversationRows_eq h, mapM_eq_ok_iff (g := fun p => p.2.row?) fun _ _ => Line.row_eq_ok_iff,
    ← map_snd_ownedLines, List.map_map]
  rfl

end Template

/-! ## Localized lines -/

theorem Line.isKeyId_of_keyId? {l : Line} {id : String} (h : l.keyId? = some id) : IsKeyId id := by
  obtain ⟨r, hr, rfl⟩ := Option.map_eq_some_iff.mp h
  obtain ⟨reference, -, hp⟩ := Option.bind_eq_some_iff.mp hr
  exact KeyReference.isKeyId_of_parse? hp

section

variable {keyPrefix template : String}

/-- A reference is read with the key that it was given. -/
theorem Line.keyId?_of_key_eq {l : Line} {id : String}
    (colon : ':' ∉ (keyPrefix ++ template).toList) (hid : IsKeyId id)
    (h : l.key = some (KeyReference.format keyPrefix template id)) : l.keyId? = some id := by
  unfold Line.keyId?
  rw [h, Option.bind_some, KeyReference.parse?_format_of_not_mem colon hid]
  rfl

/-- Rebasing keeps keys. -/
theorem Line.keyId?_rebase (colon : ':' ∉ (keyPrefix ++ template).toList) (l : Line) :
    (l.rebase keyPrefix template).keyId? = l.keyId? := by
  unfold Line.rebase
  cases h : l.keyId? with
  | none => exact h
  | some id => exact Line.keyId?_of_key_eq colon (Line.isKeyId_of_keyId? h) rfl

theorem Line.text_rebase (l : Line) : (l.rebase keyPrefix template).text = l.text := by
  unfold Line.rebase
  cases l.keyId? <;> rfl

end

section

variable {σ : Type} [KeyGenerator σ]

/-- A line keeps a key that can stand in references, and so do fresh ones. -/
theorem Line.isKeyId_keyIdOr {keys : σ} (fresh : IsKeyId (KeyGenerator.next keys).1) (l : Line) :
    IsKeyId (l.keyIdOr keys).1 := by
  unfold Line.keyIdOr
  split
  · rename_i id h
    exact Line.isKeyId_of_keyId? h
  · exact fresh

/-- What is left of a proper generator is proper. -/
theorem Line.proper_localize {keyPrefix template : String} (keys : σ) (l : Line)
    (proper : KeyGenerator.Proper keys) :
    KeyGenerator.Proper (l.localize keyPrefix template keys).2 := by
  cases h : l.keyId? with
  | some id => simpa only [Line.localize, Line.keyIdOr, h] using proper
  | none => simpa only [Line.localize, Line.keyIdOr, h] using proper.next

namespace Template

variable (t : Template) (keys : σ)

/-- The lines after localization, each with its row in the table. -/
def localizedLines : List (Line × Row) :=
  (mapAccum (Line.localize t.keyPrefix t.name) keys t.lines).1

theorem lines_localize : (t.localize keys).1.1.lines = (t.localizedLines keys).map (·.1) :=
  Arena.lines_mapAccumLines (Line.localize t.keyPrefix t.name) keys t.toArena

theorem rows_localize : (t.localize keys).1.2.rows = (t.localizedLines keys).map (·.2) :=
  Arena.values_mapAccumLines (Line.localize t.keyPrefix t.name) keys t.toArena

variable {t keys} {p : Line × Row}

theorem mem_rows_localize (h : p ∈ t.localizedLines keys) : p.2 ∈ (t.localize keys).1.2.rows := by
  rw [rows_localize]
  exact List.mem_map_of_mem h

theorem exists_of_mem_lines_localize {l : Line} (h : l ∈ (t.localize keys).1.1.lines) :
    ∃ p ∈ t.localizedLines keys, p.1 = l := by
  rw [lines_localize] at h
  exact List.mem_map.mp h

/-- A localized line refers to the key of its row, and shows the text of its row. -/
theorem of_mem_localizedLines (h : p ∈ t.localizedLines keys) :
    p.1.key = some (KeyReference.format t.keyPrefix t.name p.2.key) ∧ p.1.text = p.2.value := by
  obtain ⟨state, l, -, rfl⟩ := mem_mapAccum h
  exact ⟨rfl, rfl⟩

theorem isKeyId_of_proper (proper : KeyGenerator.Proper keys) (h : p ∈ t.localizedLines keys) :
    IsKeyId p.2.key := by
  obtain ⟨state, proper, l, -, rfl⟩ := mem_mapAccum_of_step Line.proper_localize proper h
  exact l.isKeyId_keyIdOr proper.isKeyId_next

theorem isKeyId_of_mem_localizedLines (fresh : ∀ keys : σ, IsKeyId (KeyGenerator.next keys).1)
    (h : p ∈ t.localizedLines keys) : IsKeyId p.2.key :=
  isKeyId_of_proper (fun _ => fresh _) h

theorem row?_of_mem_localizedLines (h : p ∈ t.localizedLines keys) :
    p.1.row? = some p.2 ↔
      (KeyReference.parse? (KeyReference.format t.keyPrefix t.name p.2.key)).map (·.key) =
        some p.2.key := by
  obtain ⟨hk, ht⟩ := of_mem_localizedLines h
  rw [Line.row?, Line.keyId?, hk, ht]
  constructor
  · intro he
    obtain ⟨id, hid, hr⟩ := Option.map_eq_some_iff.mp he
    rw [Option.bind_some] at hid
    rw [hid, ← hr]
  · intro he
    rw [Option.bind_some, he]
    rfl

/-- A localized line is read as its row. -/
theorem row?_eq_of_mem_localizedLines (colon : ':' ∉ (t.keyPrefix ++ t.name).toList)
    (proper : KeyGenerator.Proper keys) (h : p ∈ t.localizedLines keys) : p.1.row? = some p.2 := by
  rw [row?_of_mem_localizedLines h,
    KeyReference.parse?_format_of_not_mem colon (isKeyId_of_proper proper h)]
  rfl

theorem keyId?_eq_of_mem_localizedLines (colon : ':' ∉ (t.keyPrefix ++ t.name).toList)
    (proper : KeyGenerator.Proper keys) (h : p ∈ t.localizedLines keys) :
    p.1.keyId? = some p.2.key := by
  obtain ⟨id, hid, hr⟩ := Option.map_eq_some_iff.mp (row?_eq_of_mem_localizedLines colon proper h)
  rw [hid, ← hr]

end Template

end

/-! ## Tables -/

namespace Template

/-- **The rows of a localized template are those of its table exactly if the file of its references
has no colon, or all keys happen to be the one that this file is read with.** -/
theorem conversationRows_localize_iff (t : Template) (keys : SequentialKeys) :
    (t.localize keys).1.1.conversationRows = .ok (t.localize keys).1.2.rows ↔
      ':' ∉ (t.keyPrefix ++ t.name).toList ∨
        ∀ r ∈ (t.localize keys).1.2.rows,
          (KeyReference.parse? (t.keyPrefix ++ t.name)).map (·.key) = some r.key := by
  have lines : (t.localize keys).1.1.conversationRows = .ok (t.localize keys).1.2.rows ↔
      ∀ p ∈ t.localizedLines keys, p.1.row? = some p.2 := by
    rw [conversationRows_eq_ok_iff rfl, lines_localize, rows_localize, List.map_map, List.map_map,
      List.map_inj_left]
    rfl
  rw [lines]
  by_cases colon : ':' ∈ (t.keyPrefix ++ t.name).toList
  · -- The keys behind the first colon are not looked at.
    rw [or_iff_right (not_not_intro colon), rows_localize, List.forall_mem_map]
    refine forall₂_congr fun p hp => ?_
    rw [row?_of_mem_localizedLines hp, KeyReference.parse?_format_of_mem colon]
  · refine iff_of_true (fun p hp => ?_) (Or.inl colon)
    have fresh : ∀ keys : SequentialKeys, IsKeyId (KeyGenerator.next keys).1 :=
      fun keys => isKeyId_sequentialKey (keys.last + 1)
    rw [row?_of_mem_localizedLines hp,
      KeyReference.parse?_format_of_not_mem colon (isKeyId_of_mem_localizedLines fresh hp)]
    rfl

/-- A cellar whose name has a colon. -/
def innCellar : Template :=
  .ofDraft
    { name := "inn:cellar"
      screens :=
        [{ id := ⟨1⟩, name := "stairs", text := "It is dark."
           choices := [{ text := "Light a candle." }] }] }
    (by decide)

/-- Both texts of the cellar are read off under the rest of its name, which is not in the table. -/
theorem conversationRows_localize_innCellar :
    (innCellar.localize (⟨0⟩ : SequentialKeys)).1.2.rows =
        [⟨"s_00000001", "It is dark."⟩, ⟨"s_00000002", "Light a candle."⟩] ∧
      (innCellar.localize (⟨0⟩ : SequentialKeys)).1.1.conversationRows =
        .ok [⟨"cellar", "It is dark."⟩, ⟨"cellar", "Light a candle."⟩] :=
  ⟨by rfl, by rfl⟩

end Template

end Dialogue
