import Dialogue.Proofs.FreshKeys
import Dialogue.Proofs.LineFrame

/-!
# Localizing and going back

A template is localized, and its texts are taken back from the table that localizing made. If no two
rows of the table share a key, every text is its own again, the empty ones included, and nothing is
left of the detour but the references. Otherwise the last row with a key speaks for all texts that
have this key, unless its text is empty.

Results:
* `Template.plain_localize`: without its references and its mode, a localized template is what it was.
* `Template.toLiteral_localize_eq`: where no key repeats, taking the texts back changes none.
* **`Template.toLiteral_localize`**: the texts after going back, whether keys repeat or not, and the
  scripts where they do not.
-/

namespace Dialogue

/-- The text that is taken back for a line whose key the table has. -/
theorem Line.text_toLiteral {table : StringTable} {l : Line} {id text : String}
    (hid : l.keyId? = some id) (hg : table.get? id = some text) :
    (l.toLiteral table).text = if text = "" then l.text else text := by
  rw [Line.toLiteral_eq, Line.translate_eq, hid, Option.bind_some, hg]
  by_cases h : text = ""
  · simp [Option.filter, h]
  · simp [Option.filter, h]

namespace Template

section

variable {σ : Type} [KeyGenerator σ] {t : Template} {keys : σ}

/-- Localizing changes references and the mode, and nothing else. -/
theorem plain_localize :
    (t.localize keys).1.1.plain.toArena = t.plain.toArena.withLocalized true := by
  have line : ∀ (state : σ) (l : Line),
      Line.plain (l.localize t.keyPrefix t.name state).1.1 = l.plain := fun _ _ => rfl
  have lines : (t.toArena.mapAccumLines (Line.localize t.keyPrefix t.name) keys).1.1.mapLines
      Line.plain = t.toArena.mapLines Line.plain :=
    Arena.mapLines_mapAccumLines line keys t.toArena
  exact congrArg (Arena.withLocalized true) lines

theorem texts_localizedLines :
    (t.localizedLines keys).map (·.1.text) = t.lines.map (·.text) :=
  map_mapAccum (h := Line.text) (fun _ _ => rfl) keys t.lines

/-- A line of the template, and the localized line with its row in the same place. -/
theorem getElem?_localizedLines {i : Nat} {l : Line} (h : t.lines[i]? = some l) :
    ∃ p, (t.localizedLines keys)[i]? = some p ∧ p.1.text = l.text := by
  have texts : ((t.localizedLines keys).map (·.1.text))[i]? = (t.lines.map (·.text))[i]? := by
    rw [texts_localizedLines]
  rw [List.getElem?_map, List.getElem?_map, h, Option.map_some] at texts
  exact Option.map_eq_some_iff.mp texts

variable (colon : ':' ∉ (t.keyPrefix ++ t.name).toList) (proper : KeyGenerator.Proper keys)
include colon proper

/-- Each key of the table is found in the table. -/
theorem get?_of_mem_localizedLines {p : Line × Row} (h : p ∈ t.localizedLines keys) :
    p.1.keyId? = some p.2.key ∧ ∃ text, (t.localize keys).1.2.get? p.2.key = some text := by
  refine ⟨keyId?_eq_of_mem_localizedLines colon proper h, ?_⟩
  have hrow := mem_rows_localize h
  unfold StringTable.get?
  cases hf : (t.localize keys).1.2.rows.reverse.find? (·.key == p.2.key) with
  | some r => exact ⟨r.value, rfl⟩
  | none =>
    have := List.find?_eq_none.mp hf p.2 (List.mem_reverse.mpr hrow)
    simp at this

/-- Where no key repeats, taking the texts back changes none. -/
theorem toLiteral_localize_eq (nodup : ((t.localize keys).1.2.rows.map (·.key)).Nodup) :
    ((t.localize keys).1.1.toLiteral (t.localize keys).1.2).toArena =
      (t.localize keys).1.1.toArena.withLocalized false := by
  have self : ∀ l ∈ (t.localize keys).1.1.lines, l.toLiteral (t.localize keys).1.2 = l :=
    fun l hl => Line.toLiteral_eq_self (value_eq_of_nodup colon proper nodup l hl)
  exact congrArg (Arena.withLocalized false) (Arena.mapLines_eq_self self)

end

/-- **Going back undoes localizing if no key of the table repeats**: the texts are the same, and so is
all else but the references and the mode; a template that was literal has the same scripts again. In
any case a text becomes the one of the last row with its key, and stays if that one is empty. -/
theorem toLiteral_localize {σ : Type} [KeyGenerator σ] {t u : Template} {table : StringTable}
    {keys keys' : σ} (h : t.localize keys = ((u, table), keys'))
    (colon : ':' ∉ (t.keyPrefix ++ t.name).toList) (proper : KeyGenerator.Proper keys) :
    ((table.rows.map (·.key)).Nodup →
      (u.toLiteral table).lines.map (·.text) = t.lines.map (·.text) ∧
      (u.toLiteral table).plain.toArena = t.plain.toArena.withLocalized false ∧
      (t.localized = false →
        (u.toLiteral table).definitionScript = t.definitionScript ∧
        ∀ settings, (u.toLiteral table).handlerScript settings = t.handlerScript settings)) ∧
    ∀ (i : Nat) (l : Line), t.lines[i]? = some l →
      ∃ id text before after, (u.lines[i]?).bind Line.keyId? = some id ∧
        table.rows = before ++ ⟨id, text⟩ :: after ∧ (∀ r ∈ after, r.key ≠ id) ∧
        ((u.toLiteral table).lines[i]?).map (·.text) =
          some (if text = "" then l.text else text) := by
  obtain rfl : (t.localize keys).1.1 = u := congrArg (·.1.1) h
  obtain rfl : (t.localize keys).1.2 = table := congrArg (·.1.2) h
  refine ⟨fun nodup => ?_, fun i l hl => ?_⟩
  · have arena := toLiteral_localize_eq colon proper nodup
    have plain : ((t.localize keys).1.1.toLiteral (t.localize keys).1.2).plain.toArena =
        t.plain.toArena.withLocalized false := by
      show Arena.mapLines Line.plain _ = _
      rw [arena]
      exact congrArg (Arena.withLocalized false) plain_localize
    refine ⟨?_, plain, fun literal => ?_⟩
    · have lines := congrArg (fun a : Arena => a.lines.map (·.text)) arena
      refine lines.trans ?_
      show (t.localize keys).1.1.lines.map (·.text) = _
      rw [lines_localize, List.map_map]
      exact texts_localizedLines
    · refine scripts_eq_of_plain_eq literal rfl (eq_of_toArena_eq (plain.trans ?_))
      have same : t.plain.toArena.localized = false := literal
      rw [Arena.withLocalized, ← same]
  · obtain ⟨p, hp, text⟩ : ∃ p, (t.localizedLines keys)[i]? = some p ∧ p.1.text = l.text :=
      getElem?_localizedLines hl
    obtain ⟨keyId, found, hfound⟩ :=
      get?_of_mem_localizedLines colon proper (List.mem_of_getElem? hp)
    obtain ⟨before, after, rows, last⟩ := StringTable.get?_eq_some_iff.mp hfound
    refine ⟨p.2.key, found, before, after, ?_, rows, last, ?_⟩
    · rw [lines_localize, List.getElem?_map, hp]
      exact keyId
    · rw [lines_toLiteral, lines_localize, List.getElem?_map, List.getElem?_map, hp, ← text]
      exact congrArg some (Line.text_toLiteral keyId hfound)

/-- An attic that shows no text, and a way down that already has a key in another file. -/
def attic : Template :=
  .ofDraft
    { name := "attic"
      screens :=
        [{ id := ⟨1⟩, name := "ladder", text := ""
           choices := [{ text := "Down.", key := some "@house:s_00000007", target := some ⟨1⟩ }] }] }
    (by decide)

/-- The attic is the same after the detour, and each text is under its own key meanwhile. -/
theorem toLiteral_localize_attic :
    ∃ (u : Template) (table : StringTable) (keys : SequentialKeys),
      attic.localize (⟨0⟩ : SequentialKeys) = ((u, table), keys) ∧
      table.rows = [⟨"s_00000001", ""⟩, ⟨"s_00000007", "Down."⟩] ∧
      u.lines.map (·.key) = [some "@conversation/attic:s_00000001",
        some "@conversation/attic:s_00000007"] ∧
      (u.toLiteral table).lines.map (·.text) = ["", "Down."] ∧
      (u.toLiteral table).definitionScript = attic.definitionScript := by
  have nodup : ((attic.localize (⟨0⟩ : SequentialKeys)).1.2.rows.map (·.key)).Nodup := by
    have keys : (attic.localize (⟨0⟩ : SequentialKeys)).1.2.rows.map (·.key) =
        ["s_00000001", "s_00000007"] := by rfl
    rw [keys]
    decide
  have detour : attic.localize (⟨0⟩ : SequentialKeys) = ((_, _), _) := rfl
  obtain ⟨distinct, -⟩ := toLiteral_localize detour (by decide) (SequentialKeys.proper ⟨0⟩)
  obtain ⟨texts, -, scripts⟩ := distinct nodup
  exact ⟨_, _, _, rfl, by rfl, by rfl, texts, (scripts rfl).1⟩

end Template

end Dialogue
