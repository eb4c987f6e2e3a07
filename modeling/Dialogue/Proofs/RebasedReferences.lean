import Dialogue.Proofs.LineFrame
import Dialogue.Proofs.LocalizedRows

/-!
# Pointing references at another file

Rebasing a template lets every reference that can be read name another file, and leaves the others
as they are. Keys stay, and so do the rows that the template contributes to string tables; if it has
none, the reason stays.

Results:
* `Line.row_rebase`: the row for a line, or why there is none, does not depend on the file.
* `Line.rebase_rebase`: only the last file counts.
* `Template.ownedLines_rebase`: lines stay with their owners.
* **`Template.conversationRows_rebase`**: the rows of a rebased template, the files of its
  references, and what rebasing it once more gives.
-/

namespace Dialogue

/-! ## Lines -/

namespace Line

variable {keyPrefix template : String}

theorem rebase_of_none {l : Line} (h : l.keyId? = none) : l.rebase keyPrefix template = l := by
  rw [rebase, h]

theorem rebase_of_some {l : Line} {id : String} (h : l.keyId? = some id) :
    l.rebase keyPrefix template =
      { l with key := some (KeyReference.format keyPrefix template id) } := by
  rw [rebase, h]

/-- The row that is read off a line with a key. -/
theorem row_of_keyId? {owner : String} {l : Line} {id : String} (h : l.keyId? = some id) :
    l.row owner = .ok ⟨id, l.text⟩ := by
  rw [row_eq_ok_iff, row?, h]
  rfl

variable (colon : ':' ∉ (keyPrefix ++ template).toList)
include colon

/-- **The row for a line, or why there is none, does not depend on the file of its reference.** -/
theorem row_rebase (owner : String) (l : Line) :
    (l.rebase keyPrefix template).row owner = l.row owner := by
  cases h : l.keyId? with
  | none => rw [rebase_of_none h]
  | some id =>
    have kept : (l.rebase keyPrefix template).keyId? = some id := (l.keyId?_rebase colon).trans h
    rw [row_of_keyId? kept, row_of_keyId? h, text_rebase]

/-- Only the last file counts. -/
theorem rebase_rebase (other : String) (l : Line) :
    (l.rebase keyPrefix template).rebase other template = l.rebase other template := by
  cases h : l.keyId? with
  | none => rw [rebase_of_none h]
  | some id =>
    have kept : (l.rebase keyPrefix template).keyId? = some id := (l.keyId?_rebase colon).trans h
    rw [rebase_of_some kept, rebase_of_some h, rebase_of_some h]

/-- A reference that can be read names the new file. -/
theorem file_of_rebase {l : Line} {reference : String} {r : KeyReference}
    (hkey : (l.rebase keyPrefix template).key = some reference)
    (hread : KeyReference.parse? reference = some r) : r.file = keyPrefix ++ template := by
  cases h : l.keyId? with
  | none =>
    rw [rebase_of_none h] at hkey
    rw [keyId?, hkey, Option.bind_some, hread] at h
    cases h
  | some id =>
    rw [rebase_of_some h] at hkey
    obtain rfl : KeyReference.format keyPrefix template id = reference := Option.some.inj hkey
    rw [KeyReference.parse?_format_of_not_mem colon (isKeyId_of_keyId? h)] at hread
    exact (congrArg KeyReference.file (Option.some.inj hread)).symm

end Line

/-! ## Templates -/

theorem Screen.ownedLines_mapLines (f : Line → Line) (s : Screen) :
    (s.mapLines f).ownedLines = s.ownedLines.map fun p => (p.1, f p.2) := by
  have choices : ∀ n, ((s.choices.map (·.mapLine f)).zipIdx n).map
      (fun p => (choiceOwner p.2 s.name, p.1.toLine)) =
      (s.choices.zipIdx n).map fun p => (choiceOwner p.2 s.name, f p.1.toLine) := by
    intro n
    rw [List.zipIdx_map, List.map_map]
    rfl
  simp only [ownedLines, mapLines, List.map_cons, List.map_map]
  exact congrArg _ (choices 1)

namespace Template

variable {t : Template} {keyPrefix : String}

/-- Lines stay with their owners. -/
theorem ownedLines_rebase (t : Template) (keyPrefix : String) :
    (t.rebase keyPrefix).ownedLines =
      t.ownedLines.map fun p => (p.1, p.2.rebase keyPrefix t.name) := by
  have screens : (t.rebase keyPrefix).screens =
      t.screens.map (·.mapLines (·.rebase keyPrefix t.name)) := rfl
  rw [ownedLines, ownedLines, screens, List.flatMap_map, List.map_flatMap]
  congr 1
  funext s
  exact s.ownedLines_mapLines _

/-- **Rebasing keeps the rows of a template**, and the error with its owner or its reference if
there are none. Every reference that can be read names the new file. Rebasing once more is the same
as rebasing to that file alone, and changes nothing if it is the same file. -/
theorem conversationRows_rebase (colon : ':' ∉ (keyPrefix ++ t.name).toList) :
    (t.rebase keyPrefix).conversationRows = t.conversationRows ∧
      (∀ l ∈ (t.rebase keyPrefix).lines, ∀ reference ∈ l.key,
        ∀ r ∈ KeyReference.parse? reference, r.file = keyPrefix ++ t.name) ∧
      ∀ other, (t.rebase keyPrefix).rebase other = t.rebase other := by
  refine ⟨?_, fun l hl reference hkey r hread => ?_, fun other => ?_⟩
  · have mode : (t.rebase keyPrefix).localized = t.localized := rfl
    have name : (t.rebase keyPrefix).name = t.name := rfl
    rw [conversationRows, conversationRows, mode, name, ownedLines_rebase, List.mapM_map]
    by_cases h : t.localized = true
    · rw [if_pos h, if_pos h]
      congr 1
      funext p
      exact p.2.row_rebase colon p.1
    · rw [if_neg h, if_neg h]
  · rw [lines_rebase] at hl
    obtain ⟨l, -, rfl⟩ := List.mem_map.mp hl
    exact Line.file_of_rebase colon hkey hread
  · have line : ∀ l : Line,
        (l.rebase keyPrefix t.name).rebase other t.name = l.rebase other t.name :=
      fun l => l.rebase_rebase colon other
    have lines := Arena.mapLines_mapLines (·.rebase keyPrefix t.name) (·.rebase other t.name)
      t.toArena
    simp only [line] at lines
    have arena := congrArg (Arena.withKeyPrefix other) lines
    exact eq_of_toArena_eq arena

/-- A lodge with a reference of three parts, one that cannot be read, and a text without any. -/
def lodge : Template :=
  .ofDraft
    { name := "lodge"
      localized := true
      screens :=
        [{ id := ⟨1⟩, name := "hearth", text := "Sit down.", key := some "@old/lodge:s_7:draft"
           choices :=
             [{ text := "Thanks.", key := some "s_8" }, { text := "I have to go." }] }] }
    (by decide)

/-- The broken reference of the lodge is reported as before, and rebasing once more changes
nothing. -/
theorem conversationRows_rebase_lodge :
    ':' ∉ ("@new/" ++ lodge.name).toList ∧
      (lodge.rebase "@new/").lines.map (·.key) = [some "@new/lodge:s_7", some "s_8", none] ∧
      lodge.conversationRows = .error (.malformedKey "s_8") ∧
      (lodge.rebase "@new/").conversationRows = .error (.malformedKey "s_8") ∧
      (lodge.rebase "@new/").rebase "@new/" = lodge.rebase "@new/" := by
  have colon : ':' ∉ ("@new/" ++ lodge.name).toList := by decide
  obtain ⟨rows, -, again⟩ := conversationRows_rebase colon
  have broken : lodge.conversationRows = .error (.malformedKey "s_8") := by rfl
  exact ⟨colon, by rfl, broken, rows.trans broken, again "@new/"⟩

end Template

end Dialogue
