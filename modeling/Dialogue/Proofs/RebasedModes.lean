import Dialogue.Proofs.FreshKeys
import Dialogue.Proofs.RebasedReferences

/-!
# Rebasing and switching modes in either order

Pointing the references of a template at another file can be done before or after the texts are
switched to localized or to literal mode. Localizing writes every reference anew, in the file of the
template at that time, and rebasing points each of them at the new file. In the other order the
references that cannot be read are left alone by rebasing, and get their fresh keys in the new file
at once. Both orders draw the same keys for the same texts.

Results:
* `Line.localize_rebase`, `Line.translate_rebase`: the two orders for one line.
* `Arena.localize_rebase`, `Arena.toLiteral_rebase`: so for all lines of an arena.
* **`Template.rebase_comm`**: the same template, the same table and the same generator in either
  order.
-/

namespace Dialogue

/-! ## Lines -/

namespace Line

variable {keyPrefix template : String} (colon : ':' ∉ (keyPrefix ++ template).toList)

section

variable {σ : Type} [KeyGenerator σ] {keys : σ}

include colon in
/-- A line has the same reference and the same row, and as many keys are drawn, whether it is
rebased before it is localized or afterwards. -/
theorem localize_rebase {old : String} (oldColon : ':' ∉ (old ++ template).toList)
    (proper : KeyGenerator.Proper keys) (l : Line) :
    (l.rebase keyPrefix template).localize keyPrefix template keys =
      (((l.localize old template keys).1.1.rebase keyPrefix template,
        (l.localize old template keys).1.2), (l.localize old template keys).2) := by
  -- After it has been localized the line has a key in either case.
  have rebased : ∀ id, IsKeyId id →
      ({ l with key := some (KeyReference.format old template id) } : Line).rebase keyPrefix
        template = { l with key := some (KeyReference.format keyPrefix template id) } :=
    fun id hid => rebase_of_some (keyId?_of_key_eq oldColon hid rfl)
  cases h : l.keyId? with
  | none =>
    rw [rebase_of_none h, localize_of_none h, localize_of_none h, rebased _ proper.isKeyId_next]
  | some id =>
    have kept : (l.rebase keyPrefix template).keyId? = some id := (l.keyId?_rebase colon).trans h
    rw [localize_of_some kept, localize_of_some h, rebased id (isKeyId_of_keyId? h), text_rebase]

end

/-- The text of a line plays no part in rebasing it. -/
theorem rebase_with_text (l : Line) (text : String) :
    ({ l with text } : Line).rebase keyPrefix template =
      { l.rebase keyPrefix template with text } := by
  have same : ({ l with text } : Line).keyId? = l.keyId? := rfl
  cases h : l.keyId? with
  | none => rw [rebase_of_none h, rebase_of_none (same.trans h)]
  | some id => rw [rebase_of_some h, rebase_of_some (same.trans h)]

include colon in
/-- A line gets the same text whether it is rebased before or afterwards. -/
theorem translate_rebase (textOf? : String → Option String) (l : Line) :
    (l.rebase keyPrefix template).translate textOf? =
      (l.translate textOf?).rebase keyPrefix template := by
  rw [translate_eq, translate_eq, l.keyId?_rebase colon, text_rebase]
  exact (rebase_with_text l _).symm

end Line

/-! ## Arenas -/

namespace Arena

variable {keyPrefix : String} {a : Arena} (colon : ':' ∉ (keyPrefix ++ a.name).toList)
include colon

theorem localize_rebase {σ : Type} [KeyGenerator σ] {keys : σ}
    (oldColon : ':' ∉ (a.keyPrefix ++ a.name).toList) (proper : KeyGenerator.Proper keys) :
    (a.rebase keyPrefix).localize keys =
      (((a.localize keys).1.1.rebase keyPrefix, (a.localize keys).1.2), (a.localize keys).2) := by
  have lines := mapAccumLines_mapLines Line.proper_localize
    (fun _ l hP => Line.localize_rebase colon oldColon hP l) proper a
  unfold localize
  exact congrArg (fun changed => (((changed.1.1.withKeyPrefix keyPrefix).withLocalized true,
    StringTable.mk changed.1.2), changed.2)) lines

theorem toLiteral_rebase (table : StringTable) :
    (a.rebase keyPrefix).toLiteral table = (a.toLiteral table).rebase keyPrefix := by
  have line : ∀ l : Line, (l.rebase keyPrefix a.name).toLiteral table =
      (l.toLiteral table).rebase keyPrefix a.name :=
    fun l => l.translate_rebase colon _
  have before := mapLines_mapLines (·.rebase keyPrefix a.name) (·.toLiteral table) a
  have after := mapLines_mapLines (·.toLiteral table) (·.rebase keyPrefix a.name) a
  simp only [line] at before
  exact congrArg (fun changed => (changed.withKeyPrefix keyPrefix).withLocalized false)
    (before.trans after.symm)

end Arena

/-! ## Templates -/

namespace Template

/-- **Rebasing and switching modes can be done in either order.** To localize the rebased template
gives the rebased localized template, with the same table and the same keys left, and taking texts
from a table gives the same template before and after. -/
theorem rebase_comm {σ : Type} [KeyGenerator σ] {t : Template} {keyPrefix : String} {keys : σ}
    (oldColon : ':' ∉ (t.keyPrefix ++ t.name).toList) (colon : ':' ∉ (keyPrefix ++ t.name).toList)
    (proper : KeyGenerator.Proper keys) (table : StringTable) :
    (t.rebase keyPrefix).localize keys =
        (((t.localize keys).1.1.rebase keyPrefix, (t.localize keys).1.2), (t.localize keys).2) ∧
      (t.rebase keyPrefix).toLiteral table = (t.toLiteral table).rebase keyPrefix := by
  have localized := Arena.localize_rebase colon oldColon proper
  refine ⟨Prod.ext (Prod.ext (eq_of_toArena_eq ?_) ?_) ?_, eq_of_toArena_eq ?_⟩
  · exact congrArg (·.1.1) localized
  · exact congrArg (·.1.2) localized
  · exact congrArg (·.2) localized
  · exact Arena.toLiteral_rebase colon table

/-- A tollgate with a reference of two parts, one that cannot be read, and a text without any. -/
def tollgate : Template :=
  .ofDraft
    { name := "tollgate"
      keyPrefix := "@road/"
      screens :=
        [{ id := ⟨1⟩, name := "barrier", text := "Two coins.", key := some "@road/tollgate:s_3"
           choices :=
             [{ text := "Pay.", key := some "s_4" }, { text := "Turn back." }] }] }
    (by decide)

/-- In either order the tollgate keeps one key and gets two, all below the new prefix. -/
theorem rebase_comm_tollgate :
    ∃ (u : Template) (table : StringTable),
      (tollgate.rebase "@new/").localize (⟨4⟩ : SequentialKeys) = ((u, table), ⟨6⟩) ∧
      (tollgate.localize (⟨4⟩ : SequentialKeys)).1.1.rebase "@new/" = u ∧
      (tollgate.localize (⟨4⟩ : SequentialKeys)).1.2 = table ∧
      table.rows.map (·.key) = ["s_3", "s_00000005", "s_00000006"] ∧
      u.lines.map (·.key) = [some "@new/tollgate:s_3", some "@new/tollgate:s_00000005",
        some "@new/tollgate:s_00000006"] ∧
      (tollgate.rebase "@new/").toLiteral ⟨[⟨"s_3", "Four coins."⟩]⟩ =
        (tollgate.toLiteral ⟨[⟨"s_3", "Four coins."⟩]⟩).rebase "@new/" := by
  have oldColon : ':' ∉ (tollgate.keyPrefix ++ tollgate.name).toList := by decide
  have colon : ':' ∉ ("@new/" ++ tollgate.name).toList := by decide
  obtain ⟨localized, literal⟩ := rebase_comm oldColon colon (SequentialKeys.proper ⟨4⟩)
    ⟨[⟨"s_3", "Four coins."⟩]⟩
  exact ⟨_, _, localized, rfl, rfl, by rfl, by rfl, literal⟩

end Template

end Dialogue
