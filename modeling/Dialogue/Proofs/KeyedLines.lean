import Dialogue.Proofs.FreshKeys
import Dialogue.Proofs.LineFrame

/-!
# Which key each text gets

Localizing keeps the keys that the references of a template have. The other texts get what a
generator hands out, the first of them the first key, and so on in the order of the lines. A
template that has been localized has a key everywhere, so that localizing it once more changes
nothing and draws nothing, whatever the generator.

* `Template.keyIdAt`: the key for the line at an index.

Results:
* `Line.localize_eq_self`: a line that refers to its key in the file of the template stays as it is.
* `Template.getElem?_localizedLines_eq`: each line and its row after localization.
* **`Template.localize_localize`**: how many keys are drawn, which text gets which, and that
  localizing once more gives the same template and the same table.
-/

namespace Dialogue

/-- A line gets its own key again, or else the next one. -/
theorem Line.fst_localize {σ : Type} [KeyGenerator σ] (keyPrefix template : String) (keys : σ)
    (l : Line) :
    (l.localize keyPrefix template keys).1 =
      let id := l.keyId?.getD (KeyGenerator.next keys).1
      ({ l with key := some (KeyReference.format keyPrefix template id) }, ⟨id, l.text⟩) := by
  cases h : l.keyId? with
  | none => rw [localize_of_none h, Option.getD_none]
  | some id => rw [localize_of_some h, Option.getD_some]

/-- The row for a line that has a key. It does not depend on where the line stands. -/
def Line.keyedRow (l : Line) : Row := ⟨l.keyId?.getD "", l.text⟩

/-- A line that refers to its key in the file of the template stays as it is. -/
theorem Line.localize_eq_self {τ : Type} [KeyGenerator τ] {keyPrefix template id : String}
    {l : Line} (other : τ) (hid : l.keyId? = some id)
    (hkey : l.key = some (KeyReference.format keyPrefix template id)) :
    l.localize keyPrefix template other = ((l, ⟨id, l.text⟩), other) := by
  rw [localize_of_some hid, ← hkey]

namespace Template

section

variable {σ : Type} [KeyGenerator σ]

/-- The key for the line `l` at the index `i`: its own, or else the next one after those that the
lines in front of it have drawn. -/
def keyIdAt (t : Template) (keys : σ) (i : Nat) (l : Line) : String :=
  let draws := (t.lines.take i).countP (·.keyId?.isNone)
  l.keyId?.getD (KeyGenerator.next (KeyGenerator.after keys draws)).1

/-- Each line and its row after localization. -/
theorem getElem?_localizedLines_eq (t : Template) (keys : σ) (i : Nat) :
    (t.localizedLines keys)[i]? = t.lines[i]?.map fun l =>
      ({ l with key := some (KeyReference.format t.keyPrefix t.name (t.keyIdAt keys i l)) },
        ⟨t.keyIdAt keys i l, l.text⟩) := by
  rw [localizedLines, getElem?_mapAccum, state_mapAccum_localize]
  simp only [Line.fst_localize, keyIdAt]

variable {t : Template} {keys : σ} (colon : ':' ∉ (t.keyPrefix ++ t.name).toList)
  (proper : KeyGenerator.Proper keys)
include colon proper

theorem keyedRow_of_mem_localizedLines {p : Line × Row} (h : p ∈ t.localizedLines keys) :
    p.1.keyedRow = p.2 := by
  rw [Line.keyedRow, keyId?_eq_of_mem_localizedLines colon proper h, (of_mem_localizedLines h).2]
  rfl

/-- A localized line stays as it is, and gets its row again. -/
theorem localize_of_mem_localizedLines {τ : Type} [KeyGenerator τ] (other : τ) {p : Line × Row}
    (h : p ∈ t.localizedLines keys) :
    p.1.localize t.keyPrefix t.name other = ((p.1, p.1.keyedRow), other) := by
  obtain ⟨hkey, -⟩ := of_mem_localizedLines h
  have hid : p.1.keyId? = some p.2.key := keyId?_eq_of_mem_localizedLines colon proper h
  rw [Line.localize_eq_self other hid hkey, Line.keyedRow, hid, Option.getD_some]

/-- Localizing once more changes nothing and draws nothing. -/
theorem localize_localize_eq {τ : Type} [KeyGenerator τ] (other : τ) :
    (t.localize keys).1.1.localize other = ((t.localize keys).1, other) := by
  have line : ∀ l ∈ (t.localize keys).1.1.lines,
      l.localize t.keyPrefix t.name other = ((l, l.keyedRow), other) := by
    intro l hl
    obtain ⟨p, hp, rfl⟩ := exists_of_mem_lines_localize hl
    exact localize_of_mem_localizedLines colon proper other hp
  have rows : (t.localize keys).1.1.lines.map Line.keyedRow = (t.localize keys).1.2.rows := by
    rw [lines_localize, rows_localize, List.map_map]
    exact List.map_congr_left fun p hp => keyedRow_of_mem_localizedLines colon proper hp
  have arena := Arena.mapAccumLines_eq_self line
  rw [rows] at arena
  have again : (t.localize keys).1.1.toArena.localize other =
      (((t.localize keys).1.1.toArena, (t.localize keys).1.2), other) := by
    unfold Arena.localize
    exact congrArg (fun r => ((r.1.1.withLocalized true, StringTable.mk r.1.2), r.2)) arena
  exact Prod.ext (Prod.ext (eq_of_toArena_eq (congrArg (·.1.1) again)) (congrArg (·.1.2) again))
    (congrArg (·.2) again)

end

/-- **Localizing draws one key for each text that has none**, and in the order of the texts the
first of these gets the first key that is drawn, the second the second, and so on; the others keep
theirs. Localizing the result once more, with any generator, gives the same template and the same
table, and draws nothing. -/
theorem localize_localize {σ : Type} [KeyGenerator σ] {t u : Template} {table : StringTable}
    {keys keys' : σ} (h : t.localize keys = ((u, table), keys'))
    (colon : ':' ∉ (t.keyPrefix ++ t.name).toList) (proper : KeyGenerator.Proper keys) :
    keys' = KeyGenerator.after keys (t.lines.countP (·.keyId?.isNone)) ∧
      (∀ i : Nat, table.rows[i]? = t.lines[i]?.map fun l => ⟨t.keyIdAt keys i l, l.text⟩) ∧
      (∀ i : Nat, u.lines[i]? = t.lines[i]?.map fun l =>
        { l with
          key := some (KeyReference.format t.keyPrefix t.name (t.keyIdAt keys i l)) }) ∧
      ∀ {τ : Type} [KeyGenerator τ] (other : τ), u.localize other = ((u, table), other) := by
  obtain rfl : (t.localize keys).1.1 = u := congrArg (·.1.1) h
  obtain rfl : (t.localize keys).1.2 = table := congrArg (·.1.2) h
  obtain rfl : (t.localize keys).2 = keys' := congrArg (·.2) h
  refine ⟨state_localize t keys, fun i => ?_, fun i => ?_, fun other => ?_⟩
  · rw [rows_localize, List.getElem?_map, getElem?_localizedLines_eq, Option.map_map]
    rfl
  · rw [lines_localize, List.getElem?_map, getElem?_localizedLines_eq, Option.map_map]
    rfl
  · exact localize_localize_eq colon proper other

/-- A mill whose second text has a key of its own, and whose third has a reference that cannot be
read. -/
def mill : Template :=
  .ofDraft
    { name := "mill"
      screens :=
        [{ id := ⟨1⟩, name := "wheel", text := "It turns."
           choices :=
             [{ text := "Stop it.", key := some "@old:stop:1" },
              { text := "Leave.", key := some "s_42" }] }] }
    (by decide)

/-- The mill gets the keys 42 and 43, and another generator is not asked for any. -/
theorem localize_localize_mill :
    ∃ (u : Template) (table : StringTable),
      mill.localize (⟨41⟩ : SequentialKeys) = ((u, table), ⟨43⟩) ∧
      table.rows = [⟨"s_00000042", "It turns."⟩, ⟨"stop", "Stop it."⟩, ⟨"s_00000043", "Leave."⟩] ∧
      u.lines.map (·.key) =
        [some "@conversation/mill:s_00000042", some "@conversation/mill:stop",
          some "@conversation/mill:s_00000043"] ∧
      u.localize (⟨["other"], 0⟩ : ListedKeys) = ((u, table), ⟨["other"], 0⟩) := by
  have localized : mill.localize (⟨41⟩ : SequentialKeys) = ((_, _), ⟨43⟩) := rfl
  obtain ⟨-, -, -, again⟩ := localize_localize localized (by decide) (SequentialKeys.proper ⟨41⟩)
  exact ⟨_, _, localized, by rfl, by rfl, again _⟩

end Template

end Dialogue
