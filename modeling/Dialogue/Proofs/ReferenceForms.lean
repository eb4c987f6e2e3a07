import Dialogue.Localization.KeyReference

/-!
# Which texts are references

A text is read as a reference if its first colon is followed by a key, which ends with the text or
at the next colon. What stands behind that colon does not count. So the reference that was made of a
file and a key is read back as these unless one of them has a colon or there is no key.

* `KeyReference.Heads`: a text starts with a file, a colon and a key, and the key ends there.

Results:
* **`KeyReference.parse?_eq_some_iff`**: which texts are read as a reference.
* **`KeyReference.parse?_format_iff`**: exactly when a reference is read back as what it was made
  of, and which keys are read at all.
-/

namespace Dialogue.KeyReference

/-- The text starts with the parts of the reference, and the key does not go on behind them. -/
structure Heads (r : KeyReference) (text : String) : Prop where
  /-- The colon behind the file is the first. -/
  colon_not_mem_file : ':' ∉ r.file.toList
  /-- The key is one. -/
  isKeyId : IsKeyId r.key
  /-- The key ends with the text or at a colon. -/
  split : ∃ more, text.toList = r.file.toList ++ ':' :: (r.key.toList ++ more) ∧
    (more = [] ∨ ∃ rest, more = ':' :: rest)

/-- **A text is read as the reference that it starts with.** -/
theorem parse?_eq_some_iff {text : String} {r : KeyReference} :
    parse? text = some r ↔ r.Heads text := by
  constructor
  · intro h
    obtain ⟨rest, behind, file, key, -⟩ := eq_of_parse? h
    refine ⟨colon_not_mem_file h, isKeyId_of_parse? h, rest.dropWhile (· != ':'), ?_,
      dropWhile_eq_nil_or_cons rest⟩
    rw [file, key, List.takeWhile_append_dropWhile, ← behind, List.takeWhile_append_dropWhile]
  · rintro ⟨colon, id, more, split, ending⟩
    have behind : text.toList.dropWhile (· != ':') = ':' :: (r.key.toList ++ more) := by
      rw [split, List.dropWhile_append_of_pos (ne_colon_of_not_mem colon)]
      rfl
    have file : text.toList.takeWhile (· != ':') = r.file.toList := by
      rw [split, takeWhile_append_colon, takeWhile_of_not_mem colon]
    have key : (r.key.toList ++ more).takeWhile (· != ':') = r.key.toList := by
      rcases ending with rfl | ⟨rest, rfl⟩
      · rw [List.append_nil, takeWhile_of_not_mem id.colon_not_mem]
      · rw [takeWhile_append_colon, takeWhile_of_not_mem id.colon_not_mem]
    have hne : r.key.toList.isEmpty = false := by simpa using id.ne_empty
    simp only [parse?, ofChars?, behind, file, key, hne, Bool.false_eq_true, if_false,
      String.ofList_toList]

/-- **A reference is read back as the file and the key that it was made of exactly if the file has
no colon and the key is not empty and has none.** Whatever text is read as a reference, it starts with
the file and the key that are read, and the key is not empty and has no colon. -/
theorem parse?_format_iff :
    (∀ keyPrefix template key,
      parse? (format keyPrefix template key) = some ⟨keyPrefix ++ template, key⟩ ↔
        ':' ∉ (keyPrefix ++ template).toList ∧ key ≠ "" ∧ ':' ∉ key.toList) ∧
    (∀ text r, parse? text = some r ↔ r.Heads text) ∧
    ∀ text r, parse? text = some r → r.key ≠ "" ∧ ':' ∉ r.key.toList := by
  refine ⟨fun keyPrefix template key => ⟨fun h => ?_, ?_⟩, fun _ _ => parse?_eq_some_iff,
    fun _ _ h => ?_⟩
  · have heads := parse?_eq_some_iff.mp h
    exact ⟨heads.colon_not_mem_file, heads.isKeyId.ne_empty, heads.isKeyId.colon_not_mem⟩
  · rintro ⟨colon, hne, hkey⟩
    exact parse?_format_of_not_mem colon ⟨hne, hkey⟩
  · have id := isKeyId_of_parse? h
    exact ⟨id.ne_empty, id.colon_not_mem⟩

/-- The reference to a text of the gatehouse is read back. That to a text of a cellar whose name has
a colon is not: it is read with the rest of the name as its key. -/
theorem parse?_format_iff_cellar :
    parse? (format "@conversation/" "gatehouse" "s_00000001") =
        some ⟨"@conversation/gatehouse", "s_00000001"⟩ ∧
      parse? (format "@conversation/" "inn:cellar" "s_00000001") ≠
        some ⟨"@conversation/inn:cellar", "s_00000001"⟩ ∧
      parse? (format "@conversation/" "inn:cellar" "s_00000001") =
        some ⟨"@conversation/inn", "cellar"⟩ ∧
      "cellar" ≠ "" ∧ ':' ∉ "cellar".toList := by
  obtain ⟨back, -, keys⟩ := parse?_format_iff
  have read : parse? (format "@conversation/" "inn:cellar" "s_00000001") =
      some ⟨"@conversation/inn", "cellar"⟩ := by
    rfl
  refine ⟨(back _ _ _).mpr (by decide), fun h => ?_, read, keys _ _ read⟩
  exact ((back "@conversation/" "inn:cellar" "s_00000001").mp h).1 (by decide)

end Dialogue.KeyReference
