/-!
# References into string tables

A reference `file:key` says in which file of strings a text is found and under which key. The key
ends at a second colon, if there is one, and is never empty.

* `IsKeyId`: the texts that can be keys.

Results:
* `KeyReference.colon_not_mem_file`, `KeyReference.colon_not_mem_key`: neither part of a reference
  that was read holds a colon.
* `KeyReference.parse?_format_of_not_mem`: a reference is read back if its file has no colon.
* `KeyReference.parse?_format_of_mem`: otherwise the reference is read as its file is.
-/

namespace Dialogue

/-- A reference that has been read. -/
structure KeyReference where
  /-- The file of strings, prefix included. -/
  file : String
  /-- The key of the text. -/
  key : String
  deriving DecidableEq, Repr

/-- A text that can stand as the key of a reference. -/
structure IsKeyId (key : String) : Prop where
  /-- There is a key. -/
  ne_empty : key ≠ ""
  /-- It does not end before its end. -/
  colon_not_mem : ':' ∉ key.toList

namespace KeyReference

/-- Reads a reference from its characters. -/
def ofChars? (cs : List Char) : Option KeyReference :=
  match cs.dropWhile (· != ':') with
  | [] => none
  | _ :: rest =>
    let key := rest.takeWhile (· != ':')
    if key.isEmpty then none
    else some ⟨String.ofList (cs.takeWhile (· != ':')), String.ofList key⟩

/-- Reads a reference. -/
def parse? (text : String) : Option KeyReference := ofChars? text.toList

/-- The reference to a key in the file that belongs to a template. -/
def format (keyPrefix template key : String) : String := keyPrefix ++ template ++ ":" ++ key

variable {text : String} {r : KeyReference}

/-- What is left from the first colon on. -/
theorem dropWhile_eq_nil_or_cons (cs : List Char) :
    cs.dropWhile (· != ':') = [] ∨ ∃ rest, cs.dropWhile (· != ':') = ':' :: rest := by
  cases hd : cs.dropWhile (· != ':') with
  | nil => exact .inl rfl
  | cons c rest =>
    have head := List.head?_dropWhile_not (p := (· != ':')) cs
    rw [hd] at head
    obtain rfl : c = ':' := by simpa using head
    exact .inr ⟨rest, rfl⟩

theorem eq_of_parse? (h : parse? text = some r) :
    ∃ rest : List Char, text.toList.dropWhile (· != ':') = ':' :: rest ∧
      r.file.toList = text.toList.takeWhile (· != ':') ∧
      r.key.toList = rest.takeWhile (· != ':') ∧ r.key.toList ≠ [] := by
  unfold parse? ofChars? at h
  rcases dropWhile_eq_nil_or_cons text.toList with hd | ⟨rest, hd⟩
  · simp [hd] at h
  · simp only [hd, Option.ite_none_left_eq_some, Option.some.injEq] at h
    obtain ⟨hne, rfl⟩ := h
    exact ⟨rest, hd, by simp, by simp, by simpa using hne⟩

private theorem colon_not_mem_takeWhile (cs : List Char) : ':' ∉ cs.takeWhile (· != ':') := by
  intro h
  have := List.all_eq_true.mp (List.all_takeWhile (p := (· != ':')) (l := cs)) _ h
  simp at this

theorem colon_not_mem_file (h : parse? text = some r) : ':' ∉ r.file.toList := by
  obtain ⟨_, -, hf, -, -⟩ := eq_of_parse? h
  exact hf ▸ colon_not_mem_takeWhile _

theorem colon_not_mem_key (h : parse? text = some r) : ':' ∉ r.key.toList := by
  obtain ⟨_, -, -, hk, -⟩ := eq_of_parse? h
  exact hk ▸ colon_not_mem_takeWhile _

theorem isKeyId_of_parse? (h : parse? text = some r) : IsKeyId r.key := by
  obtain ⟨_, -, -, -, hne⟩ := eq_of_parse? h
  exact ⟨fun he => hne (he ▸ String.toList_empty), colon_not_mem_key h⟩

/-! ## Reading what was formatted -/

/-- What stands behind a colon is not looked at for the text before a colon. -/
theorem takeWhile_append_colon (cs rest : List Char) :
    (cs ++ ':' :: rest).takeWhile (· != ':') = cs.takeWhile (· != ':') := by
  induction cs with
  | nil => rfl
  | cons c cs ih => by_cases h : c = ':' <;> simp [h, ih]

theorem ne_colon_of_not_mem {cs : List Char} (h : ':' ∉ cs) : ∀ c ∈ cs, (c != ':') = true :=
  fun _ hc => bne_iff_ne.mpr fun e => h (e ▸ hc)

theorem takeWhile_of_not_mem {cs : List Char} (h : ':' ∉ cs) : cs.takeWhile (· != ':') = cs := by
  have whole : (cs ++ []).takeWhile (· != ':') = cs ++ [].takeWhile (· != ':') :=
    List.takeWhile_append_of_pos (ne_colon_of_not_mem h)
  rwa [List.takeWhile_nil, List.append_nil] at whole

/-- The characters of a reference. -/
theorem toList_format (keyPrefix template key : String) :
    (format keyPrefix template key).toList = (keyPrefix ++ template).toList ++ ':' :: key.toList := by
  have colon : ":".toList = [':'] := rfl
  rw [format, String.toList_append, String.toList_append, colon, List.append_assoc]
  rfl

variable {keyPrefix template key : String}

/-- A reference is read back if its file has no colon. -/
theorem parse?_format_of_not_mem (h : ':' ∉ (keyPrefix ++ template).toList) (hk : IsKeyId key) :
    parse? (format keyPrefix template key) = some ⟨keyPrefix ++ template, key⟩ := by
  have file := takeWhile_of_not_mem h
  have rest : ((keyPrefix ++ template).toList ++ ':' :: key.toList).dropWhile (· != ':') =
      ':' :: key.toList := List.dropWhile_append_of_pos (ne_colon_of_not_mem h)
  have hne : key.toList ≠ [] := fun e => hk.ne_empty (String.toList_eq_nil_iff.mp e)
  rw [parse?, toList_format, ofChars?, rest, takeWhile_append_colon, file]
  simp [takeWhile_of_not_mem hk.colon_not_mem, hne]

/-- If its file has a colon, a reference is read as the file is, whatever its key. -/
theorem parse?_format_of_mem (h : ':' ∈ (keyPrefix ++ template).toList) :
    parse? (format keyPrefix template key) = parse? (keyPrefix ++ template) := by
  rw [parse?, parse?, toList_format]
  generalize (keyPrefix ++ template).toList = cs at h
  have found : cs.dropWhile (· != ':') ≠ [] := by
    intro he
    have parts := List.takeWhile_append_dropWhile (p := (· != ':')) (l := cs)
    rw [he, List.append_nil] at parts
    exact colon_not_mem_takeWhile cs (by rwa [parts])
  rw [ofChars?, ofChars?, takeWhile_append_colon, List.dropWhile_append,
    if_neg (by simpa using found)]
  cases hd : cs.dropWhile (· != ':') with
  | nil => exact absurd hd found
  | cons c rest => simp only [List.cons_append, takeWhile_append_colon]

end KeyReference

end Dialogue
