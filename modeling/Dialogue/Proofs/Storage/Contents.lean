import Dialogue.Proofs.Storage.Places

/-!
# What a folder holds

A folder holds the given files if they and nothing else stand below it. One more file can then be
written into it, and it holds that file as well.

* `FileTree.below?` is what stands below a folder.

Results:
* `FileTree.Holds.below?_eq_some_iff`: what stands below a folder that holds files.
* **`FileTree.Holds.write`**: a file with a new name is added.
-/

namespace Dialogue.Storage.FileTree

/-- What stands below the folder at a path, under the names that lead there from the folder. -/
def below? (t : FileTree) (path : String) (names : List String) : Option Node :=
  match t.base path with
  | .ok place => t.node? (place ++ names)
  | .error _ => none

/-- The folder at a path, which is at the place, holds the files and nothing else. -/
structure Holds (t : FileTree) (path : String) (place : Place) (files : List (String × ByteArray)) :
    Prop where
  /-- The folder is at the place. -/
  base : t.base path = .ok place
  /-- Below it stands a file for each of the names. -/
  node : ∀ names, names ≠ [] → ∀ node,
    t.node? (place ++ names) = some node ↔ ∃ file ∈ files, names = [file.1] ∧ node = .file file.2

variable {t : FileTree} {path : String} {place : Place} {files : List (String × ByteArray)}

theorem Holds.below?_eq_some_iff (h : t.Holds path place files) {names : List String}
    (hne : names ≠ []) {node : Node} :
    t.below? path names = some node ↔ ∃ file ∈ files, names = [file.1] ∧ node = .file file.2 := by
  unfold below?
  rw [h.base]
  exact h.node names hne node

/-- A folder below which nothing stands holds no files. -/
theorem exists_holds_nil (h : ∃ place, t.base path = .ok place)
    (empty : ∀ names, names ≠ [] → t.below? path names = none) :
    ∃ place, t.Holds path place [] := by
  obtain ⟨place, base⟩ := h
  refine ⟨place, base, fun names hne node => ?_⟩
  have missing := empty names hne
  unfold below? at missing
  rw [base] at missing
  simp [show t.node? (place ++ names) = none from missing]

/-- **A file with a new name is added.** -/
theorem Holds.write (h : t.Holds path place files) {name : String} (names : Names path name)
    (new : name ∉ files.map (·.1)) (content : ByteArray) :
    ∃ after, t.write (Path.join path name) content = .ok after ∧
      after.Holds path place (files ++ [(name, content)]) := by
  have hne : place ++ [name] ≠ [] := by simp
  have free : t.node? (place ++ [name]) ≠ some .folder := by
    intro folder
    obtain ⟨file, -, -, hfile⟩ := (h.node [name] (by simp) .folder).mp folder
    cases hfile
  have slot := slot_join names h.base free
  refine ⟨t.put (place ++ [name]) (.file content), by rw [write_eq, slot]; rfl,
    base_put hne free h.base, fun below hbelow node => ?_⟩
  rw [node?_put t hne]
  by_cases same : below = [name]
  · subst same
    simp only [if_true, List.mem_append, List.mem_singleton]
    constructor
    · rintro ⟨⟩
      exact ⟨(name, content), .inr rfl, rfl, rfl⟩
    · rintro ⟨file, hfile | rfl, hname, rfl⟩
      · have : name = file.1 := by simpa using hname
        exact absurd (this ▸ List.mem_map_of_mem hfile) new
      · rfl
  · rw [if_neg (by simpa using same), h.node below hbelow]
    simp only [List.mem_append, List.mem_singleton]
    constructor
    · rintro ⟨file, hfile, rest⟩
      exact ⟨file, .inl hfile, rest⟩
    · rintro ⟨file, hfile | rfl, hname, hnode⟩
      · exact ⟨file, hfile, hname, hnode⟩
      · exact absurd hname same

end Dialogue.Storage.FileTree
