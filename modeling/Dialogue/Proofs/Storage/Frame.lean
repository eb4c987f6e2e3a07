import Dialogue.Proofs.Storage.Places

/-!
# Which files change

Making folders changes no file. Writing to a path changes the file to which the path leads, and no
other. So where a file was written can be told afterwards, by where the path leads then. The path of
a name that is joined to a folder leads to a file below the folder, unless the name starts at the
root or has a step to the folder above.

* `FileTree.file?`: the content of the file at a place.
* `FileTree.Leads`: a path leads to a file.

Results:
* `FileTree.makeEach_induction`: what making one folder keeps, making folders keeps.
* `FileTree.file?_makeFolders`, `FileTree.exists_leads_of_write`: which files change.
* `FileTree.Leads.makeFolders`, `FileTree.Leads.write`: a path goes on leading to its file.
* **`FileTree.Leads.exists_prefix`**, `FileTree.Leads.exists_eq`: where the file of a name that is
  joined to a folder stands.
-/

namespace Dialogue.Storage.FileTree

/-! ## Files -/

/-- The content of the file at a place, if one stands there. -/
def file? (t : FileTree) (place : Place) : Option ByteArray :=
  match t.node? place with
  | some (.file content) => some content
  | _ => none

section Put

variable {t : FileTree} {stored place : Place}

theorem file?_put_file (hs : stored ≠ []) (content : ByteArray) (h : place ≠ stored) :
    (t.put stored (.file content)).file? place = t.file? place := by
  unfold file?
  rw [node?_put t hs, if_neg h]

/-- A new folder changes no file. -/
theorem file?_put_folder (hs : stored ≠ []) (new : t.node? stored = none) :
    (t.put stored .folder).file? place = t.file? place := by
  unfold file?
  rw [node?_put t hs]
  by_cases h : place = stored
  · rw [if_pos h, h, new]
  · rw [if_neg h]

end Put

/-! ## Paths that lead to files -/

/-- The path leads to a file, which stands at the place. -/
structure Leads (t : FileTree) (path : String) (place : Place) : Prop where
  /-- The place is that of the file that can be written at the path. -/
  slot : t.slot path = .ok place
  /-- A file stands there. -/
  file : ∃ content, t.node? place = some (.file content)

section Leads

variable {t made after : FileTree} {path other : String} {place : Place} {content : ByteArray}

/-- A path goes on leading to its file, whatever is stored where no folder stood. -/
theorem Leads.put (h : t.Leads path place) {stored : Place} {node : Node} (hs : stored ≠ [])
    (free : t.node? stored ≠ some .folder)
    (stays : ∃ content, (t.put stored node).node? place = some (.file content)) :
    (t.put stored node).Leads path place := by
  obtain ⟨folder, name, hr, short, rfl, -⟩ := slot_eq_ok_iff.mp h.slot
  obtain ⟨content, hcontent⟩ := stays
  refine ⟨slot_eq_ok_iff.mpr ⟨folder, name, resolve_put hs free hr, short, rfl, ?_⟩,
    content, hcontent⟩
  rw [hcontent]
  nofun

theorem Leads.makeFolder (h : t.Leads path place) (hm : t.makeFolder other = .ok made) :
    made.Leads path place := by
  obtain ⟨folder, name, slash, -, hentry, rfl⟩ := exists_of_makeFolder hm
  have new : t.node? (folder ++ [name]) = none := (entry?_eq_ok_iff.mp hentry).2
  have hs : folder ++ [name] ≠ [] := by simp
  obtain ⟨content, hcontent⟩ := h.file
  have apart : place ≠ folder ++ [name] := by
    rintro rfl
    rw [new] at hcontent
    cases hcontent
  exact h.put hs (by simp [new]) ⟨content, by rw [node?_put t hs, if_neg apart, hcontent]⟩

theorem Leads.write (h : t.Leads path place) (hw : t.write other content = .ok after) :
    after.Leads path place := by
  rw [write_eq] at hw
  obtain ⟨stored, hslot, rfl⟩ := map_eq_ok_iff.mp hw
  obtain ⟨folder, name, -, -, rfl, free⟩ := slot_eq_ok_iff.mp hslot
  have hs : folder ++ [name] ≠ [] := by simp
  refine h.put hs free ?_
  rw [node?_put t hs]
  by_cases same : place = folder ++ [name]
  · exact ⟨content, if_pos same⟩
  · rw [if_neg same]
    exact h.file

/-- **Writing to a path changes the file to which it leads, and no other.** -/
theorem exists_leads_of_write (hw : t.write path content = .ok after) :
    ∃ place, after.Leads path place ∧
      ∀ other, other ≠ place → after.file? other = t.file? other := by
  rw [write_eq] at hw
  obtain ⟨place, hslot, rfl⟩ := map_eq_ok_iff.mp hw
  obtain ⟨folder, name, hr, short, rfl, free⟩ := slot_eq_ok_iff.mp hslot
  have hs : folder ++ [name] ≠ [] := by simp
  have stored : (t.put (folder ++ [name]) (.file content)).node? (folder ++ [name]) =
      some (.file content) := by
    rw [node?_put t hs, if_pos rfl]
  refine ⟨folder ++ [name], ⟨?_, content, stored⟩, fun other hne => file?_put_file hs content hne⟩
  refine slot_eq_ok_iff.mpr ⟨folder, name, resolve_put hs free hr, short, rfl, ?_⟩
  rw [stored]
  nofun

end Leads

/-! ## Making folders -/

/-- What making one folder keeps, making folders keeps. -/
theorem makeEach_induction {P : FileTree → Prop}
    (step : ∀ {t made path}, P t → t.makeFolder path = .ok made → P made) {t made : FileTree}
    {paths : List String} (start : P t) (h : t.makeEach paths = .ok made) : P made := by
  induction paths generalizing made with
  | nil => cases h
  | cons path around ih =>
    by_cases hne : path = ""
    · have same : t.makeEach (path :: around) = .ok t := by
        rw [makeEach, if_pos (by simpa using hne)]
      obtain rfl := Except.ok.inj (same.symm.trans h)
      exact start
    · obtain ⟨outer, first, last⟩ := exists_of_makeEach hne h
      have reached : P outer := by
        rcases first with rfl | first
        · exact start
        · exact ih first
      rcases last with new | ⟨-, rfl⟩
      · exact step reached new
      · exact reached

section Folders

variable {t made : FileTree} {path other : String} {place : Place}

/-- **Making folders changes no file.** -/
theorem file?_makeFolders (h : t.makeFolders path = .ok made) (place : Place) :
    made.file? place = t.file? place := by
  refine makeEach_induction (P := fun u => u.file? place = t.file? place) (fun same hm => ?_) rfl h
  obtain ⟨folder, name, slash, -, hentry, rfl⟩ := exists_of_makeFolder hm
  rw [file?_put_folder (by simp) (entry?_eq_ok_iff.mp hentry).2, same]

theorem Leads.makeFolders (h : t.Leads path place) (hm : t.makeFolders other = .ok made) :
    made.Leads path place :=
  makeEach_induction (P := fun u => u.Leads path place) Leads.makeFolder h hm

end Folders

/-! ## Names that are joined to a folder -/

/-- A walk without steps to the folder above goes down. -/
theorem prefix_of_walk {t : FileTree} {place last : Place} {steps : List String}
    (h : t.walk place steps = .ok last) (up : ".." ∉ steps) : place <+: last := by
  induction steps generalizing place with
  | nil =>
    obtain rfl : place = last := Except.ok.inj h
    exact List.prefix_refl place
  | cons name steps ih =>
    obtain ⟨hdots, hsteps⟩ := not_or.mp (mt List.mem_cons.mpr up)
    by_cases hdot : name = "."
    · subst hdot
      exact ih h hsteps
    · obtain ⟨-, hrest⟩ := (walk_cons hdot (Ne.symm hdots)).mp h
      exact (List.prefix_append place [name]).trans (ih hrest hsteps)

section Join

variable {t : FileTree} {folder name : String} {place : Place}

/-- The path of a relative name is followed from the folder to which it is joined. -/
theorem exists_of_slot_join (relative : Path.isAbsolute name = false) {front : List String}
    {last : String} (hparts : Path.parts name = front ++ [last])
    (h : t.slot (Path.join folder name) = .ok place) :
    ∃ base inner, t.base folder = .ok base ∧ t.walk base front = .ok inner ∧
      place = inner ++ [last] := by
  obtain ⟨inner, entry, hr, -, rfl, -⟩ := slot_eq_ok_iff.mp h
  have goal := (resolve_eq_ok_iff.mp hr).2
  have steps : Path.parts (Path.join folder name) = Path.parts folder ++ front ++ [last] := by
    rw [Path.parts_join_of_relative relative, hparts, List.append_assoc]
  have here : t.start (Path.join folder name) = t.start folder := by
    unfold start
    rw [Path.isAbsolute_join_of_relative relative]
  unfold target at goal
  rw [steps, here, List.getLast?_concat, List.dropLast_concat] at goal
  simp only at goal
  split at goal
  · obtain ⟨_, -, hfolder⟩ := map_eq_ok_iff.mp goal
    cases hfolder
  · obtain ⟨reached, hwalk, hentry⟩ := map_eq_ok_iff.mp goal
    obtain ⟨rfl, rfl, -⟩ := Target.entry.inj hentry
    rw [walk_append] at hwalk
    cases hbase : t.walk (t.start folder) (Path.parts folder) with
    | error cause =>
      rw [hbase] at hwalk
      cases hwalk
    | ok base =>
      rw [hbase] at hwalk
      exact ⟨base, reached, hbase, hwalk, rfl⟩

/-- **The file of a relative name stands below the folder to which the name is joined**, if the name
has no step to the folder above. -/
theorem Leads.exists_prefix (h : t.Leads (Path.join folder name) place)
    (relative : Path.isAbsolute name = false) (hne : name ≠ "") (up : ".." ∉ Path.parts name) :
    ∃ base, t.base folder = .ok base ∧ base <+: place := by
  have hparts := (List.dropLast_concat_getLast (Path.parts_ne_nil_of_relative relative hne)).symm
  obtain ⟨base, inner, hbase, hwalk, rfl⟩ := exists_of_slot_join relative hparts h.slot
  have down : base <+: inner := prefix_of_walk hwalk fun hm => up (List.dropLast_subset _ hm)
  exact ⟨base, hbase, down.trans (List.prefix_append inner _)⟩

/-- The file of a plain name stands in the folder to which the name is joined. -/
theorem Leads.exists_eq (h : t.Leads (Path.join folder name) place)
    (plain : Path.isPlain name = true) :
    ∃ base, t.base folder = .ok base ∧ place = base ++ [name] := by
  have single : Path.parts name = [] ++ [name] := Path.parts_of_isPlain plain
  obtain ⟨base, inner, hbase, hwalk, rfl⟩ :=
    exists_of_slot_join (Path.isAbsolute_of_isPlain plain) single h.slot
  obtain rfl : base = inner := Except.ok.inj hwalk
  exact ⟨base, hbase, rfl⟩

end Join

end Dialogue.Storage.FileTree
