import Dialogue.Storage.FileTree

/-!
# Where paths lead

A path is followed through folders up to its last part, whatever stands there. So the path of a name
that is joined to a folder leads to that name in the place of the folder, and a file is written at
that name unless a folder stands there.

* `FileTree.base` is the place of a folder, and `FileTree.slot` the place of a file to be written.
* `Names` are the conditions under which a name of a folder can stand in a path.

Results:
* `FileTree.resolve_eq`: whether a path is refused for its text, and where it leads otherwise.
* **`FileTree.resolve_join`**: where the path of a name in a folder leads.
* `FileTree.write_eq`, `FileTree.slot_join`: a file is written at the slot.
* `FileTree.walk_put`: the way through folders stays, whatever is stored where no folder stood.
* **`FileTree.read_put_slot`**: what has been written is read back.
* `FileTree.exists_base_of_makeFolders`: folders that have been made can be walked through.
-/

namespace Dialogue.Storage

theorem map_eq_ok_iff {ε α β : Type} {f : α → β} {result : Except ε α} {b : β} :
    result.map f = .ok b ↔ ∃ a, result = .ok a ∧ f a = b := by
  cases result <;> simp [Except.map]

/-- A text is read back from its bytes. -/
theorem fromUTF8?_toUTF8 (s : String) : String.fromUTF8? s.toUTF8 = some s := by
  unfold String.fromUTF8?
  rw [String.toUTF8_eq_toByteArray, dif_pos s.isValidUTF8]
  rfl

/-- A name that a file of the folder at a path can have. -/
structure Names (folder name : String) : Prop where
  /-- It is one part of a path. -/
  plain : Path.isPlain name = true
  /-- It is not the folder itself. -/
  ne_dot : name ≠ "."
  /-- It is not the folder above. -/
  ne_dots : name ≠ ".."
  /-- The folder's path has no null character. -/
  null_folder : '\x00' ∉ folder.toList
  /-- The name has no null character. -/
  null_name : '\x00' ∉ name.toList
  /-- The name is not too long. -/
  short : name.utf8ByteSize ≤ FileTree.nameLimit
  /-- The path is not too long. -/
  path_short : (Path.join folder name).utf8ByteSize < FileTree.pathLimit

/-- What can end the name of a file: more than dots, and neither a slash nor a null character. -/
def isSuffix (suffix : String) : Bool :=
  3 ≤ suffix.length && ! suffix.toList.contains '/' && ! suffix.toList.contains '\x00'

theorem isSuffix_iff {suffix : String} :
    isSuffix suffix = true ↔
      3 ≤ suffix.length ∧ '/' ∉ suffix.toList ∧ '\x00' ∉ suffix.toList := by
  simp [isSuffix, and_assoc]

theorem isPlain_append {stem suffix : String} (hsuffix : isSuffix suffix = true)
    (slash : '/' ∉ stem.toList) : Path.isPlain (stem ++ suffix) = true := by
  obtain ⟨long, no_slash, -⟩ := isSuffix_iff.mp hsuffix
  refine Path.isPlain_iff.mpr ⟨fun h => ?_, by simp [slash, no_slash]⟩
  have := congrArg String.length h
  rw [String.length_append, String.length_empty] at this
  omega

theorem append_ne {stem suffix other : String} (hsuffix : isSuffix suffix = true)
    (short : other.length < 3) : stem ++ suffix ≠ other := by
  obtain ⟨long, -, -⟩ := isSuffix_iff.mp hsuffix
  rintro rfl
  rw [String.length_append] at short
  omega

/-- A stem that has no slash and is not too long makes names with every suffix. -/
theorem Names.append {folder stem suffix : String} (hsuffix : isSuffix suffix = true)
    (slash : '/' ∉ stem.toList) (null_folder : '\x00' ∉ folder.toList)
    (null_stem : '\x00' ∉ stem.toList) (short : (stem ++ suffix).utf8ByteSize ≤ FileTree.nameLimit)
    (path_short : (Path.join folder (stem ++ suffix)).utf8ByteSize < FileTree.pathLimit) :
    Names folder (stem ++ suffix) := by
  obtain ⟨-, -, no_null⟩ := isSuffix_iff.mp hsuffix
  exact ⟨isPlain_append hsuffix slash, append_ne hsuffix (by decide), append_ne hsuffix (by decide),
    null_folder, by simp [null_stem, no_null], short, path_short⟩

namespace FileTree

/-! ## Following paths -/

/-- Why a path is refused, whatever stands in the tree. -/
def refusal? (path : String) : Option OsError :=
  if path.toList.contains '\x00' then some .nullInPath
  else if pathLimit ≤ path.utf8ByteSize then some .nameTooLong
  else if path.isEmpty then some .notFound
  else none

/-- Where following a path starts. -/
def start (t : FileTree) (path : String) : Place := if Path.isAbsolute path then [] else t.here

/-- The place of the folder at a path, all parts of which are followed. -/
def base (t : FileTree) (path : String) : Except OsError Place :=
  t.walk (t.start path) (Path.parts path)

/-- Where a path that is not refused leads. -/
def target (t : FileTree) (path : String) : Except OsError Target :=
  match (Path.parts path).getLast? with
  | none => .ok (.folder (t.start path))
  | some name =>
    if name = "." ∨ name = ".." then (t.base path).map .folder
    else (t.walk (t.start path) (Path.parts path).dropLast).map
      (.entry · name (Path.endsInSlash path))

theorem resolve_eq (t : FileTree) (path : String) :
    t.resolve path =
      match refusal? path with
      | some cause => .error cause
      | none => t.target path := by
  unfold resolve refusal?
  simp only [bind, Except.bind, pure, Except.pure, throw, throwThe, MonadExceptOf.throw]
  split
  · rfl
  split
  · rfl
  split
  · rfl
  unfold target base start
  cases (Path.parts path).getLast? with
  | none => rfl
  | some name =>
    simp only
    split
    · cases t.walk (if Path.isAbsolute path then [] else t.here) (Path.parts path) <;> rfl
    · cases t.walk (if Path.isAbsolute path then [] else t.here) (Path.parts path).dropLast <;> rfl

theorem resolve_eq_ok_iff {t : FileTree} {path : String} {goal : Target} :
    t.resolve path = .ok goal ↔ refusal? path = none ∧ t.target path = .ok goal := by
  rw [resolve_eq]
  cases refusal? path <;> simp

theorem refusal?_eq_none_iff {path : String} :
    refusal? path = none ↔
      '\x00' ∉ path.toList ∧ path.utf8ByteSize < pathLimit ∧ path ≠ "" := by
  unfold refusal?
  split
  · simp_all
  split
  · rename_i long
    simp [Nat.not_lt.mpr long]
  split <;> simp_all

theorem entry?_eq_ok_iff {t : FileTree} {folder : Place} {name : String} {node : Option Node} :
    t.entry? folder name = .ok node ↔
      name.utf8ByteSize ≤ nameLimit ∧ t.node? (folder ++ [name]) = node := by
  unfold entry?
  split
  · simp only [reduceCtorEq, false_iff, not_and]
    omega
  · simp only [Except.ok.injEq, iff_and_self]
    omega

/-- A walk over a name goes through a folder. -/
theorem walk_cons {t : FileTree} {place : Place} {name : String} (hdot : name ≠ ".")
    (hdots : name ≠ "..") {rest : List String} {last : Place} :
    t.walk place (name :: rest) = .ok last ↔
      t.entry? place name = .ok (some .folder) ∧ t.walk (place ++ [name]) rest = .ok last := by
  rw [walk, if_neg hdot, if_neg hdots]
  split <;> simp_all

/-- **The path of a name in a folder leads to that name**, if the folder is there. -/
theorem resolve_join (t : FileTree) {folder name : String} (h : Names folder name) :
    t.resolve (Path.join folder name) =
      (t.base folder).map fun place => .entry place name false := by
  have null : '\x00' ∉ (Path.join folder name).toList :=
    (Path.not_mem_join h.plain (by decide)).mpr ⟨h.null_folder, h.null_name⟩
  have accepted : refusal? (Path.join folder name) = none :=
    refusal?_eq_none_iff.mpr ⟨null, h.path_short, Path.join_ne_empty h.plain⟩
  simp [resolve_eq, accepted, target, base, start, Path.parts_join h.plain,
    Path.isAbsolute_join h.plain, Path.endsInSlash_join h.plain, h.ne_dot, h.ne_dots]

/-! ## Files -/

/-- The place of the file that can be written at a path. -/
def slot (t : FileTree) (path : String) : Except OsError Place :=
  match t.resolve path with
  | .error cause => .error cause
  | .ok (.folder _) => .error .isAFolder
  | .ok (.entry folder name slash) =>
    if slash then .error .isAFolder
    else match t.entry? folder name with
      | .error cause => .error cause
      | .ok (some .folder) => .error .isAFolder
      | .ok _ => .ok (folder ++ [name])

/-- Writing a file stores its content at the slot. -/
theorem write_eq (t : FileTree) (path : String) (content : ByteArray) :
    t.write path content = (t.slot path).map fun place => t.put place (.file content) := by
  unfold write slot
  cases t.resolve path with
  | error cause => rfl
  | ok goal =>
    cases goal with
    | folder place => rfl
    | entry folder name slash =>
      cases slash with
      | true => rfl
      | false =>
        simp only [bind, Except.bind, Bool.false_eq_true, if_false]
        cases t.entry? folder name with
        | error cause => rfl
        | ok node => rcases node with _ | _ | _ <;> rfl

theorem slot_eq_ok_iff {t : FileTree} {path : String} {place : Place} :
    t.slot path = .ok place ↔ ∃ folder name, t.resolve path = .ok (.entry folder name false) ∧
      name.utf8ByteSize ≤ nameLimit ∧ place = folder ++ [name] ∧ t.node? place ≠ some .folder := by
  constructor
  · intro h
    unfold slot at h
    split at h
    · cases h
    · cases h
    rename_i folder name slash hr
    cases slash with
    | true => cases h
    | false =>
      cases he : t.entry? folder name with
      | error cause => simp [he] at h
      | ok node =>
        obtain ⟨hs, hn⟩ := entry?_eq_ok_iff.mp he
        rcases node with _ | _ | content <;> simp [he] at h <;> subst h
        · exact ⟨folder, name, hr, hs, rfl, by simp [hn]⟩
        · exact ⟨folder, name, hr, hs, rfl, by simp [hn]⟩
  · rintro ⟨folder, name, hr, hs, rfl, free⟩
    simp only [slot, hr, Bool.false_eq_true, if_false, entry?_eq_ok_iff.mpr ⟨hs, rfl⟩]

/-- A file in a folder is written at its name, unless a folder stands there. -/
theorem slot_join {t : FileTree} {folder name : String} (h : Names folder name) {place : Place}
    (hbase : t.base folder = .ok place) (free : t.node? (place ++ [name]) ≠ some .folder) :
    t.slot (Path.join folder name) = .ok (place ++ [name]) :=
  slot_eq_ok_iff.mpr ⟨place, name, by rw [resolve_join t h, hbase]; rfl, h.short, rfl, free⟩

/-- The content of the file in a folder. -/
theorem read_join {t : FileTree} {folder name : String} (h : Names folder name) {place : Place}
    (hbase : t.base folder = .ok place) :
    t.read (Path.join folder name) =
      match t.node? (place ++ [name]) with
      | none => .error .notFound
      | some .folder => .error .isAFolder
      | some (.file content) => .ok content := by
  have entry : t.entry? place name = .ok (t.node? (place ++ [name])) :=
    entry?_eq_ok_iff.mpr ⟨h.short, rfl⟩
  unfold read
  simp only [resolve_join t h, hbase, Except.map, bind, Except.bind, entry]
  split <;> simp_all <;> rfl

/-! ## What stays when something is stored -/

section Put

variable {t : FileTree} {stored : Place} {node : Node}

theorem entry?_put (hs : stored ≠ []) (folder : Place) (name : String) :
    entry? (t.put stored node) folder name =
      if folder ++ [name] = stored then (t.entry? folder name).map fun _ => some node
      else t.entry? folder name := by
  unfold entry?
  rw [node?_put t hs]
  split <;> split <;> rfl

/-- **The way through folders stays** when something is stored where no folder stood. -/
theorem walk_put (hs : stored ≠ []) (free : t.node? stored ≠ some .folder) {place last : Place}
    {steps : List String} (h : t.walk place steps = .ok last) :
    (t.put stored node).walk place steps = .ok last := by
  -- A walk looks at folders only, so it does not come by the place where something is stored.
  induction steps generalizing place with
  | nil => exact h
  | cons name steps ih =>
    by_cases hdot : name = "."
    · subst hdot
      exact ih h
    by_cases hdots : name = ".."
    · subst hdots
      exact ih h
    obtain ⟨hentry, hrest⟩ := (walk_cons hdot hdots).mp h
    have other : place ++ [name] ≠ stored := by
      rintro rfl
      exact free (entry?_eq_ok_iff.mp hentry).2
    refine (walk_cons hdot hdots).mpr ⟨?_, ih hrest⟩
    rw [entry?_put hs, if_neg other, hentry]

theorem base_put (hs : stored ≠ []) (free : t.node? stored ≠ some .folder) {path : String}
    {place : Place} (h : t.base path = .ok place) : (t.put stored node).base path = .ok place :=
  walk_put hs free h

/-- A path leads where it led. -/
theorem resolve_put (hs : stored ≠ []) (free : t.node? stored ≠ some .folder) {path : String}
    {goal : Target} (h : t.resolve path = .ok goal) :
    (t.put stored node).resolve path = .ok goal := by
  obtain ⟨accepted, htarget⟩ := resolve_eq_ok_iff.mp h
  refine resolve_eq_ok_iff.mpr ⟨accepted, ?_⟩
  unfold target at htarget ⊢
  cases hlast : (Path.parts path).getLast? with
  | none =>
    rw [hlast] at htarget
    exact htarget
  | some name =>
    simp only [hlast] at htarget ⊢
    by_cases hup : name = "." ∨ name = ".."
    · rw [if_pos hup] at htarget ⊢
      obtain ⟨place, hbase, rfl⟩ := map_eq_ok_iff.mp htarget
      exact map_eq_ok_iff.mpr ⟨place, base_put hs free hbase, rfl⟩
    · rw [if_neg hup] at htarget ⊢
      obtain ⟨place, hwalk, rfl⟩ := map_eq_ok_iff.mp htarget
      exact map_eq_ok_iff.mpr ⟨place, walk_put hs free hwalk, rfl⟩

/-- **What has been written is read back.** -/
theorem read_put_slot {path : String} {place : Place} (h : t.slot path = .ok place)
    (content : ByteArray) : (t.put place (.file content)).read path = .ok content := by
  obtain ⟨folder, name, hr, hs, rfl, free⟩ := slot_eq_ok_iff.mp h
  have hne : folder ++ [name] ≠ [] := by simp
  have entry : entry? (t.put (folder ++ [name]) (.file content)) folder name =
      .ok (some (.file content)) :=
    entry?_eq_ok_iff.mpr ⟨hs, by rw [node?_put t hne, if_pos rfl]⟩
  simp [read, resolve_put hne free hr, entry, bind, Except.bind, pure, Except.pure]

/-- A text that has been written is read back. -/
theorem readText_put_slot {path : String} {place : Place} (h : t.slot path = .ok place)
    (text : String) : (t.put place (.file text.toUTF8)).readText path = .ok text := by
  unfold readText
  rw [read_put_slot h]
  simp only [bind, Except.bind, fromUTF8?_toUTF8]
  rfl

end Put

/-! ## Making folders -/

theorem walk_append (t : FileTree) (place : Place) (first second : List String) :
    t.walk place (first ++ second) = (t.walk place first).bind (t.walk · second) := by
  induction first generalizing place with
  | nil => rfl
  | cons name first ih =>
    rw [List.cons_append, walk, walk]
    split
    · exact ih place
    · split
      · exact ih place.dropLast
      · split
        · rfl
        · rfl
        · rfl
        · exact ih (place ++ [name])

theorem isFolder_iff {t : FileTree} {path : String} :
    t.isFolder path = true ↔
      (∃ place, t.resolve path = .ok (.folder place)) ∨
        ∃ folder name slash, t.resolve path = .ok (.entry folder name slash) ∧
          t.entry? folder name = .ok (some .folder) := by
  unfold isFolder
  cases t.resolve path with
  | error cause => simp
  | ok goal =>
    cases goal with
    | folder place => simp
    | entry folder name slash =>
      cases he : t.entry? folder name with
      | error cause => simp [he]
      | ok node =>
        rcases node with _ | _ | _
        · simp [he]
        · simp only [he, true_iff]
          exact .inr ⟨folder, name, slash, rfl, he⟩
        · simp [he]

/-- A folder that is there can be walked through. -/
theorem exists_base_of_isFolder {t : FileTree} {path : String} (h : t.isFolder path = true) :
    ∃ place, t.base path = .ok place := by
  have reached : ∃ goal, t.target path = .ok goal ∧
      ∀ folder name slash, goal = .entry folder name slash →
        t.entry? folder name = .ok (some .folder) := by
    rcases isFolder_iff.mp h with ⟨place, hr⟩ | ⟨folder, name, slash, hr, hentry⟩
    · exact ⟨_, (resolve_eq_ok_iff.mp hr).2, by simp⟩
    · exact ⟨_, (resolve_eq_ok_iff.mp hr).2, by simpa using hentry⟩
  obtain ⟨goal, htarget, hentry⟩ := reached
  unfold target at htarget
  cases hlast : (Path.parts path).getLast? with
  | none =>
    have : Path.parts path = [] := by simpa using hlast
    exact ⟨t.start path, by rw [base, this]; rfl⟩
  | some name =>
    simp only [hlast] at htarget
    by_cases hup : name = "." ∨ name = ".."
    · rw [if_pos hup] at htarget
      obtain ⟨place, hbase, -⟩ := map_eq_ok_iff.mp htarget
      exact ⟨place, hbase⟩
    · rw [if_neg hup] at htarget
      obtain ⟨place, hwalk, rfl⟩ := map_eq_ok_iff.mp htarget
      obtain ⟨hdot, hdots⟩ := not_or.mp hup
      obtain ⟨front, hparts⟩ := List.getLast?_eq_some_iff.mp hlast
      refine ⟨place ++ [name], ?_⟩
      rw [hparts, List.dropLast_concat] at hwalk
      rw [base, hparts, walk_append, hwalk]
      exact (walk_cons hdot hdots).mpr ⟨hentry _ _ _ rfl, rfl⟩

/-- **A folder is made** at a name under which nothing stands. -/
theorem exists_of_makeFolder {t made : FileTree} {path : String}
    (h : t.makeFolder path = .ok made) :
    ∃ folder name slash, t.resolve path = .ok (.entry folder name slash) ∧
      t.entry? folder name = .ok none ∧ t.put (folder ++ [name]) .folder = made := by
  unfold makeFolder at h
  cases hr : t.resolve path with
  | error cause => simp [hr, bind, Except.bind] at h
  | ok goal =>
    cases goal with
    | folder place => simp [hr, bind, Except.bind, throw, throwThe, MonadExceptOf.throw] at h
    | entry folder name slash =>
      cases he : t.entry? folder name with
      | error cause => simp [hr, he, bind, Except.bind] at h
      | ok node =>
        cases node with
        | some node =>
          simp [hr, he, bind, Except.bind, throw, throwThe, MonadExceptOf.throw] at h
        | none =>
          refine ⟨folder, name, slash, rfl, he, ?_⟩
          simpa [hr, he, bind, Except.bind, pure, Except.pure] using h

theorem isFolder_of_makeFolder {t made : FileTree} {path : String}
    (h : t.makeFolder path = .ok made) : made.isFolder path = true := by
  obtain ⟨folder, name, slash, hr, he, rfl⟩ := exists_of_makeFolder h
  have hne : folder ++ [name] ≠ [] := by simp
  obtain ⟨hs, hn⟩ := entry?_eq_ok_iff.mp he
  refine isFolder_iff.mpr (.inr ⟨folder, name, slash, ?_, ?_⟩)
  · exact resolve_put hne (by simp [hn]) hr
  · exact entry?_eq_ok_iff.mpr ⟨hs, by rw [node?_put t hne, if_pos rfl]⟩

/-- **Folders are made** from the outermost to the innermost, unless they are there. -/
theorem exists_of_makeEach {t made : FileTree} {path : String} {around : List String}
    (hne : path ≠ "") (h : t.makeEach (path :: around) = .ok made) :
    ∃ outer, (outer = t ∨ t.makeEach around = .ok outer) ∧
      (outer.makeFolder path = .ok made ∨ outer.isFolder path = true ∧ outer = made) := by
  unfold makeEach at h
  rw [if_neg (by simpa using hne)] at h
  simp only at h
  split at h
  · rename_i hmade
    cases h
    exact ⟨t, .inl rfl, .inl hmade⟩
  · cases ho : t.makeEach around with
    | error cause => simp [ho, bind, Except.bind] at h
    | ok outer =>
      refine ⟨outer, .inr rfl, ?_⟩
      simp only [ho, bind, Except.bind] at h
      split at h
      · rename_i hmade
        cases h
        exact .inl hmade
      · split at h
        · exact .inr ⟨by assumption, Except.ok.inj h⟩
        · cases h
  · split at h
    · exact ⟨t, .inl rfl, .inr ⟨by assumption, Except.ok.inj h⟩⟩
    · cases h

/-- Folders that have been made are there, be they old or new. -/
theorem isFolder_of_makeEach {t made : FileTree} {path : String} {around : List String}
    (hne : path ≠ "") (h : t.makeEach (path :: around) = .ok made) : made.isFolder path = true := by
  obtain ⟨outer, -, new | ⟨old, rfl⟩⟩ := exists_of_makeEach hne h
  · exact isFolder_of_makeFolder new
  · exact old

/-- The path of a folder that is there has no null character. -/
theorem null_not_mem_of_isFolder {t : FileTree} {path : String} (h : t.isFolder path = true) :
    '\x00' ∉ path.toList := by
  have accepted : refusal? path = none := by
    rcases isFolder_iff.mp h with ⟨place, hr⟩ | ⟨folder, name, slash, hr, -⟩
    · exact (resolve_eq_ok_iff.mp hr).1
    · exact (resolve_eq_ok_iff.mp hr).1
  exact (refusal?_eq_none_iff.mp accepted).1

/-- **Folders that have been made can be walked through**, and their path has no null character. -/
theorem exists_base_of_makeFolders {t made : FileTree} {path : String}
    (h : t.makeFolders path = .ok made) :
    (∃ place, made.base path = .ok place) ∧ '\x00' ∉ path.toList := by
  by_cases hne : path = ""
  · subst hne
    exact ⟨⟨made.here, rfl⟩, by simp⟩
  have isFolder := isFolder_of_makeEach hne h
  exact ⟨exists_base_of_isFolder isFolder, null_not_mem_of_isFolder isFolder⟩

end FileTree

end Dialogue.Storage
