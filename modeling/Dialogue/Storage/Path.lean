/-!
# Paths

A path is a text whose parts are separated by slashes. Empty parts and single dots stand for no
step, two dots for a step to the folder above.

Results:
* `splitSlashes_append`: a slash ends a part.
* **`parts_join_of_relative`**, `parts_join`: a path that a name has been joined to has the parts of
  its folder, and those of the name, which is one itself if it is plain; `isAbsolute_join`,
  `endsInSlash_join` and `utf8ByteSize_join` say what else it is.
* `join_eq_append`, `join_eq`: a relative name, such as a plain one, is put behind its folder.
-/

namespace Dialogue.Storage.Path

/-- The parts of a path, empty ones included. -/
def splitSlashes : List Char → List (List Char)
  | [] => [[]]
  | c :: cs =>
    if c = '/' then [] :: splitSlashes cs
    else match splitSlashes cs with
      | [] => [[c]]
      | part :: parts => (c :: part) :: parts

theorem splitSlashes_ne_nil (cs : List Char) : splitSlashes cs ≠ [] := by
  cases cs with
  | nil => simp [splitSlashes]
  | cons c cs =>
    unfold splitSlashes
    split
    · simp
    · split <;> simp

/-- A slash ends a part. -/
theorem splitSlashes_append (cs ds : List Char) :
    splitSlashes (cs ++ '/' :: ds) = splitSlashes cs ++ splitSlashes ds := by
  induction cs with
  | nil => rfl
  | cons c cs ih =>
    rw [List.cons_append, splitSlashes, splitSlashes, ih]
    by_cases hc : c = '/'
    · simp [hc]
    · obtain ⟨part, parts, h⟩ := List.exists_cons_of_ne_nil (splitSlashes_ne_nil cs)
      simp [hc, h]

theorem splitSlashes_of_not_mem {cs : List Char} (h : '/' ∉ cs) : splitSlashes cs = [cs] := by
  induction cs with
  | nil => rfl
  | cons c cs ih =>
    obtain ⟨hc, hcs⟩ := not_or.mp (mt List.mem_cons.mpr h)
    simp [splitSlashes, ih hcs, Ne.symm hc]

/-- The path starts at the root. -/
def isAbsolute (path : String) : Bool := path.toList.head? == some '/'

/-- The path ends in a slash. -/
def endsInSlash (path : String) : Bool := path.toList.getLast? == some '/'

/-- The parts of a path that say something. -/
def parts (path : String) : List String :=
  ((splitSlashes path.toList).filter (! ·.isEmpty)).map String.ofList

/-- The path of `name` as seen from `folder`. -/
def join (folder name : String) : String :=
  if isAbsolute name || folder.isEmpty then name
  else if endsInSlash folder then folder ++ name
  else folder ++ "/" ++ name

/-- A name of a single part, which stays in the folder to which it is joined. -/
def isPlain (name : String) : Bool := ! name.isEmpty && ! name.toList.contains '/'

theorem isPlain_iff {name : String} : isPlain name = true ↔ name ≠ "" ∧ '/' ∉ name.toList := by
  simp [isPlain]

section Join

variable {folder name : String}

theorem isAbsolute_of_not_mem (h : '/' ∉ name.toList) : isAbsolute name = false := by
  cases hn : name.toList with
  | nil => simp [isAbsolute, hn]
  | cons c cs =>
    have : c ≠ '/' := fun hc => h (by simp [hn, hc])
    simp [isAbsolute, hn, this]

theorem isAbsolute_of_isPlain (h : isPlain name = true) : isAbsolute name = false :=
  isAbsolute_of_not_mem (isPlain_iff.mp h).2

/-- A name that starts at the root is not put behind a folder. -/
theorem join_of_isAbsolute (h : isAbsolute name = true) : join folder name = name := by
  simp [join, h]

/-- A relative name is put behind the path of the empty name, which is empty or ends in a slash. -/
theorem join_eq_append (h : isAbsolute name = false) :
    join folder name = join folder "" ++ name := by
  have relative : isAbsolute "" = false := rfl
  unfold join
  rw [h, relative]
  by_cases hf : folder.isEmpty = true
  · simp [hf]
  · by_cases hs : endsInSlash folder = true
    · simp [hf, hs]
    · simp [hf, hs]

theorem join_empty (folder : String) :
    join folder "" = "" ∨ endsInSlash (join folder "") = true := by
  have relative : isAbsolute "" = false := rfl
  unfold join
  rw [relative]
  by_cases hf : folder.isEmpty = true
  · simp [hf]
  · by_cases hs : endsInSlash folder = true
    · simp [hf, hs]
    · have : endsInSlash (folder ++ "/") = true := by simp [endsInSlash]
      simp [hf, hs, this]

/-- A plain name is put behind its folder, with a slash between them if there is none. -/
theorem join_eq (h : isPlain name = true) :
    join folder name =
      folder ++ (if folder.isEmpty ∨ endsInSlash folder then "" else "/") ++ name := by
  unfold join
  rw [isAbsolute_of_isPlain h]
  by_cases hf : folder.isEmpty = true
  · have : folder = "" := by simpa using hf
    simp [this]
  · by_cases hs : endsInSlash folder = true
    · simp [hf, hs]
    · simp [hf, hs]

theorem toList_join (h : isPlain name = true) :
    (join folder name).toList =
      folder.toList ++ (if folder.isEmpty ∨ endsInSlash folder then [] else ['/']) ++
        name.toList := by
  rw [join_eq h]
  split <;> simp

theorem utf8ByteSize_join (h : isPlain name = true) :
    (join folder name).utf8ByteSize =
      folder.utf8ByteSize + (if folder.isEmpty ∨ endsInSlash folder then 0 else 1) +
        name.utf8ByteSize := by
  rw [join_eq h, String.utf8ByteSize_append, String.utf8ByteSize_append]
  split <;> rfl

/-! ### Parts of joined paths -/

/-- A joined path starts where its folder does, unless the name starts at the root. -/
theorem isAbsolute_join_of_relative (h : isAbsolute name = false) :
    isAbsolute (join folder name) = isAbsolute folder := by
  unfold join
  rw [h]
  by_cases hf : folder.isEmpty = true
  · have : folder = "" := by simpa using hf
    simpa [this, isAbsolute] using h
  · have : folder.toList ≠ [] := by simpa using hf
    obtain ⟨c, cs, hc⟩ := List.exists_cons_of_ne_nil this
    simp only [hf, Bool.or_self, Bool.false_eq_true, if_false]
    split <;> simp [isAbsolute, hc]

/-- A joined path has the parts of its folder, and those of the name. -/
theorem parts_join_of_relative (h : isAbsolute name = false) :
    parts (join folder name) = parts folder ++ parts name := by
  unfold join
  rw [h]
  by_cases hf : folder.isEmpty = true
  · have : folder = "" := by simpa using hf
    simp [this, parts, splitSlashes]
  simp only [hf, Bool.or_self, Bool.false_eq_true, if_false, parts]
  by_cases he : endsInSlash folder = true
  · have hl : folder.toList.getLast? = some '/' := by simpa [endsInSlash] using he
    obtain ⟨front, hfront⟩ := List.getLast?_eq_some_iff.mp hl
    rw [if_pos he, String.toList_append, hfront]
    simp [splitSlashes_append, splitSlashes]
  · have slash : "/".toList = ['/'] := rfl
    rw [if_neg he, String.toList_append, String.toList_append, slash]
    simp [splitSlashes_append]

/-- A path that does not start at the root starts with a part. -/
theorem parts_ne_nil_of_relative (h : isAbsolute name = false) (hne : name ≠ "") :
    parts name ≠ [] := by
  obtain ⟨c, cs, hc⟩ := List.exists_cons_of_ne_nil (mt String.toList_eq_nil_iff.mp hne)
  obtain ⟨part, rest, hs⟩ := List.exists_cons_of_ne_nil (splitSlashes_ne_nil cs)
  have : c ≠ '/' := by simpa [isAbsolute, hc] using h
  simp [parts, hc, splitSlashes, this, hs]

theorem parts_of_isPlain (h : isPlain name = true) : parts name = [name] := by
  obtain ⟨hne, hs⟩ := isPlain_iff.mp h
  simp [parts, splitSlashes_of_not_mem hs, hne]

/-- A joined path has the parts of its folder, and the name. -/
theorem parts_join (h : isPlain name = true) :
    parts (join folder name) = parts folder ++ [name] := by
  rw [parts_join_of_relative (isAbsolute_of_isPlain h), parts_of_isPlain h]

theorem isAbsolute_join (h : isPlain name = true) :
    isAbsolute (join folder name) = isAbsolute folder :=
  isAbsolute_join_of_relative (isAbsolute_of_isPlain h)

theorem endsInSlash_join (h : isPlain name = true) : endsInSlash (join folder name) = false := by
  obtain ⟨hne, hs⟩ := isPlain_iff.mp h
  cases hl : name.toList.getLast? with
  | none => exact absurd (by simpa using hl) hne
  | some c =>
    have : c ≠ '/' := fun hc => hs (hc ▸ List.mem_of_getLast? hl)
    simp [endsInSlash, toList_join h, List.getLast?_append, hl, this]

/-- No character gets into a path by joining, except for a slash. -/
theorem not_mem_join (h : isPlain name = true) {c : Char} (hc : c ≠ '/') :
    c ∉ (join folder name).toList ↔ c ∉ folder.toList ∧ c ∉ name.toList := by
  rw [toList_join h]
  split <;> simp [hc]

theorem join_ne_empty (h : isPlain name = true) : join folder name ≠ "" := by
  obtain ⟨hne, -⟩ := isPlain_iff.mp h
  have : (join folder name).toList ≠ [] := by simp [toList_join h, hne]
  simpa using this

end Join

/-- The paths of the folders around a path, the innermost first. The outermost is the empty path, or
the root. -/
def enclosing (path : String) : List String :=
  let steps := (parts path).filter (· != ".")
  let start := if isAbsolute path then "/" else ""
  (List.range steps.length).reverse.map fun n => start ++ "/".intercalate (steps.take n)

end Dialogue.Storage.Path
