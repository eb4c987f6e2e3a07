import Dialogue.Storage.OsError
import Dialogue.Storage.Path

/-!
# File trees

A file tree holds folders and files under the names that lead to them from the root, and has a
working folder from which relative paths start. Operations fail for the reasons for which the
operating system refuses them, and the first reason on the way along the path counts.

* `FileTree.resolve` follows a path up to its last part.
* `read`, `readText`, `write`, `makeFolder` and `makeFolders` act on what is there.

Results:
* **`FileTree.node?_put`**: storing at one place changes that place and no other.
-/

namespace Dialogue.Storage

/-- What stands in a file tree. -/
inductive Node where
  /-- A folder. -/
  | folder
  /-- A file. -/
  | file (content : ByteArray)

/-- The names on the way from the root. -/
abbrev Place := List String

/-- Folders and files. -/
structure FileTree where
  /-- The working folder. -/
  here : Place
  /-- What stands below the root, each place once. -/
  nodes : List (Place × Node)

namespace FileTree

/-- What stands at a place. -/
def node? (t : FileTree) (place : Place) : Option Node :=
  if place.isEmpty then some .folder
  else (t.nodes.find? (·.1 == place)).map (·.2)

/-- Stores something at a place, in place of what is there. -/
def put (t : FileTree) (place : Place) (node : Node) : FileTree :=
  { t with nodes := t.nodes.filter (·.1 != place) ++ [(place, node)] }

/-- A tree without files whose working folder is at the given place. -/
def empty (here : Place) : FileTree :=
  ⟨here, (List.range here.length).map fun n => (here.take (n + 1), .folder)⟩

/-- **Storing at one place changes that place and no other.** -/
theorem node?_put (t : FileTree) {place : Place} (hp : place ≠ []) (node : Node) (other : Place) :
    (t.put place node).node? other = if other = place then some node else t.node? other := by
  by_cases ho : other = place
  · subst ho
    have : (t.nodes.filter (·.1 != other)).find? (·.1 == other) = none := by
      simp [List.find?_eq_none]
    simp [node?, put, hp, List.find?_append, this]
  · have hfind : ((t.nodes.filter (·.1 != place)).find? (·.1 == other)) =
        t.nodes.find? (·.1 == other) := by
      rw [List.find?_filter]
      congr 1
      funext entry
      by_cases h : entry.1 = other
      · subst h
        simp [ho]
      · simp [h]
    have hne : (place == other) = false := by simpa using Ne.symm ho
    simp [node?, put, ho, List.find?_append, hfind, hne]

/-! ## Following paths -/

/-- The greatest number of bytes in a name. -/
def nameLimit : Nat := 255

/-- The least number of bytes that is too much for a path. -/
def pathLimit : Nat := 4096

/-- What stands under a name in a folder that is there. -/
def entry? (t : FileTree) (folder : Place) (name : String) : Except OsError (Option Node) :=
  if nameLimit < name.utf8ByteSize then .error .nameTooLong else .ok (t.node? (folder ++ [name]))

/-- Follows steps from folder to folder. -/
def walk (t : FileTree) (place : Place) : List String → Except OsError Place
  | [] => .ok place
  | name :: rest =>
    if name = "." then walk t place rest
    else if name = ".." then walk t place.dropLast rest
    else match t.entry? place name with
      | .error cause => .error cause
      | .ok none => .error .notFound
      | .ok (some (.file _)) => .error .notAFolder
      | .ok (some .folder) => walk t (place ++ [name]) rest

/-- What a path leads to. -/
inductive Target where
  /-- A folder that is there, reached by no name of its own. -/
  | folder (place : Place)
  /-- A name in a folder that is there; a slash behind it asks for a folder. -/
  | entry (folder : Place) (name : String) (slash : Bool)
  deriving DecidableEq, Repr

/-- Follows a path up to its last part. -/
def resolve (t : FileTree) (path : String) : Except OsError Target := do
  if path.toList.contains '\x00' then throw .nullInPath
  if pathLimit ≤ path.utf8ByteSize then throw .nameTooLong
  if path.isEmpty then throw .notFound
  let start := if Path.isAbsolute path then [] else t.here
  let parts := Path.parts path
  match parts.getLast? with
  | none => pure (.folder start)
  | some name =>
    if name = "." ∨ name = ".." then pure (.folder (← t.walk start parts))
    else pure (.entry (← t.walk start parts.dropLast) name (Path.endsInSlash path))

/-! ## Reading -/

/-- The content of the file at a path. -/
def read (t : FileTree) (path : String) : Except OsError ByteArray := do
  match ← t.resolve path with
  | .folder _ => throw .isAFolder
  | .entry folder name slash =>
    match ← t.entry? folder name with
    | none => throw .notFound
    | some .folder => throw .isAFolder
    | some (.file content) => if slash then throw .notAFolder else pure content

/-- The text in the file at a path. -/
def readText (t : FileTree) (path : String) : Except OsError String := do
  match String.fromUTF8? (← t.read path) with
  | some text => pure text
  | none => throw .invalidText

/-- A folder is at the path. -/
def isFolder (t : FileTree) (path : String) : Bool :=
  match t.resolve path with
  | .ok (.folder _) => true
  | .ok (.entry folder name _) =>
    match t.entry? folder name with
    | .ok (some .folder) => true
    | _ => false
  | .error _ => false

/-! ## Writing -/

/-- The tree with the content in the file at a path. -/
def write (t : FileTree) (path : String) (content : ByteArray) : Except OsError FileTree := do
  match ← t.resolve path with
  | .folder _ => throw .isAFolder
  | .entry folder name slash =>
    if slash then throw .isAFolder
    match ← t.entry? folder name with
    | some .folder => throw .isAFolder
    | _ => pure (t.put (folder ++ [name]) (.file content))

/-- The tree with a new folder at a path. -/
def makeFolder (t : FileTree) (path : String) : Except OsError FileTree := do
  match ← t.resolve path with
  | .folder _ => throw .alreadyExists
  | .entry folder name _ =>
    match ← t.entry? folder name with
    | some _ => throw .alreadyExists
    | none => pure (t.put (folder ++ [name]) .folder)

/-- The tree with a folder at the first of the paths, of which each lies in the next. A folder that
is there already will do. -/
def makeEach (t : FileTree) : List String → Except OsError FileTree
  | [] => .error (.other "failed to create whole tree")
  | path :: around =>
    if path.isEmpty then .ok t
    else
      let accept (t : FileTree) (cause : OsError) : Except OsError FileTree :=
        if t.isFolder path then .ok t else .error cause
      match t.makeFolder path with
      | .ok t => .ok t
      | .error .notFound => do
        let t ← makeEach t around
        match t.makeFolder path with
        | .ok t => .ok t
        | .error cause => accept t cause
      | .error cause => accept t cause

/-- The tree with a folder at a path, and folders around it as needed. -/
def makeFolders (t : FileTree) (path : String) : Except OsError FileTree :=
  t.makeEach (path :: Path.enclosing path)

/-! ## The files -/

/-- The files below the working folder, by the paths that lead to them from there. -/
def files (t : FileTree) : List (String × ByteArray) :=
  t.nodes.filterMap fun (place, node) =>
    match node with
    | .folder => none
    | .file content =>
      if t.here.isPrefixOf place then some ("/".intercalate (place.drop t.here.length), content)
      else none

end FileTree

end Dialogue.Storage
