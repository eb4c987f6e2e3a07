import Dialogue.Document.Reader
import Dialogue.Storage.FileTree

/-!
# Where templates come from

A source answers an identifier with a template. A catalog keeps templates in memory; a folder keeps
each as the document `{id}.json`, and the file name decides about the identifier.

Results:
* **`Catalog.fetch_insert`**: an inserted template is fetched under its identifier and hides no
  other.
-/

namespace Dialogue

open Decimal Storage

/-- Why a source has no template to give. -/
inductive SourceError where
  /-- There is no template with the identifier. -/
  | notFound (id : TemplateId)
  /-- The template's file cannot be read. -/
  | io (id : TemplateId) (cause : OsError)
  /-- The template's file does not hold a document. -/
  | json (problem : Json.Problem)
  /-- The document has a fault. -/
  | invalid (cause : Fault)
  deriving DecidableEq, Repr

/-- How a message describes a problem with a JSON text. -/
def Json.Problem.describe : Json.Problem → String
  | .malformed => "malformed JSON text"
  | .cut => "the JSON text ends too early"
  | .mismatch cause => cause.message

/-- The message for a document that cannot be read. -/
def documentMessage (problem : Json.Problem) : String :=
  "Failed to parse template JSON: " ++ problem.describe

/-- The message for an error of a source. -/
def SourceError.message : SourceError → String
  | .notFound id => "Template " ++ id.label ++ " not found"
  | .io id cause => "Could not read template " ++ id.label ++ ": " ++ cause.message
  | .json problem => documentMessage problem
  | .invalid cause => "Stored template is invalid: " ++ cause.message

/-! ## Catalogs -/

/-- Templates in memory, one for each identifier. -/
structure Catalog where
  /-- The templates. -/
  templates : List Template := []

namespace Catalog

/-- The template with the identifier. -/
def get? (c : Catalog) (id : TemplateId) : Option Template := c.templates.find? (·.id == id)

/-- The catalog with a template under its identifier, in place of the one that is there. -/
def insert (c : Catalog) (t : Template) : Catalog :=
  ⟨t :: c.templates.filter (·.id != t.id)⟩

/-- The catalog of the given templates, of which later ones replace earlier ones. -/
def ofList (ts : List Template) : Catalog := ts.foldl insert {}

/-- The number of templates. -/
def size (c : Catalog) : Nat := c.templates.length

/-- The catalog has no templates. -/
def isEmpty (c : Catalog) : Bool := c.templates.isEmpty

/-- Fetches a template. -/
def fetch (c : Catalog) (id : TemplateId) : Except SourceError Template :=
  match c.get? id with
  | some t => .ok t
  | none => .error (.notFound id)

theorem get?_insert (c : Catalog) (t : Template) (id : TemplateId) :
    (c.insert t).get? id = if t.id = id then some t else c.get? id := by
  by_cases h : t.id = id
  · simp [get?, insert, h]
  · have : (c.templates.filter (·.id != t.id)).find? (·.id == id) =
        c.templates.find? (·.id == id) := by
      rw [List.find?_filter]
      congr 1
      funext s
      by_cases hs : s.id = id
      · simp [hs, Ne.symm h]
      · simp [hs]
    simp [get?, insert, h, this]

/-- **An inserted template is fetched under its identifier and hides no other.** -/
theorem fetch_insert (c : Catalog) (t : Template) (id : TemplateId) :
    (c.insert t).fetch id = if t.id = id then .ok t else c.fetch id := by
  by_cases h : t.id = id <;> simp [fetch, get?_insert, h]

end Catalog

/-! ## Folders -/

/-- A folder of documents. -/
structure DocumentFolder where
  /-- The file tree. -/
  tree : FileTree
  /-- The path of the folder. -/
  path : String

/-- The path of the document with the identifier. -/
def DocumentFolder.pathOf (f : DocumentFolder) (id : TemplateId) : String :=
  Path.join f.path (numeral id.number.toNat ++ ".json")

/-- The template in a document that is stored under the identifier. -/
def templateOfJson (id : TemplateId) (json : String) : Except SourceError Template :=
  match Document.ofJson json with
  | .error problem => .error (.json problem)
  | .ok document =>
    match { document with id := some id : Document }.toTemplate with
    | .error cause => .error (.invalid cause)
    | .ok t => .ok t

/-- Fetches a template. -/
def DocumentFolder.fetch (f : DocumentFolder) (id : TemplateId) : Except SourceError Template :=
  match f.tree.readText (f.pathOf id) with
  | .error .notFound => .error (.notFound id)
  | .error cause => .error (.io id cause)
  | .ok json => templateOfJson id json

end Dialogue
