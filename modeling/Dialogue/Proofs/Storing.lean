import Dialogue.Proofs.DocumentTexts
import Dialogue.Proofs.Reachable
import Dialogue.Proofs.Storage.Places
import Dialogue.Workbench

/-!
# Templates come back as they were stored

A template goes into a draft or into a document, and is checked again on its way back. A folder
keeps the document of a template as a text in a file that is named for the template's identifier; a
catalog keeps the template itself. Whatever templates are stored in both, in whatever order and
however often, tasks cannot tell the folder from the catalog.

* `DocumentFolder.store`, `DocumentFolder.storeAll`: templates are stored in a folder.
* `DocumentFolder.Mirrors`: the documents in a folder are those of the templates in a catalog.

Results:
* **`Arena.Reachable.restored`**: an arena comes back whole from its document and from its draft.
* `Catalog.get?_foldl_insert`: the template that was put in last is found.
* `DocumentFolder.Mirrors.store`, `DocumentFolder.Mirrors.storeAll`: storing a template in both
  keeps folder and catalog alike, and so does storing one after the other.
* `DocumentFolder.Mirrors.fetch`: then they give the same templates.
* **`DocumentFolder.workbench_storeAll`**: and the workbenches over them the same results.
-/

namespace Dialogue

open Decimal Storage

/-! ## Drafts and documents -/

namespace Arena

/-- **A reachable arena comes back whole from its document and from its draft**: with all settings,
screens, triggers, journal texts, choices, references and targets, and with an index that answers as
the one that it had. -/
theorem Reachable.restored {a : Arena} (h : a.Reachable) :
    ∃ t : Template, t.toArena = a ∧ t.toDocument.toTemplate = .ok t ∧ a.toDraft.build = .ok t ∧
      ∀ id, t.screen? id = a.screen? id := by
  let t : Template := ⟨a, h.sound⟩
  have document : t.toDocument.toTemplate = .ok t := Document.toTemplate_toDocument t
  have draft : a.toDraft.build = .ok t := Draft.build_eq_ok_iff.mpr rfl
  exact ⟨t, rfl, document, draft, fun _ => rfl⟩

/-- A vault whose journal entry has a title alone, and which is to be entered where there is no
screen. -/
def vault : Draft where
  name := "vault"
  keyPrefix := "@"
  initialScreen := some ⟨9⟩
  screens :=
    [{ id := ⟨3⟩, name := "gate", text := "Closed."
       trigger := QuestTrigger.of? "hasKey" "vault" (some "The key") none
       choices := [{ text := "Leave.", target := some ⟨8⟩ }] }]

/-- The vault comes back from its document after its texts have got references. -/
theorem Reachable.restored_vault :
    ∃ t : Template, t.toArena.Reachable ∧ t.localized = true ∧ t.screen? ⟨9⟩ = none ∧
      t.toDocument.initialScreen = some ⟨9⟩ ∧
      t.toDocument.screens.map (fun e => (e.action, e.title, e.description)) =
        [(some "hasKey", some "The key", none)] ∧
      t.toDocument.toTemplate = .ok t ∧ t.toDraft.build = .ok t := by
  have assembled : vault.assemble = .ok ⟨vault, ScreenIndex.of vault.screens⟩ :=
    Draft.assemble_eq_ok_iff.mpr ⟨rfl, by decide, rfl⟩
  have made : Made ⟨vault, ScreenIndex.of vault.screens⟩ :=
    .drafted "vault" [.keyPrefix "@", .initialScreen ⟨9⟩, .screens vault.screens] assembled
  have reached := (Reachable.made made).step (.localize _ (⟨0⟩ : SequentialKeys))
  obtain ⟨t, ht, document, draft, index⟩ := reached.restored
  rw [← ht] at reached draft
  refine ⟨t, reached, ?_, ?_, ?_, ?_, document, draft⟩
  · rw [ht]
    rfl
  · rw [index]
    rfl
  · show t.toArena.initialScreen = _
    rw [ht]
    rfl
  · show (t.toArena.screens.map (·.toEntry)).map _ = _
    rw [ht]
    rfl

end Arena

/-- A template's document is read from the text that is written for it, under the identifier that
the template has. -/
theorem templateOfJson_toJson (t : Template) : templateOfJson t.id t.toDocument.toJson = .ok t :=
  templateOfJson_eq_ok_iff.mpr ⟨t, Template.ofJson_toDocument t, rfl⟩

theorem templateOfJson_ne_notFound (id : TemplateId) (json : String) (other : TemplateId) :
    templateOfJson id json ≠ .error (.notFound other) := by
  unfold templateOfJson
  cases Document.ofJson json with
  | error problem => simp
  | ok document =>
    simp only
    cases ({ document with id := some id } : Document).toTemplate <;> simp

/-! ## Catalogs -/

namespace Catalog

/-- The template that was put in last under an identifier is found, and those that were there before
are found where none was put in. -/
theorem get?_foldl_insert (ts : List Template) (c : Catalog) (id : TemplateId) :
    (ts.foldl insert c).get? id = (ts.reverse.find? (·.id == id)).or (c.get? id) := by
  induction ts generalizing c with
  | nil => rfl
  | cons t ts ih =>
    rw [List.foldl_cons, ih, get?_insert, List.reverse_cons, List.find?_append]
    by_cases h : t.id = id <;> simp [h]

theorem get?_ofList (ts : List Template) (id : TemplateId) :
    (ofList ts).get? id = ts.reverse.find? (·.id == id) := by
  rw [ofList, get?_foldl_insert]
  exact Option.or_none

theorem id_of_get? {c : Catalog} {id : TemplateId} {t : Template} (h : c.get? id = some t) :
    t.id = id := by
  simpa using List.find?_some h

end Catalog

/-! ## Folders of documents -/

/-- The name of the file for a template. -/
def documentName (id : TemplateId) : String := numeral id.number.toNat ++ ".json"

/-- A file belongs to one template. -/
theorem documentName_injective {r s : TemplateId} (h : documentName r = documentName s) :
    r = s := by
  have numerals := (String.append_left_inj ".json").mp h
  have numbers := UInt64.toNat.inj (numeral_injective numerals)
  cases r
  cases s
  exact congrArg TemplateId.mk numbers

/-- Identifiers have at most twenty digits. -/
theorem utf8ByteSize_documentName_le (id : TemplateId) : (documentName id).utf8ByteSize ≤ 25 := by
  have digits : (digits id.number.toNat).length ≤ 20 :=
    (Nat.length_toDigits_le_iff (by decide) (by decide)).mpr (by have := id.number.toNat_lt; omega)
  have suffix : ".json".utf8ByteSize = 5 := by decide
  rw [documentName, String.utf8ByteSize_append, utf8ByteSize_numeral, suffix]
  omega

theorem names_documentName {path : String} (null : '\x00' ∉ path.toList)
    (short : path.utf8ByteSize + 26 < FileTree.pathLimit) (id : TemplateId) :
    Names path (documentName id) := by
  have other : ∀ c : Char, c.isDigit = false → c ∉ (numeral id.number.toNat).toList := by
    intro c hc hmem
    rw [toList_numeral] at hmem
    simp [isDigit_of_mem_digits hmem] at hc
  have plain : Path.isPlain (documentName id) = true :=
    isPlain_append (by decide) (other '/' rfl)
  have size := utf8ByteSize_documentName_le id
  have limit : FileTree.nameLimit = 255 := rfl
  refine .append (by decide) (other '/' rfl) null (other '\x00' rfl) ?_ ?_
  · rw [← documentName]
    omega
  · rw [← documentName, Path.utf8ByteSize_join plain]
    split <;> omega

namespace DocumentFolder

/-- The folder with the document of a template in the file for its identifier. -/
def store (f : DocumentFolder) (t : Template) : Except OsError DocumentFolder :=
  (f.tree.write (f.pathOf t.id) t.toDocument.toJson.toUTF8).map fun tree => { f with tree }

/-- The folder in which templates have been stored in turn. -/
def storeAll (f : DocumentFolder) : List Template → Except OsError DocumentFolder
  | [] => .ok f
  | t :: ts => (f.store t).bind (·.storeAll ts)

/-- The documents in the folder at a place are those of the templates in a catalog. -/
structure Mirrors (f : DocumentFolder) (place : Place) (c : Catalog) : Prop where
  /-- The folder is at the place. -/
  base : f.tree.base f.path = .ok place
  /-- Each identifier has a file. -/
  names : ∀ id, Names f.path (documentName id)
  /-- The file of an identifier holds the document of the template that the catalog has for it. -/
  node : ∀ id, f.tree.node? (place ++ [documentName id]) =
    (c.get? id).map fun t => .file t.toDocument.toJson.toUTF8

variable {f : DocumentFolder} {place : Place} {c : Catalog}

/-- What the folder gives is what the text in the file for the identifier gives. -/
theorem fetch_eq (hbase : f.tree.base f.path = .ok place) {id : TemplateId}
    (h : Names f.path (documentName id)) :
    f.fetch id =
      match f.tree.node? (place ++ [documentName id]) with
      | none => .error (.notFound id)
      | some .folder => .error (.io id .isAFolder)
      | some (.file content) =>
        match String.fromUTF8? content with
        | none => .error (.io id .invalidText)
        | some json => templateOfJson id json := by
  have read := FileTree.read_join h hbase
  unfold fetch FileTree.readText
  rw [show f.pathOf id = Path.join f.path (documentName id) from rfl, read]
  cases f.tree.node? (place ++ [documentName id]) with
  | none => rfl
  | some node =>
    cases node with
    | folder => rfl
    | file content =>
      simp only [bind, Except.bind]
      cases String.fromUTF8? content <;> rfl

/-- **A folder gives the templates of the catalog that it mirrors.** -/
theorem Mirrors.fetch (h : f.Mirrors place c) (id : TemplateId) : f.fetch id = c.fetch id := by
  rw [fetch_eq h.base (h.names id), h.node, Catalog.fetch]
  cases hc : c.get? id with
  | none => rfl
  | some t =>
    obtain rfl : t.id = id := Catalog.id_of_get? hc
    simp only [Option.map_some, fromUTF8?_toUTF8, templateOfJson_toJson]

/-- **A template can be stored, and folder and catalog stay alike.** -/
theorem Mirrors.store (h : f.Mirrors place c) (t : Template) :
    ∃ g, f.store t = .ok g ∧ g.Mirrors place (c.insert t) := by
  have hne : place ++ [documentName t.id] ≠ [] := by simp
  have free : f.tree.node? (place ++ [documentName t.id]) ≠ some .folder := by
    rw [h.node]
    cases c.get? t.id <;> simp
  have slot : f.tree.slot (f.pathOf t.id) = .ok (place ++ [documentName t.id]) :=
    FileTree.slot_join (h.names t.id) h.base free
  refine ⟨⟨f.tree.put (place ++ [documentName t.id]) (.file t.toDocument.toJson.toUTF8), f.path⟩,
    ?_, FileTree.base_put hne free h.base, h.names, fun id => ?_⟩
  · rw [DocumentFolder.store, FileTree.write_eq, slot]
    rfl
  · rw [FileTree.node?_put _ hne, Catalog.get?_insert, h.node]
    by_cases hid : t.id = id
    · subst hid
      simp
    · have : documentName id ≠ documentName t.id := fun he => hid (documentName_injective he).symm
      simp [hid, this]

/-- Templates can be stored one after the other. -/
theorem Mirrors.storeAll (h : f.Mirrors place c) (ts : List Template) :
    ∃ g, f.storeAll ts = .ok g ∧ g.Mirrors place (ts.foldl Catalog.insert c) := by
  -- Folder and catalog grow together, so both are generalized; the folder stays at its place.
  induction ts generalizing f c with
  | nil => exact ⟨f, rfl, h⟩
  | cons t ts ih =>
    obtain ⟨g, hg, mirrors⟩ := h.store t
    obtain ⟨last, hlast, mirrors⟩ := ih mirrors
    exact ⟨last, by rw [DocumentFolder.storeAll, hg]; exact hlast, mirrors⟩

/-- A folder in which there are no documents mirrors the empty catalog. -/
theorem exists_mirrors_empty (folder : f.tree.isFolder f.path = true)
    (short : f.path.utf8ByteSize + 26 < FileTree.pathLimit)
    (empty : ∀ id, f.fetch id = .error (.notFound id)) : ∃ place, f.Mirrors place {} := by
  obtain ⟨place, hbase⟩ := FileTree.exists_base_of_isFolder folder
  have names := names_documentName (FileTree.null_not_mem_of_isFolder folder) short
  refine ⟨place, hbase, names, fun id => ?_⟩
  have missing := empty id
  rw [fetch_eq hbase (names id)] at missing
  show f.tree.node? (place ++ [documentName id]) = none
  split at missing
  · assumption
  · cases missing
  · split at missing
    · cases missing
    · exact absurd missing (templateOfJson_ne_notFound id _ id)

/-- **Tasks cannot tell a folder of documents from a catalog** in which the same templates have been
stored, one after the other and however often under one identifier. Both give the template that was
stored last, and all results that are made from it are the same. Under an identifier that none of
them has, no task of either finds a template. -/
theorem workbench_storeAll (folder : f.tree.isFolder f.path = true)
    (short : f.path.utf8ByteSize + 26 < FileTree.pathLimit)
    (empty : ∀ id, f.fetch id = .error (.notFound id)) (ts : List Template) :
    ∃ g, f.storeAll ts = .ok g ∧ ∀ (settings : Script.Settings) (id : TemplateId),
      let inMemory : Workbench := ⟨(Catalog.ofList ts).fetch, settings⟩
      let onDisk : Workbench := ⟨g.fetch, settings⟩
      inMemory.fetch id =
        (match ts.reverse.find? (·.id == id) with
        | some t => .ok t
        | none => .error (.source (.notFound id))) ∧
      onDisk.fetch id = inMemory.fetch id ∧
      onDisk.definitionScript id = inMemory.definitionScript id ∧
      onDisk.handlerScript id = inMemory.handlerScript id ∧
      onDisk.scripts id = inMemory.scripts id ∧
      onDisk.stringTable id = inMemory.stringTable id ∧
      onDisk.taskTable id = inMemory.taskTable id ∧
      ((∀ t ∈ ts, t.id ≠ id) →
        inMemory.Fails id (.source (.notFound id)) ∧ onDisk.Fails id (.source (.notFound id))) := by
  obtain ⟨place, mirrors⟩ := exists_mirrors_empty folder short empty
  obtain ⟨g, hg, mirrors⟩ := mirrors.storeAll ts
  have same : g.fetch = (Catalog.ofList ts).fetch := funext mirrors.fetch
  refine ⟨g, hg, fun settings id => ?_⟩
  have fetched : (⟨(Catalog.ofList ts).fetch, settings⟩ : Workbench).fetch id =
      (match ts.reverse.find? (·.id == id) with
      | some t => .ok t
      | none => .error (.source (.notFound id))) := by
    simp only [Workbench.fetch, Catalog.fetch, Catalog.get?_ofList]
    cases ts.reverse.find? (·.id == id) <;> rfl
  simp only [same, and_self, true_and]
  refine ⟨fetched, fun never => Workbench.fails_of_fetch ?_⟩
  have none : ts.reverse.find? (·.id == id) = none :=
    List.find?_eq_none.mpr fun t ht => by simpa using never t (List.mem_reverse.mp ht)
  rw [fetched, none]

/-- A folder without documents. -/
def shelf : DocumentFolder :=
  ⟨(FileTree.empty ["srv"]).put ["srv", "templates"] .folder, "templates"⟩

theorem fetch_shelf (id : TemplateId) : shelf.fetch id = .error (.notFound id) := by
  have base : shelf.tree.base shelf.path = .ok ["srv", "templates"] := by decide
  rw [fetch_eq base (names_documentName (by decide) (by decide) id)]
  have missing : shelf.tree.node? (["srv", "templates"] ++ [documentName id]) = none := by
    simp [shelf, FileTree.node?, FileTree.put, FileTree.empty]
  rw [missing]

/-- An inn whose only text is shown as it is, or by a reference without a key. -/
def inn (localized : Bool) : Template :=
  .ofDraft
    { name := "inn"
      id := ⟨7⟩
      localized
      screens :=
        [{ id := ⟨1⟩, name := "door", text := "Come in."
           key := if localized then some "@inn" else none }] }
    (by cases localized <;> decide)

/-- The inn that was stored last is found, and its reference is refused; no task finds another. -/
theorem workbench_storeAll_shelf :
    ∃ g, shelf.storeAll [inn true, inn false, inn true] = .ok g ∧
      (⟨g.fetch, {}⟩ : Workbench).fetch ⟨7⟩ = .ok (inn true) ∧
      (⟨g.fetch, {}⟩ : Workbench).fetch ⟨8⟩ = .error (.source (.notFound ⟨8⟩)) ∧
      (⟨g.fetch, {}⟩ : Workbench).stringTable ⟨7⟩ =
        .error (.localization (.malformedKey "@inn")) ∧
      (⟨g.fetch, {}⟩ : Workbench).scripts ⟨8⟩ = .error (.source (.notFound ⟨8⟩)) ∧
      (⟨g.fetch, {}⟩ : Workbench).stringTable ⟨8⟩ = .error (.source (.notFound ⟨8⟩)) := by
  obtain ⟨g, hg, same⟩ :=
    workbench_storeAll (f := shelf) (by decide) (by decide) fetch_shelf
      [inn true, inn false, inn true]
  obtain ⟨last, stored, -, -, -, table, -⟩ := same {} ⟨7⟩
  obtain ⟨never, missing, -, -, -, -, -, absent⟩ := same {} ⟨8⟩
  have fails := (absent (by decide)).2
  refine ⟨g, hg, stored.trans last, missing.trans never, table.trans ?_, fails.scripts,
    fails.stringTable⟩
  decide

end DocumentFolder

end Dialogue
